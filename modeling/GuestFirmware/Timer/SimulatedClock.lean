import GuestFirmware.Timer.Calibration

/-!
# Simulated clocks

Two clocks to calibrate against: `listedClock`, whose readings are listed, and
`steadyClock`, which moves on by the same step at each reading of the PM timer.
`Clock.counted` counts the readings of a clock and stops it after a number of
them.
-/

namespace GuestFirmware.Timer

/-- The readings that are still to come. -/
structure ListedReadings where
  pm : List UInt32 := []
  /-- The last reading of the PM timer. -/
  pmLast : UInt32 := 0
  /-- How far the PM timer moves on at each reading once the list is used up.
  At zero it stops to answer. -/
  pmStep : UInt32 := 0
  tsc : List UInt64 := []

/-- The clock whose readings are listed. -/
def listedClock : Clock ListedReadings where
  readPmTimer state :=
    match state.pm with
    | reading :: rest => some (reading, { state with pm := rest, pmLast := reading })
    | [] =>
      if state.pmStep = 0 then none
      else
        let reading := state.pmLast + state.pmStep
        some (reading, { state with pmLast := reading })
  readTsc state :=
    match state.tsc with
    | reading :: rest => some (reading, { state with tsc := rest })
    | [] => none

/-- How a steady clock moves. -/
structure Pace where
  origin : UInt64
  /-- Ticks of the PM timer from one reading of it to the next. -/
  step : UInt64
  /-- Ticks of the TSC in one of the PM timer. -/
  tscPerTick : UInt64
  /-- The bits that a reading of the PM timer shows. -/
  mask : UInt64

/-- The clock that moves at a pace.  Its state is the number of readings of the
PM timer. -/
def steadyClock (pace : Pace) : Clock Nat where
  readPmTimer count :=
    let count := count + 1
    some (((pace.origin + UInt64.ofNat count * pace.step) &&& pace.mask).toUInt32, count)
  readTsc count := some (UInt64.ofNat count * pace.step * pace.tscPerTick, count)

/-- A clock with the number of its readings so far. -/
structure Counted (κ : Type) where
  state : κ
  pmReads : Nat := 0
  tscReads : Nat := 0

/-- The clock that counts the readings of another one, and answers `limit`
readings of the PM timer at most. -/
def Clock.counted {κ : Type} (limit : Nat) (clock : Clock κ) : Clock (Counted κ) where
  readPmTimer counted :=
    if limit ≤ counted.pmReads then none
    else do
      let (reading, state) ← clock.readPmTimer counted.state
      return (reading, { counted with state := state, pmReads := counted.pmReads + 1 })
  readTsc counted := do
    let (reading, state) ← clock.readTsc counted.state
    return (reading, { counted with state := state, tscReads := counted.tscReads + 1 })

end GuestFirmware.Timer
