/-!
# Calibrating the time stamp counter

The hypervisor does not report the frequency of the time stamp counter (TSC).
It is measured against the power management (PM) timer, whose frequency is
fixed: both are read at an edge of the PM timer and again about 50 ms later.

`measureFrequency` makes the measurement on any `Clock`.  It gives up after a
number of readings, so that it ends on a clock that stands still.
-/

namespace GuestFirmware.Timer

/-- Ticks of the PM timer in a second. -/
def pmTimerFrequency : Nat := 3579545

/-- The PM timer counts up to this value, at least. -/
def pmTimerMask : UInt32 := 0x00FFFFFF

/-- The measurement takes this part of a second. -/
def calibrationDivisor : Nat := 20

/-- The PM timer ticks that the measurement waits for. -/
def calibrationTicks : Nat := pmTimerFrequency / calibrationDivisor

/-- The two counters.  A reading changes the state of the clock, and a clock
may stop to answer. -/
structure Clock (κ : Type) where
  readPmTimer : κ → Option (UInt32 × κ)
  readTsc : κ → Option (UInt64 × κ)

variable {κ : Type}

/-- Reads the PM timer, `limit` times at most, until it shows another value. -/
def awaitEdge (clock : Clock κ) (first : UInt32) : Nat → κ → Option (UInt32 × κ)
  | 0, _ => none
  | limit + 1, state =>
    match clock.readPmTimer state with
    | none => none
    | some (reading, state) =>
      if reading = first then awaitEdge clock first limit state else some (reading, state)

/-- The ticks of the PM timer between two readings. -/
def pmElapsed (start reading : UInt32) : Nat :=
  ((reading - start) &&& pmTimerMask).toNat

/-- Reads the PM timer, `limit` times at most, until enough ticks have passed
since `start`.  Answers how many. -/
def awaitTicks (clock : Clock κ) (start : UInt32) : Nat → κ → Option (Nat × κ)
  | 0, _ => none
  | limit + 1, state =>
    match clock.readPmTimer state with
    | none => none
    | some (reading, state) =>
      if pmElapsed start reading < calibrationTicks then awaitTicks clock start limit state
      else some (pmElapsed start reading, state)

/-- The frequency of a counter that made `tscTicks` while the PM timer made
`pmTicks`. -/
def frequencyOf (tscTicks : UInt64) (pmTicks : Nat) : UInt64 :=
  UInt64.ofNat (tscTicks.toNat * pmTimerFrequency / pmTicks)

/-- Measures the frequency of the TSC.  Each of the two waits reads the PM timer
`limit` times at most. -/
def measureFrequency (clock : Clock κ) (limit : Nat) (state : κ) : Option (UInt64 × κ) := do
  let (first, state) ← clock.readPmTimer state
  let (startPm, state) ← awaitEdge clock first limit state
  let (startTsc, state) ← clock.readTsc state
  let (pmTicks, state) ← awaitTicks clock startPm limit state
  let (endTsc, state) ← clock.readTsc state
  return (frequencyOf (endTsc - startTsc) pmTicks, state)

end GuestFirmware.Timer
