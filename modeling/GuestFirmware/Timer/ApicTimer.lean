import GuestFirmware.Arithmetic
import GuestFirmware.Platform.Monad
import GuestFirmware.Timer.LocalApic

/-!
# The platform timer

The timer interrupts one period after it was set and again one period after
each interrupt.  It runs the local APIC in deadline mode, where an interrupt
comes when the time stamp counter reaches a written deadline.  `deadline` is the
reading one period after a given one.  A period of zero stands for a timer that is
off.

A registered handler is notified of every tick.  It may call the timer itself
while it runs.  What it does is a `Reaction`, and `deliverUpTo` runs the
reactions of handlers that call each other down to a given depth.
-/

namespace GuestFirmware.Timer

/-! ## Deadlines -/

/-- Units of a timer period, which are 100 ns long, in a second. -/
def unitsPerSecond : Nat := 10000000

/-- The ticks of a counter of the given frequency in a period. -/
def ticksIn (frequency period : UInt64) : Nat :=
  frequency.toNat * period.toNat / unitsPerSecond

/-- A period whose product with the frequency reaches the units in a second has a tick. -/
theorem one_le_ticksIn {frequency period : UInt64}
    (hticks : unitsPerSecond ≤ frequency.toNat * period.toNat) : 1 ≤ ticksIn frequency period :=
  (Nat.le_div_iff_mul_le (by decide)).mpr (by rwa [Nat.one_mul])

/-- The counter reading one period after a reading, at most the greatest there
is. -/
def deadline (frequency period tsc : UInt64) : UInt64 :=
  saturatingAdd tsc (ticksIn frequency period)

theorem toNat_deadline (frequency period tsc : UInt64) :
    (deadline frequency period tsc).toNat =
      min (tsc.toNat + frequency.toNat * period.toNat / unitsPerSecond) lastWord :=
  toNat_saturatingAdd tsc (ticksIn frequency period)

/-! ## The timer -/

/-- The address of a handler that is notified of ticks. -/
abbrev Handler : Type := Nat

/-- The part of the timer that does not change. -/
structure TimerConfig where
  /-- The interrupt vector that the APIC delivers. -/
  vector : UInt8
  /-- Ticks of the time stamp counter in a second. -/
  frequency : UInt64
  deriving DecidableEq, Repr

/-- The timer and the hardware under it. -/
structure ApicTimer where
  apic : LocalApic := {}
  handler : Option Handler := none
  period : UInt64 := 0
  /-- The interface whose timer the interrupt services. -/
  active : Option Interface := none
  /-- What the processor answers to a request for an interrupt vector. -/
  hookAnswer : Status := .success

/-- One thing that the timer did to its surroundings. -/
inductive TimerEvent
  | registerWrite (offset value : UInt32)
  | tscRead (value : UInt64)
  | deadlineWrite (value : UInt64)
  /-- The stored period changed. -/
  | periodStored (period : UInt64)
  /-- A handler was notified of a tick. -/
  | notified (handler : Handler) (period : UInt64)
  /-- A handler reported the status of a call that it made. -/
  | reported (status : Status)
  | interruptHooked (vector : UInt8) (status : Status)
  deriving DecidableEq, Repr

/-- A platform with a timer. -/
abbrev TimerPlatform : Type :=
  Platform ApicTimer TimerEvent

/-- Something to do on a platform with a timer. -/
abbrev TimerM (α : Type) : Type :=
  PlatformM ApicTimer TimerEvent α

open PlatformM

/-! ## The hardware -/

/-- The value of an APIC register. -/
def readRegister (offset : UInt32) : TimerM UInt32 := do
  return (← get).device.apic.registers offset

/-- Changes the state of the timer. -/
def update (change : ApicTimer → ApicTimer) : TimerM Unit :=
  modify fun platform => { platform with device := change platform.device }

/-- Writes an APIC register. -/
def writeRegister (offset value : UInt32) : TimerM Unit := do
  update fun timer => { timer with apic := timer.apic.write offset value }
  recordDevice (.registerWrite offset value)

/-- Reads the time stamp counter. -/
def readTsc : TimerM UInt64 := do
  let apic := (← get).device.apic
  let value := apic.tscAt apic.tscReads
  update fun timer => { timer with apic := { timer.apic with tscReads := apic.tscReads + 1 } }
  recordDevice (.tscRead value)
  return value

/-- Writes the deadline.  Zero disarms the timer. -/
def writeDeadline (value : UInt64) : TimerM Unit := do
  update fun timer => { timer with apic := { timer.apic with deadline := some value } }
  recordDevice (.deadlineWrite value)

/-- Masks the timer interrupt or lets it through. -/
def setMasked (masked : Bool) : TimerM Unit := do
  writeRegister lvtTimer (LvtTimer.setMasked (← readRegister lvtTimer) masked)

/-- Enables the APIC and puts the timer into deadline mode, masked. -/
def enable (config : TimerConfig) : TimerM (Except Status Unit) := do
  if (← get).device.apic.hasDeadlineMode then
    let spurious ← readRegister spuriousVector
    if !SpuriousVector.isEnabled spurious then
      writeRegister spuriousVector (SpuriousVector.enable spurious)
    writeRegister lvtTimer (LvtTimer.configure (← readRegister lvtTimer) config.vector)
    return .ok ()
  else return .error .deviceError

/-- The deadline one period from now. -/
def nextDeadline (config : TimerConfig) (period : UInt64) : TimerM UInt64 := do
  return deadline config.frequency period (← readTsc)

/-! ## Operations -/

/-- The stored period. -/
def timerPeriod : TimerM UInt64 := do
  return (← get).device.period

/-- Stores a period. -/
def storePeriod (period : UInt64) : TimerM Unit := do
  update fun timer => { timer with period := period }
  recordDevice (.periodStored period)

/-- Registers a handler in an empty slot, or takes the registered one out. -/
def registerHandler (handler : Option Handler) : TimerM (Except Status Unit) :=
  withTpl .high <| withLock .timerHandler do
    match handler, (← get).device.handler with
    | none, none => return .error .invalidParameter
    | some _, some _ => return .error .alreadyStarted
    | _, _ =>
      update fun timer => { timer with handler := handler }
      return .ok ()

/-- Programs the timer for a period.  It is masked and disarmed first, so that
no old deadline is left when it is let through again. -/
def setPeriod (config : TimerConfig) (period : UInt64) : TimerM Unit :=
  withTpl .high do
    setMasked true
    writeDeadline 0
    if period ≠ 0 then
      let next ← nextDeadline config period
      setMasked false
      writeDeadline next
    storePeriod period

/-- The registered handler, read while its slot is locked. -/
def currentHandler : TimerM (Option Handler) :=
  withLock .timerHandler do return (← get).device.handler

/-- Notifies the registered handler, if there is one.  `deliver` is what a
handler does when it runs. -/
def notifyHandler (deliver : Handler → UInt64 → TimerM Unit) (period : UInt64) :
    TimerM Unit := do
  match ← currentHandler with
  | none => return ()
  | some handler =>
    recordDevice (.notified handler period)
    deliver handler period

/-- Notifies the handler as a tick would.  Not offered while the timer is off. -/
def softInterrupt (deliver : Handler → UInt64 → TimerM Unit) :
    TimerM (Except Status Unit) :=
  withTpl .high do
    if LvtTimer.isMasked (← readRegister lvtTimer) then return .error .unsupported
    else
      notifyHandler deliver (← timerPeriod)
      return .ok ()

/-- Services one timer interrupt: ends it, arms the timer for the next one, and
notifies the handler. -/
def tick (config : TimerConfig) (deliver : Handler → UInt64 → TimerM Unit) :
    TimerM Unit :=
  withTpl .high do
    writeRegister endOfInterrupt 0
    let period ← timerPeriod
    let next ← if period ≠ 0 then nextDeadline config period else pure 0
    writeDeadline next
    notifyHandler deliver period

/-! ## Calls and reactions -/

/-- A call of the timer. -/
inductive TimerCall
  | register (handler : Option Handler)
  | setPeriod (period : UInt64)
  | softInterrupt
  | tick
  deriving DecidableEq, Repr

/-- Makes a call of the timer. -/
def TimerCall.run (config : TimerConfig) (deliver : Handler → UInt64 → TimerM Unit) :
    TimerCall → TimerM (Except Status Unit)
  | register handler => registerHandler handler
  | setPeriod period => do
    Timer.setPeriod config period
    return .ok ()
  | softInterrupt => Timer.softInterrupt deliver
  | tick => do
    Timer.tick config deliver
    return .ok ()

/-- What a handler does after it was notified.  It sees the answer of each call
that it makes and the platform after it. -/
inductive Reaction
  /-- The handler returns. -/
  | done
  /-- The handler calls the timer and goes on. -/
  | call (made : TimerCall) (next : Except Status Unit → TimerPlatform → Reaction)
  /-- The handler reports a status and goes on. -/
  | report (status : Status) (next : Reaction)

/-- The handler makes one call and returns. -/
def Reaction.calling (made : TimerCall) : Reaction :=
  call made fun _ _ => done

/-- The handler makes one call, reports its answer and returns. -/
def Reaction.reporting (made : TimerCall) : Reaction :=
  call made fun answer _ => report (.ofResult answer) done

/-- How each handler reacts, given the period and the platform at its call. -/
abbrev Behaviour : Type :=
  Handler → UInt64 → TimerPlatform → Reaction

/-- Runs a reaction.  `perform` makes its calls. -/
def Reaction.run (perform : TimerCall → TimerM (Except Status Unit)) :
    Reaction → TimerM Unit
  | done => return ()
  | call made next => do
    let answer ← perform made
    let platform ← get
    (next answer platform).run perform
  | report status next => do
    recordDevice (.reported status)
    next.run perform

/-- Runs handlers that call the timer down to a depth.  Handlers that are
notified at the depth zero make no calls. -/
def deliverUpTo (config : TimerConfig) (behaviour : Behaviour) :
    Nat → Handler → UInt64 → TimerM Unit
  | 0, _, _ => return ()
  | depth + 1, handler, period => do
    (behaviour handler period (← get)).run
      (TimerCall.run config (deliverUpTo config behaviour depth))

/-- Makes calls of the timer one after the other. -/
def runCalls (config : TimerConfig) (deliver : Handler → UInt64 → TimerM Unit) :
    List TimerCall → TimerM (List (Except Status Unit))
  | [] => return []
  | made :: rest => do
    let answer ← made.run config deliver
    return answer :: (← runCalls config deliver rest)

end GuestFirmware.Timer
