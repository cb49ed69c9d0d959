import GuestFirmware.Timer.ApicTimer

/-!
# The timer protocol

Other drivers reach the timer through the interface of a protocol.  A call
through no interface is refused.  `installTimer` hooks the timer to its
interrupt, starts it and installs the protocol.
-/

namespace GuestFirmware.Timer

open PlatformM

/-! ## Calls through the protocol -/

/-- Registers a handler. -/
def protocolRegister (this : Option Interface) (handler : Handler) : TimerM Status :=
  match this with
  | none => return .invalidParameter
  | some _ => do return .ofResult (← registerHandler (some handler))

/-- Sets the period. -/
def protocolSetPeriod (config : TimerConfig) (this : Option Interface) (period : UInt64) :
    TimerM Status :=
  match this with
  | none => return .invalidParameter
  | some _ => do
    setPeriod config period
    return .success

/-- Reads the period.  The second part of the answer is what is written to the
caller's variable, if it gave one. -/
def protocolGetPeriod (this : Option Interface) (hasOutput : Bool) :
    TimerM (Status × Option UInt64) :=
  match this with
  | none => return (.invalidParameter, none)
  | some _ =>
    if hasOutput then do return (.success, some (← timerPeriod))
    else return (.invalidParameter, none)

/-- Notifies the handler as a tick would. -/
def protocolSoftInterrupt (deliver : Handler → UInt64 → TimerM Unit)
    (this : Option Interface) : TimerM Status :=
  match this with
  | none => return .invalidParameter
  | some _ => do return .ofResult (← softInterrupt deliver)

/-! ## The interrupt -/

/-- The handler of the timer interrupt.  It does nothing while no timer is
active. -/
def interrupt (config : TimerConfig) (deliver : Handler → UInt64 → TimerM Unit) :
    TimerM Unit := do
  if (← get).device.active.isSome then tick config deliver

/-- Asks the processor to deliver an interrupt vector to the handler. -/
def hookInterrupt (vector : UInt8) : TimerM Status := do
  let answer := (← get).device.hookAnswer
  recordDevice (.interruptHooked vector answer)
  return answer

/-- Hooks the timer to an interrupt vector, starts it with a period, and
installs its protocol on a new handle. -/
def installTimer (config : TimerConfig) (vector : UInt8) (period : UInt64) :
    TimerM (Except Status Handle) := do
  match ← call (Services.locateProtocol .timerArch) with
  | .ok _ => return .error .alreadyStarted
  | .error _ =>
    match ← call (Services.locateProtocol .cpuArch) with
    | .error status => return .error status
    | .ok false => return .error .notFound
    | .ok true =>
      let answer ← hookInterrupt vector
      if answer.isError then return .error .deviceError
      else
        let interface ← makeInterface
        update fun timer => { timer with active := some interface }
        setPeriod config period
        call (Services.install 0 .timerArch interface)

end GuestFirmware.Timer
