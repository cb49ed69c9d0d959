import GuestFirmware.Platform.Services

/-!
# Programs on a platform

A `Platform` is the boot services, a device, and the trace of everything that
was done to either.  A `PlatformM` runs on a platform and answers a value.

`withTpl` runs an action at a raised task priority level and `withLock` runs it
while a lock is held.  Both end what they began, whatever the action answers.
-/

namespace GuestFirmware

/-- What a driver keeps behind a lock. -/
inductive Lock
  /-- The handler that is notified of timer ticks. -/
  | timerHandler
  /-- The controller that the display driver is started on. -/
  | startedDisplay
  deriving DecidableEq, Repr

/-- One thing that was done to a platform.  Events of the device are of type
`ε`. -/
inductive Event (ε : Type)
  | service (call : Call)
  | acquire (lock : Lock)
  | release (lock : Lock)
  | device (event : ε)
  deriving DecidableEq, Repr

/-- Boot services, a device, and the trace of what was done to them. -/
structure Platform (δ ε : Type) where
  services : Services
  device : δ
  trace : List (Event ε) := []

/-- Something to do on a platform. -/
abbrev PlatformM (δ ε α : Type) : Type :=
  StateM (Platform δ ε) α

namespace PlatformM

variable {δ ε α : Type}

/-- Adds an event to the trace. -/
def record (event : Event ε) : PlatformM δ ε Unit :=
  modify fun platform => { platform with trace := platform.trace ++ [event] }

/-- Adds an event of the device to the trace. -/
def recordDevice (event : ε) : PlatformM δ ε Unit :=
  record (.device event)

/-- Calls the boot services. -/
def call (service : Services → α × Services × Call) : PlatformM δ ε α := do
  let (value, services, made) := service (← get).services
  modify fun platform => { platform with services := services }
  record (.service made)
  return value

/-- Sets the task priority level back. -/
def restoreTpl (level : Tpl) : PlatformM δ ε Unit :=
  call fun services => ((), services.restoreTpl level)

/-- Runs an action at a raised level.  The level is set back at the end to the
one that raising it answered. -/
def withTpl (level : Tpl) (action : PlatformM δ ε α) : PlatformM δ ε α := do
  let previous ← call (Services.raiseTpl level)
  let value ← action
  restoreTpl previous
  return value

/-- Runs an action while a lock is held. -/
def withLock (lock : Lock) (action : PlatformM δ ε α) : PlatformM δ ε α := do
  record (.acquire lock)
  let value ← action
  record (.release lock)
  return value

/-- A new identity for an interface. -/
def makeInterface : PlatformM δ ε Interface :=
  modifyGet fun platform =>
    let (interface, services) := platform.services.makeInterface
    (interface, { platform with services := services })

end PlatformM

end GuestFirmware
