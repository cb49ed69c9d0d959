import GuestFirmware.Platform.Guid
import GuestFirmware.Status

/-!
# Boot services

Drivers ask the boot services for a task priority level, for interfaces of
protocols, and for memory.  `Services` is what they answer next and what they
remember: the current level, the installed interfaces, and the handle given out
next.  `Call` is one call, with its answer, as an observer sees it.

Every call below answers a value, the services after it, and the `Call` that
was made.
-/

namespace GuestFirmware

/-- The name of an object that carries protocols.  Zero is the name of none. -/
abbrev Handle : Type := UInt64

/-- A task priority level. -/
abbrev Tpl : Type := UInt64

/-- The level of callbacks. -/
def Tpl.callback : Tpl := 8

/-- The level of notifications. -/
def Tpl.notify : Tpl := 16

/-- The level that keeps interrupts off. -/
def Tpl.high : Tpl := 31

/-- The identity of an interface that was made for a protocol. -/
abbrev Interface : Type := Nat

/-- An interface that is installed on a handle. -/
structure Installation where
  handle : Handle
  protocol : Guid
  interface : Interface
  deriving DecidableEq, Repr

/-- A pointer that was asked for: the status of the call, and whether there is
anything behind the pointer. -/
structure Located where
  status : Status := .success
  present : Bool := true
  deriving DecidableEq, Repr

/-- The answer of a call for a pointer. -/
def Located.answer (located : Located) : Except Status Bool :=
  located.status.guard located.present

/-- One call of the boot services and its answer. -/
inductive Call
  | raiseTpl (level previous : Tpl)
  | restoreTpl (level : Tpl)
  | openProtocol (controller : Handle) (protocol : Guid) (agent : Handle) (status : Status)
  | closeProtocol (controller : Handle) (protocol : Guid) (agent : Handle) (status : Status)
  | install (given : Handle) (protocol : Guid) (interface : Interface) (result : Handle)
      (status : Status)
  | uninstall (handle : Handle) (protocol : Guid) (interface : Interface) (known : Bool)
      (status : Status)
  | allocatePool (size : Nat) (reply : Located)
  | locateProtocol (protocol : Guid) (status : Status)
  | locateHandles (protocol : Guid) (status : Status)
  | handleProtocol (handle : Handle) (protocol : Guid) (status : Status)
  /-- The first raw section of a file was read. -/
  | readSection (volume : Handle) (file : Guid) (status : Status)
  deriving DecidableEq, Repr

/-- The boot services: the answers that are still to come and what earlier
calls left behind.  A list of answers that is used up goes on with success. -/
structure Services where
  tpl : Tpl := 4
  opens : List Status := []
  closes : List Status := []
  installs : List Status := []
  uninstalls : List Status := []
  pools : List Located := []
  /-- The answer of a search for a protocol. -/
  located : Guid → Located := fun _ => { status := .notFound }
  /-- The handle that is given out next. -/
  nextHandle : Handle := 0x3000
  installed : List Installation := []
  /-- The identity of the interface that is made next. -/
  nextInterface : Interface := 0

namespace Services

/-- The distance of two handles that are given out one after the other. -/
def handleStep : Handle := 0x1000

/-- The next answer of a list. -/
def nextAnswer (answers : List Status) : Status :=
  answers.headD .success

/-- Raises the level and answers the previous one. -/
def raiseTpl (level : Tpl) (services : Services) : Tpl × Services × Call :=
  (services.tpl, { services with tpl := level }, .raiseTpl level services.tpl)

/-- Sets the level back. -/
def restoreTpl (level : Tpl) (services : Services) : Services × Call :=
  ({ services with tpl := level }, .restoreTpl level)

/-- Opens a protocol of a controller on behalf of a driver. -/
def openProtocol (controller : Handle) (protocol : Guid) (agent : Handle) (services : Services) :
    Except Status Unit × Services × Call :=
  let status := nextAnswer services.opens
  (status.guard (), { services with opens := services.opens.tail },
    .openProtocol controller protocol agent status)

/-- Closes a protocol that was opened. -/
def closeProtocol (controller : Handle) (protocol : Guid) (agent : Handle) (services : Services) :
    Except Status Unit × Services × Call :=
  let status := nextAnswer services.closes
  (status.guard (), { services with closes := services.closes.tail },
    .closeProtocol controller protocol agent status)

/-- Installs an interface on a handle, or on a new one when no handle is given.
Answers the handle. -/
def install (given : Handle) (protocol : Guid) (interface : Interface) (services : Services) :
    Except Status Handle × Services × Call :=
  let status := nextAnswer services.installs
  let services := { services with installs := services.installs.tail }
  if status.isError then
    (.error status, services, .install given protocol interface given status)
  else
    let fresh := given == 0
    let handle := if fresh then services.nextHandle else given
    let next := if fresh then services.nextHandle + handleStep else services.nextHandle
    (.ok handle,
      { services with
        nextHandle := next
        installed := services.installed ++ [⟨handle, protocol, interface⟩] },
      .install given protocol interface handle status)

/-- Takes an interface off a handle. -/
def uninstall (handle : Handle) (protocol : Guid) (interface : Interface) (services : Services) :
    Except Status Unit × Services × Call :=
  let status := nextAnswer services.uninstalls
  let installation : Installation := ⟨handle, protocol, interface⟩
  let known := services.installed.contains installation
  let installed :=
    if status.isError then services.installed else services.installed.erase installation
  (status.guard (),
    { services with uninstalls := services.uninstalls.tail, installed := installed },
    .uninstall handle protocol interface known status)

/-- Allocates memory.  Answers whether there is any behind the pointer. -/
def allocatePool (size : Nat) (services : Services) :
    Except Status Bool × Services × Call :=
  let reply := services.pools.headD {}
  (reply.answer, { services with pools := services.pools.tail }, .allocatePool size reply)

/-- Searches for a protocol.  Answers whether there is an interface behind the
pointer. -/
def locateProtocol (protocol : Guid) (services : Services) :
    Except Status Bool × Services × Call :=
  let reply := services.located protocol
  (reply.answer, services, .locateProtocol protocol reply.status)

/-- A new identity for an interface. -/
def makeInterface (services : Services) : Interface × Services :=
  (services.nextInterface, { services with nextInterface := services.nextInterface + 1 })

end Services

end GuestFirmware
