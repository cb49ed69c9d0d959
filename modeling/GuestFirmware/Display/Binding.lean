import GuestFirmware.Display.Handshake

/-!
# The display driver

The driver is bound to one controller at most.  `start` opens the controller,
installs a graphics output on it, asks the host for a frame buffer and selects
the only mode; when a step fails, the steps before it are undone.  `stop` takes
all of it back.  `supported` only looks whether a controller is suitable.
-/

namespace GuestFirmware.Display

open PlatformM

variable {δ : Type}

/-- The state of the driver. -/
def currentDriver : DisplayM δ DisplayDriver := do
  return (← get).device.driver

/-- Changes the state of the driver. -/
def updateDriver (change : DisplayDriver → DisplayDriver) : DisplayM δ Unit :=
  modify fun platform =>
    { platform with device := { platform.device with driver := change platform.device.driver } }

/-- Opens a controller. -/
def openController (controller : Handle) : DisplayM δ (Except Status Unit) := do
  let agent := (← currentDriver).agent
  call (Services.openProtocol controller .pciIo agent)

/-- Closes a controller.  A failure to do so is ignored. -/
def closeController (controller : Handle) : DisplayM δ Unit := do
  let agent := (← currentDriver).agent
  let _ ← call (Services.closeProtocol controller .pciIo agent)

/-- Looks whether a controller is a device whose host lends frame buffers. -/
def supported (pci : PciAccess δ) (controller : Handle) :
    DisplayM δ (Except Status Unit) := do
  match ← openController controller with
  | .error status => return .error status
  | .ok _ =>
    let detected ← (detect pci).run
    closeController controller
    return match detected with
      | .error failure => .error failure.status
      | .ok _ => .ok ()

/-- Gives an output the frame buffer of the host and selects its mode. -/
def bringUp (pci : PciAccess δ) (output : GraphicsOutput) :
    DisplayM δ (Except Status GraphicsOutput) := do
  match ← (requestFrame pci).run with
  | .error failure => return .error failure.status
  | .ok frame =>
    return match output.attach frame with
      | (.error failure, _) => .error failure.status
      | (.ok _, output) =>
        match output.setMode 0 with
        | (.error status, _) => .error status
        | (.ok _, output) => .ok output

/-- The last stage of a start: the installed output is brought up. -/
def startInstalled (pci : PciAccess δ) (config : DisplayConfig) (controller : Handle)
    (interface : Interface) : DisplayM δ (Except Status Unit) := do
  match ← bringUp pci (.ofConfig config) with
  | .error status =>
    let _ ← call (Services.uninstall controller .graphicsOutput interface)
    closeController controller
    return .error status
  | .ok output =>
    updateDriver fun driver => { driver with started := some ⟨controller, output, interface⟩ }
    return .ok ()

/-- The stage of a start that installs an output on the open controller. -/
def startOpened (pci : PciAccess δ) (config : DisplayConfig) (controller : Handle) :
    DisplayM δ (Except Status Unit) := do
  let interface ← makeInterface
  match ← call (Services.install controller .graphicsOutput interface) with
  | .error status =>
    closeController controller
    return .error status
  | .ok _ => startInstalled pci config controller interface

/-- What a start does while it holds the lock. -/
def startLocked (pci : PciAccess δ) (controller : Handle) : DisplayM δ (Except Status Unit) := do
  let driver ← currentDriver
  match driver.started with
  | some _ => return .ok ()
  | none =>
    match ← openController controller with
    | .error status => return .error status
    | .ok _ => startOpened pci driver.config controller

/-- Starts the driver on a controller.  A driver that is started already stays
where it is. -/
def start (pci : PciAccess δ) (controller : Handle) : DisplayM δ (Except Status Unit) :=
  withTpl .callback <| withLock .startedDisplay <| startLocked pci controller

/-- What a stop does while it holds the lock. -/
def stopLocked (controller : Handle) : DisplayM δ (Except Status Unit) := do
  match (← currentDriver).started with
  | none => return .ok ()
  | some started =>
    if started.controller ≠ controller then return .ok ()
    else
      match ← call (Services.uninstall controller .graphicsOutput started.interface) with
      | .error status => return .error status
      | .ok _ =>
        closeController controller
        updateDriver fun driver => { driver with started := none }
        return .ok ()

/-- Stops the driver on a controller.  There is nothing to do for a controller
that the driver is not started on. -/
def stop (controller : Handle) : DisplayM δ (Except Status Unit) :=
  withTpl .callback <| withLock .startedDisplay <| stopLocked controller

/-! ## The binding -/

/-- Installs the binding of the driver on a new handle, which then stands for
the driver. -/
def installBinding : DisplayM δ (Except Status Handle) := do
  let interface ← makeInterface
  match ← call (Services.install 0 .driverBinding interface) with
  | .error status => return .error status
  | .ok handle =>
    updateDriver fun driver => { driver with image := handle, agent := handle }
    return .ok handle

/-- The component that installs the binding. -/
def runBindingComponent : DisplayM δ (Except ComponentError Unit) := do
  match ← installBinding with
  | .error status => return .error (.ofStatus status)
  | .ok _ => return .ok ()

/-- A call of the binding. -/
inductive BindingCall
  | supported (controller : Handle)
  | start (controller : Handle)
  | stop (controller : Handle)
  deriving DecidableEq, Repr

/-- Makes a call of the binding. -/
def BindingCall.run (pci : PciAccess δ) : BindingCall → DisplayM δ (Except Status Unit)
  | supported controller => Display.supported pci controller
  | start controller => Display.start pci controller
  | stop controller => Display.stop controller

/-- A call through the interface of the binding, which must be there. -/
def BindingCall.protocolRun (pci : PciAccess δ) (hasInterface : Bool) (made : BindingCall) :
    DisplayM δ Status := do
  if hasInterface then return .ofResult (← made.run pci)
  else return .invalidParameter

/-- Makes calls of the binding one after the other. -/
def runBindingCalls (pci : PciAccess δ) :
    List BindingCall → DisplayM δ (List (Except Status Unit))
  | [] => return []
  | made :: rest => do
    let answer ← made.run pci
    return answer :: (← runBindingCalls pci rest)

end GuestFirmware.Display
