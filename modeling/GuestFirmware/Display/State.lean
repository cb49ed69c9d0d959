import GuestFirmware.Display.Canvas
import GuestFirmware.Display.GraphicsOutput
import GuestFirmware.Platform.Monad

/-!
# The state of the display

The display driver works on a platform whose device is a `DisplayState`: what the
driver holds, the graphics device, and the pixels in memory.  Each access to the device
and to the pixels leaves a `DisplayEvent` on the trace.

The graphics device is reached through the PCI I/O protocol of its controller: 32-bit words
of the configuration space, and 32-bit registers of the first address window.  `PciAccess`
is what the protocol answers.  An access whose status is an error has no effect and no value.
-/

namespace GuestFirmware.Display

open PlatformM

/-- One thing that the display driver did to its surroundings. -/
inductive DisplayEvent
  | configRead (offset : UInt32) (status : Status)
  | registerRead (offset : UInt64) (status : Status)
  | registerWrite (offset : UInt64) (value : UInt32) (status : Status)
  /-- A row of pixels was read. -/
  | pixelsRead (side : Side) (start width : Nat)
  /-- A row of pixels was written. -/
  | pixelsWritten (side : Side) (start : Nat) (row : List UInt32)
  deriving DecidableEq, Repr

/-- The controller that a driver is started on, with the output it shows. -/
structure Started where
  controller : Handle
  output : GraphicsOutput
  /-- The interface through which the output is reached. -/
  interface : Interface

/-- The display driver. -/
structure DisplayDriver where
  config : DisplayConfig := {}
  /-- The handle of the driver's image. -/
  image : Handle := 0
  /-- The handle that carries the driver's binding, which opens controllers. -/
  agent : Handle := 0
  started : Option Started := none

/-- The display driver, the device under it, and the pixels that a transfer reaches. -/
structure DisplayState (δ : Type) where
  driver : DisplayDriver := {}
  hardware : δ
  memory : PixelMemory := {}

/-- Something to do on a platform with a display. -/
abbrev DisplayM (δ α : Type) : Type :=
  PlatformM (DisplayState δ) DisplayEvent α

variable {δ α : Type}

/-! ## The graphics device -/

/-- Uses the device. -/
def useHardware (use : δ → α × δ) : DisplayM δ α :=
  modifyGet fun platform =>
    let (value, hardware) := use platform.device.hardware
    (value, { platform with device := { platform.device with hardware := hardware } })

/-- A device behind the PCI I/O protocol.  It has a state of its own and may
fail any access. -/
structure PciAccess (δ : Type) where
  readConfig : UInt32 → δ → (Status × UInt32) × δ
  readRegister : UInt64 → δ → (Status × UInt32) × δ
  writeRegister : UInt64 → UInt32 → δ → Status × δ

/-- Reads a word of the configuration space. -/
def readConfig (pci : PciAccess δ) (offset : UInt32) : DisplayM δ (Except Status UInt32) := do
  let (status, value) ← useHardware (pci.readConfig offset)
  recordDevice (.configRead offset status)
  return status.guard value

/-- Reads a register. -/
def readRegister (pci : PciAccess δ) (offset : UInt64) :
    DisplayM δ (Except Status UInt32) := do
  let (status, value) ← useHardware (pci.readRegister offset)
  recordDevice (.registerRead offset status)
  return status.guard value

/-- Writes a register. -/
def writeRegister (pci : PciAccess δ) (offset : UInt64) (value : UInt32) :
    DisplayM δ (Except Status Unit) := do
  let status ← useHardware (pci.writeRegister offset value)
  recordDevice (.registerWrite offset value status)
  return status.guard ()

/-! ## Pixels -/

/-- The pixels in memory. -/
def currentMemory : DisplayM δ PixelMemory := do
  return (← get).device.memory

/-- Changes the pixels in memory. -/
def updateMemory (change : PixelMemory → PixelMemory) : DisplayM δ Unit :=
  modify fun platform =>
    { platform with device := { platform.device with memory := change platform.device.memory } }

instance : MonadPixels (DisplayM δ) where
  readPixels side start width := do
    recordDevice (.pixelsRead side start width)
    return readRow ((← currentMemory).pixels side) start width
  writePixels side start row := do
    recordDevice (.pixelsWritten side start row)
    updateMemory (PixelMemory.write side start row)

end GuestFirmware.Display
