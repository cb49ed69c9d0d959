import GuestFirmware.Display.State

/-!
# The handshake with the host

A mediated device reserves a page of registers for messages between guest and
host.  `detect` recognises the page.  `requestFrame` asks the host for a frame
buffer and reads the host's description of it.
-/

namespace GuestFirmware.Display

/-- The bytes `vGTvGTvG` as a word. -/
def pageMagic : UInt64 := 0x4776544776544776

/-- Offset of the page. -/
def pageBase : UInt64 := 0x78000

/-- Offset in the page of the register that takes commands. -/
def commandOffset : UInt64 := 0x818

/-- Offset in the page of the description of the frame buffer. -/
def frameOffset : UInt64 := 0x860

/-- The command that asks for a frame buffer. -/
def setupCommand : UInt32 := 0x8

/-- The capability of lending a frame buffer. -/
def frameCapability : UInt32 := 0x20

/-- The vendor of the device. -/
def vendorId : UInt16 := 0x8086

/-- The class of display controllers. -/
def displayClass : UInt8 := 0x03

/-- Offset of the configuration word with the vendor. -/
def vendorOffset : UInt32 := 0x00

/-- Offset of the configuration word with the class. -/
def classOffset : UInt32 := 0x08

/-- What the page says about the device. -/
structure PageHeader where
  magic : UInt64
  majorVersion : UInt16
  minorVersion : UInt16
  identity : UInt32
  capabilities : UInt32
  deriving DecidableEq, Repr

variable {δ : Type}

/-- An action that may fail. -/
abbrev Attempt (δ α : Type) : Type :=
  ExceptT DisplayError (StateM (Platform (DisplayState δ) DisplayEvent)) α

/-- An access that may fail. -/
def attempt {α : Type} (access : DisplayM δ (Except Status α)) : Attempt δ α :=
  ExceptT.mk do
    match ← access with
    | .error status => return .error (.registerAccess status)
    | .ok value => return .ok value

/-- Reads `count` registers in a row. -/
def readBlock (pci : PciAccess δ) (offset : UInt64) : Nat → Attempt δ (List UInt32)
  | 0 => return []
  | count + 1 => do
    let value ← attempt (readRegister pci offset)
    return value :: (← readBlock pci (offset + 4) count)

/-- The header in the first five registers of the page. -/
def PageHeader.ofWords (words : List UInt32) : PageHeader where
  magic := (words.getD 0 0).toUInt64 ||| ((words.getD 1 0).toUInt64 <<< 32)
  majorVersion := (words.getD 2 0).toUInt16
  minorVersion := (words.getD 2 0 >>> 16).toUInt16
  identity := words.getD 3 0
  capabilities := words.getD 4 0

/-- The description in six registers. -/
def HostFrame.ofWords (words : List UInt32) : HostFrame where
  base := words.getD 0 0
  width := words.getD 1 0
  height := words.getD 2 0
  pitch := words.getD 3 0
  bitsPerPixel := words.getD 4 0
  size := words.getD 5 0

/-- Recognises a device whose host lends frame buffers. -/
def detect (pci : PciAccess δ) : Attempt δ PageHeader := do
  let vendor ← attempt (readConfig pci vendorOffset)
  let revision ← attempt (readConfig pci classOffset)
  if vendor.toUInt16 ≠ vendorId ∨ (revision >>> 24).toUInt8 ≠ displayClass then
    throw .notDisplayDevice
  else
    let header := PageHeader.ofWords (← readBlock pci pageBase 5)
    if header.magic ≠ pageMagic then throw (.badMagic header.magic)
    else if header.capabilities &&& frameCapability = 0 then throw .noFrameSupport
    else return header

/-- Reads the description of the frame buffer, which must be usable. -/
def readFrame (pci : PciAccess δ) : Attempt δ HostFrame := do
  let frame := HostFrame.ofWords (← readBlock pci (pageBase + frameOffset) 6)
  if frame.Usable then return frame else throw .unusableFrame

/-- Asks the host for a frame buffer and answers its description. -/
def requestFrame (pci : PciAccess δ) : Attempt δ HostFrame := do
  attempt (writeRegister pci (pageBase + commandOffset) setupCommand)
  readFrame pci

end GuestFirmware.Display
