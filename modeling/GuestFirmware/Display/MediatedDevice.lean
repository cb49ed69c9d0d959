import GuestFirmware.Display.Handshake

/-!
# A mediated device

`MediatedDevice` is a device that is given by the words it holds.  Its host
describes a frame buffer in the page when the guest asks for one.  Accesses at
listed offsets are answered with listed statuses.

`VideoMemory` holds the pixels that the host lends to guests.  An output shows
the part of it that begins at the base of its frame buffer.  `VideoMemory.view`
takes that part out (`size_view`) and `VideoMemory.store` puts it back.
-/

namespace GuestFirmware.Display

/-! ## Video memory -/

/-- Memory for pixels, zero at first. -/
structure VideoMemory where
  /-- The address of the first pixel. -/
  base : Nat := 0x20000000
  /-- How many pixels there are. -/
  capacity : Nat := 0x400000
  /-- The pixels up to the last one that was used. -/
  pixels : Pixels := #[]

namespace VideoMemory

/-- The first pixel of an output and how many pixels it has, none when its frame
buffer lies elsewhere. -/
def span (memory : VideoMemory) (output : GraphicsOutput) : Nat × Nat :=
  let address := output.frameBufferBase.toNat
  let first := (address - memory.base) / bytesPerPixel
  if memory.base ≤ address ∧ first < memory.capacity then
    (first, min output.pixelCount (memory.capacity - first))
  else (0, 0)

/-- The pixels up to a count, with zeros where none was used yet. -/
def filled (memory : VideoMemory) (count : Nat) : Pixels :=
  memory.pixels ++ Array.replicate (count - memory.pixels.size) 0

/-- The pixels of an output. -/
def view (memory : VideoMemory) (output : GraphicsOutput) : Pixels :=
  let (first, count) := memory.span output
  (memory.filled (first + count)).extract first (first + count)

@[simp] theorem size_view (memory : VideoMemory) (output : GraphicsOutput) :
    (memory.view output).size = (memory.span output).2 := by
  simp only [view, filled, Array.size_extract, Array.size_append, Array.size_replicate]
  omega

/-- The memory after the pixels of an output changed. -/
def store (memory : VideoMemory) (output : GraphicsOutput) (pixels : Pixels) : VideoMemory :=
  let (first, count) := memory.span output
  let whole := memory.filled (first + count)
  { memory with
    pixels := whole.extract 0 first ++ pixels ++ whole.extract (first + count) whole.size }

end VideoMemory

/-! ## The device -/

/-- A device and its host. -/
structure MediatedDevice where
  /-- The configuration word with the vendor. -/
  vendorWord : UInt32
  /-- The configuration word with the class. -/
  classWord : UInt32
  /-- The value that each register holds. -/
  registers : UInt64 → UInt32
  /-- The frame buffer that the host lends. -/
  frame : Option HostFrame := none
  /-- The memory that frame buffers are lent from. -/
  video : VideoMemory := {}
  configAnswers : UInt32 → Status := fun _ => .success
  readAnswers : UInt64 → Status := fun _ => .success
  writeAnswers : UInt64 → Status := fun _ => .success

namespace MediatedDevice

/-- A function that is given by pairs.  Of several pairs for one offset the last
one counts. -/
def listed {α β : Type} [BEq α] (pairs : List (α × β)) (otherwise : β) (offset : α) : β :=
  (pairs.reverse.lookup offset).getD otherwise

/-- The words of a description, in the order of the page. -/
def frameWords (frame : HostFrame) : List UInt32 :=
  [frame.base, frame.width, frame.height, frame.pitch, frame.bitsPerPixel, frame.size]

/-- Puts words into registers from an offset on. -/
def store (offset : UInt64) : List UInt32 → (UInt64 → UInt32) → UInt64 → UInt32
  | [], registers => registers
  | word :: rest, registers =>
    store (offset + 4) rest fun register => if register = offset then word else registers register

/-- Writes a register.  The host answers the setup command with its frame
buffer. -/
def write (offset : UInt64) (value : UInt32) (device : MediatedDevice) : MediatedDevice :=
  let registers := store offset [value] device.registers
  let registers :=
    if offset = pageBase + commandOffset ∧ value = setupCommand then
      match device.frame with
      | none => registers
      | some frame => store (pageBase + frameOffset) (frameWords frame) registers
    else registers
  { device with registers := registers }

/-- The word of the configuration space at an offset. -/
def config (offset : UInt32) (device : MediatedDevice) : UInt32 :=
  if offset = vendorOffset then device.vendorWord
  else if offset = classOffset then device.classWord
  else 0

/-- The device behind the PCI I/O protocol. -/
def access : PciAccess MediatedDevice where
  readConfig offset device := ((device.configAnswers offset, device.config offset), device)
  readRegister offset device := ((device.readAnswers offset, device.registers offset), device)
  writeRegister offset value device :=
    let status := device.writeAnswers offset
    (status, if status.isError then device else device.write offset value)

end MediatedDevice

end GuestFirmware.Display
