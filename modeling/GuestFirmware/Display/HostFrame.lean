import GuestFirmware.Status

/-!
# The frame buffer of the host

The host of a mediated graphics device (GVT-g) lends the guest a frame buffer
and describes it in six words.  `HostFrame` is the description and
`HostFrame.Usable` says which ones a guest can draw into.
-/

namespace GuestFirmware.Display

/-- Why a graphics device could not be used. -/
inductive DisplayError
  /-- No graphics controller of the expected vendor. -/
  | notDisplayDevice
  /-- The interface page starts with another number. -/
  | badMagic (value : UInt64)
  /-- The host lends no frame buffer. -/
  | noFrameSupport
  /-- A register could not be reached. -/
  | registerAccess (status : Status)
  /-- The host described a frame buffer that cannot be used. -/
  | unusableFrame
  deriving DecidableEq, Repr

/-- The name of a failure in messages. -/
def DisplayError.text : DisplayError → String
  | notDisplayDevice => "NotDisplayDevice"
  | badMagic _ => "BadMagic"
  | noFrameSupport => "NoGopSupport"
  | registerAccess _ => "Mmio"
  | unusableFrame => "InvalidGopInfo"

/-- The status that the cause is reported with. -/
def DisplayError.status : DisplayError → Status
  | notDisplayDevice => .unsupported
  | badMagic _ => .unsupported
  | noFrameSupport => .unsupported
  | registerAccess status => status
  | unusableFrame => .deviceError

/-- The cause that the dispatcher sees. -/
def DisplayError.component (failure : DisplayError) : ComponentError :=
  .ofStatus failure.status

/-- The host's description of a frame buffer. -/
structure HostFrame where
  base : UInt32
  width : UInt32
  height : UInt32
  /-- Bytes per scan line. -/
  pitch : UInt32
  bitsPerPixel : UInt32
  /-- Bytes of the whole frame buffer. -/
  size : UInt32
  deriving DecidableEq, Repr

namespace HostFrame

/-- The only depth that is supported. -/
def supportedDepth : UInt32 := 32

/-- The description fits together: a linear frame buffer of 32-bit pixels that
holds all of its scan lines. -/
def Usable (frame : HostFrame) : Prop :=
  frame.base ≠ 0 ∧ frame.width ≠ 0 ∧ frame.height ≠ 0 ∧ frame.bitsPerPixel = supportedDepth ∧
    frame.pitch.toNat % 4 = 0 ∧ frame.width.toNat * 4 ≤ frame.pitch.toNat ∧
    frame.pitch.toNat * frame.height.toNat ≤ frame.size.toNat

instance (frame : HostFrame) : Decidable frame.Usable :=
  inferInstanceAs (Decidable (_ ∧ _))

/-- A usable frame buffer is not at address zero. -/
theorem Usable.address_ne_zero {frame : HostFrame} (h : frame.Usable) :
    frame.base.toUInt64 ≠ 0 := by
  intro hzero
  have hnat : frame.base.toUInt64.toNat = 0 := congrArg UInt64.toNat hzero
  rw [UInt32.toNat_toUInt64] at hnat
  exact h.1 (UInt32.toNat_inj.mp hnat)

/-- Accepts a usable description. -/
def validate (frame : HostFrame) : Except DisplayError Unit :=
  if frame.Usable then .ok () else .error .unusableFrame

end HostFrame

end GuestFirmware.Display
