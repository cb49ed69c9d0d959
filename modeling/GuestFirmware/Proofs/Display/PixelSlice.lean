import GuestFirmware.Proofs.Display.Geometry
import GuestFirmware.Proofs.Display.StartDecision
import Mathlib.Algebra.Group.Nat.Defs

/-!
# The frame buffer as a slice of words

A transfer uses the frame buffer of its output as one slice of 32-bit words.
`PixelSlice` is the address and the number of words, and `PixelSlice.WellFormed` is what
a machine asks of them.  `transferSlice` is the slice that a transfer makes; a transfer
that is refused before makes none (`blt_of_no_slice`).

The address and the size come from the host.  `ShownIn` relates an output to the
description that it was attached to.  `shownIn_run` is one call and `shownIn_runs` is a
list of calls, after which the description of the last attach counts (`lastFrame`).

A description is accepted without a look at the alignment of its address.
`bounds_of_shownIn` is what holds of every slice all the same, and
`transferSlice_wellFormed_iff` says that the alignment is all that is missing.
`start_misaligned` is a start with an address between two words.
-/

namespace GuestFirmware.Display

open PlatformM

variable {δ : Type}

/-! ## Slices -/

/-- Memory that is used as a slice of 32-bit words. -/
structure PixelSlice where
  address : UInt64
  /-- The number of words. -/
  count : Nat
  deriving DecidableEq, Repr

namespace PixelSlice

/-- The number of bytes. -/
def bytes (slice : PixelSlice) : Nat :=
  4 * slice.count

/-- The first word is at an address of a word other than zero, the end does not wrap
around the address space, and a signed machine word counts the bytes. -/
structure WellFormed (slice : PixelSlice) : Prop where
  nonzero : slice.address ≠ 0
  aligned : 4 ∣ slice.address.toNat
  inside : slice.address.toNat + slice.bytes < 2 ^ 64
  signed : slice.bytes < 2 ^ 63

end PixelSlice

/-- The slice that a transfer makes of the frame buffer.  It is made of whatever the
output holds, and nothing is asked of the address but that there is one. -/
def GraphicsOutput.transferSlice (request : Request) (hasBuffer : Bool)
    (output : GraphicsOutput) : Option PixelSlice :=
  if output.frameBufferBase = 0 then none
  else
    match request.bufferLength with
    | .error _ => none
    | .ok needed =>
      if 0 < needed ∧ !hasBuffer then none
      else some ⟨output.frameBufferBase, output.pixelCount⟩

variable {output shown : GraphicsOutput} {request : Request} {hasBuffer : Bool}

/-- A transfer that makes no slice is refused, and touches nothing. -/
theorem blt_of_no_slice (h : output.transferSlice request hasBuffer = none) :
    ∃ status, ∀ platform : Platform (DisplayState δ) DisplayEvent,
      (output.blt request hasBuffer).run platform = ((.error status, output), platform) := by
  unfold GraphicsOutput.transferSlice at h
  split at h
  · next hbase => exact ⟨_, fun platform => GraphicsOutput.blt_of_detached hbase⟩
  · next hbase =>
    refine ⟨_, fun platform => GraphicsOutput.blt_of_not_admits hbase fun hadmits => ?_⟩
    obtain ⟨needed, hneeded, hgiven⟩ := hadmits.buffered
    rw [hneeded] at h
    dsimp only at h
    split at h
    · next hmissing =>
      obtain ⟨hpos, hnone⟩ := hmissing
      rw [hgiven hpos] at hnone
      cases hnone
    · cases h

theorem slice_of_transferSlice {slice : PixelSlice}
    (h : output.transferSlice request hasBuffer = some slice) :
    slice = ⟨output.frameBufferBase, output.pixelCount⟩ := by
  unfold GraphicsOutput.transferSlice at h
  split at h
  · cases h
  · split at h
    · cases h
    · split at h
      · cases h
      · cases h
        rfl

/-! ## The description in front of an output -/

/-- The output shows the frame buffer of this description. -/
structure ShownIn (frame : HostFrame) (output : GraphicsOutput) : Prop where
  usable : frame.Usable
  base : output.frameBufferBase = frame.base.toUInt64
  size : output.frameBufferSize = frame.size.toNat

theorem shownIn_attach {frame : HostFrame} (h : output.attach frame = (.ok (), shown)) :
    ShownIn frame shown := by
  rcases attach_cases frame output with ⟨husable, -, -, hshown⟩ | hrefused
  · cases h.symm.trans hshown
    exact ⟨husable, rfl, rfl⟩
  · cases h.symm.trans hrefused

theorem ShownIn.setMode {frame : HostFrame} (h : ShownIn frame output) {number : UInt32}
    (hselect : output.setMode number = (.ok (), shown)) : ShownIn frame shown := by
  unfold GraphicsOutput.setMode at hselect
  split at hselect
  · cases hselect
  · cases hselect
    exact ⟨h.usable, h.base, h.size⟩

/-- The description after a call and its answer. -/
def frameAfter (frame : HostFrame) : OutputCall → Except Status Unit → HostFrame
  | .attach other, .ok _ => other
  | _, _ => frame

/-- The description of the last attach that succeeded, the given one if there is none. -/
def lastFrame (frame : HostFrame) : List OutputCall → List (Except Status Unit) → HostFrame
  | made :: rest, answer :: answers => lastFrame (frameAfter frame made answer) rest answers
  | _, _ => frame

theorem shownIn_run {frame : HostFrame} (h : ShownIn frame output) (made : OutputCall)
    (platform : Platform (DisplayState δ) DisplayEvent) :
    let ended := ((made.run output).run platform).1
    ShownIn (frameAfter frame made ended.1) ended.2 := by
  intro ended
  rcases run_cases made output platform with ⟨other, rfl, hok, hattach⟩ |
    ⟨number, rfl, hok, hselect⟩ | ⟨hsame, hattach, -⟩
  · have hended : ended.1 = .ok () := hok
    rw [hended]
    exact shownIn_attach hattach
  · exact h.setMode hselect
  · have hended : ended.2 = output := hsame
    have hframe : frameAfter frame made ended.1 = frame := by
      unfold frameAfter
      split
      · next other done hanswer => exact absurd hanswer (hattach other rfl)
      · rfl
    rw [hended, hframe]
    exact h

theorem shownIn_runs {frame : HostFrame} (h : ShownIn frame output) (calls : List OutputCall)
    (platform : Platform (DisplayState δ) DisplayEvent) :
    let ended := ((runOutputCalls output calls).run platform).1
    ShownIn (lastFrame frame calls ended.1) ended.2 := by
  induction calls generalizing output frame platform with
  | nil => exact h
  | cons made rest ih =>
    exact ih (shownIn_run h made platform) ((made.run output).run platform).2

/-- An output that is brought up shows the frame buffer that the host describes. -/
theorem shownIn_bringUp {pci : PciAccess δ} {config : DisplayConfig} {frame : HostFrame}
    {before : Platform (DisplayState δ) DisplayEvent}
    (hread : Reads pci 0x78860 (askHost pci before.device.hardware).2 (descriptionOf frame))
    (h : ((bringUp pci (.ofConfig config)).run before).1 = .ok shown) : ShownIn frame shown := by
  cases hasked : (askHost pci before.device.hardware).1.isError with
  | true => cases h.symm.trans (bringUp_of_not_asked _ hasked)
  | false =>
    by_cases hcovers : Covers config frame
    · cases h.symm.trans (bringUp_of_covers hasked hread hcovers)
      exact ⟨(covers_iff.mp hcovers).1, rfl, rfl⟩
    · cases h.symm.trans (bringUp_of_not_covers hasked hread hcovers)

/-! ## What the host decides about a slice -/

theorem slice_of_shownIn {frame : HostFrame} (h : ShownIn frame output) {slice : PixelSlice}
    (hslice : output.transferSlice request hasBuffer = some slice) :
    slice = ⟨frame.base.toUInt64, frame.size.toNat / 4⟩ := by
  rw [slice_of_transferSlice hslice, ← h.base, ← h.size]
  rfl

/-- Both numbers are 32-bit words, so the slice ends far below the end of the address
space. -/
theorem bounds_of_shownIn {frame : HostFrame} (h : ShownIn frame output) {slice : PixelSlice}
    (hslice : output.transferSlice request hasBuffer = some slice) :
    slice.address ≠ 0 ∧ slice.address.toNat + slice.bytes < 2 ^ 64 ∧ slice.bytes < 2 ^ 63 := by
  have hbase : frame.base.toNat < 2 ^ 32 := frame.base.toNat_lt
  have hsize : frame.size.toNat < 2 ^ 32 := frame.size.toNat_lt
  rw [slice_of_shownIn h hslice]
  refine ⟨h.usable.address_ne_zero, ?_, ?_⟩
  · show frame.base.toUInt64.toNat + 4 * (frame.size.toNat / 4) < 2 ^ 64
    rw [UInt32.toNat_toUInt64]
    omega
  · show 4 * (frame.size.toNat / 4) < 2 ^ 63
    omega

theorem address_of_shownIn {frame : HostFrame} (h : ShownIn frame output) {slice : PixelSlice}
    (hslice : output.transferSlice request hasBuffer = some slice) :
    slice.address.toNat = frame.base.toNat := by
  rw [slice_of_shownIn h hslice, UInt32.toNat_toUInt64]

theorem wellFormed_iff_of_shownIn {frame : HostFrame} (h : ShownIn frame output)
    {slice : PixelSlice} (hslice : output.transferSlice request hasBuffer = some slice) :
    slice.WellFormed ↔ 4 ∣ frame.base.toNat := by
  obtain ⟨hnonzero, hinside, hsigned⟩ := bounds_of_shownIn h hslice
  rw [← address_of_shownIn h hslice]
  exact ⟨PixelSlice.WellFormed.aligned, fun haligned => ⟨hnonzero, haligned, hinside, hsigned⟩⟩

/-- The slice that a transfer makes after an output was brought up is the frame buffer of
the description that was accepted last.  Its address is not zero and its end is in reach,
whatever the host describes.  It is well-formed exactly when the host put it at the
address of a word. -/
theorem transferSlice_wellFormed_iff {κ : Type} {pci : PciAccess δ} {config : DisplayConfig}
    {described : HostFrame} {shown : GraphicsOutput}
    {before : Platform (DisplayState δ) DisplayEvent}
    (hread : Reads pci 0x78860 (askHost pci before.device.hardware).2 (descriptionOf described))
    (hshown : ((bringUp pci (.ofConfig config)).run before).1 = .ok shown)
    (calls : List OutputCall) (later : Platform (DisplayState κ) DisplayEvent) :
    let ended := ((runOutputCalls shown calls).run later).1
    let frame := lastFrame described calls ended.1
    (∀ request hasBuffer, ended.2.transferSlice request hasBuffer = none →
      ∃ status, ∀ now : Platform (DisplayState κ) DisplayEvent,
        (ended.2.blt request hasBuffer).run now = ((.error status, ended.2), now)) ∧
    ∀ request hasBuffer slice, ended.2.transferSlice request hasBuffer = some slice →
      slice.address.toNat = frame.base.toNat ∧ slice.count = frame.size.toNat / 4 ∧
      slice.address ≠ 0 ∧ slice.address.toNat + slice.bytes < 2 ^ 64 ∧ slice.bytes < 2 ^ 63 ∧
      (slice.WellFormed ↔ 4 ∣ frame.base.toNat) := by
  intro ended frame
  have hshownIn : ShownIn frame ended.2 := shownIn_runs (shownIn_bringUp hread hshown) calls later
  refine ⟨fun request hasBuffer hnone => blt_of_no_slice hnone, ?_⟩
  intro request hasBuffer slice hslice
  obtain ⟨hnonzero, hinside, hsigned⟩ := bounds_of_shownIn hshownIn hslice
  have hcount : slice.count = frame.size.toNat / 4 := by rw [slice_of_shownIn hshownIn hslice]
  exact ⟨address_of_shownIn hshownIn hslice, hcount, hnonzero, hinside, hsigned,
    wellFormed_iff_of_shownIn hshownIn hslice⟩

/-! ## Hosts -/

/-- A driver in front of a device whose host lends a frame buffer. -/
def lending (frame : HostFrame) : Platform (DisplayState MediatedDevice) DisplayEvent :=
  unstarted {} {} 0 0
    { vendorWord := 0x59128086, classWord := 0x03000000, registers := fun _ => 0,
      frame := some frame }

/-- The registers of the page after the host was asked. -/
def describing (frame : HostFrame) : UInt64 → UInt32 :=
  MediatedDevice.store 0x78860 (descriptionOf frame)
    (MediatedDevice.store 0x78818 [8] fun _ => 0)

theorem isError_success : Status.success.isError = false := by decide

theorem askHost_lending (frame : HostFrame) :
    askHost MediatedDevice.access (lending frame).device.hardware =
      (.success, { (lending frame).device.hardware with registers := describing frame }) := by
  simp only [askHost, MediatedDevice.access, lending, unstarted, isError_success,
    MediatedDevice.write]
  rfl

/-- There is a host for every description that is good enough. -/
theorem granted_lending {frame : HostFrame} (hcovers : Covers {} frame) :
    Granted MediatedDevice.access (lending frame) frame where
  opened := isError_success
  installed := isError_success
  asked := by
    rw [askHost_lending]
    exact isError_success
  read := by
    have hwords : descriptionOf frame =
        [describing frame 0x78860, describing frame (0x78860 + 4),
          describing frame (0x78860 + 4 + 4), describing frame (0x78860 + 4 + 4 + 4),
          describing frame (0x78860 + 4 + 4 + 4 + 4),
          describing frame (0x78860 + 4 + 4 + 4 + 4 + 4)] := by
      simp [describing, MediatedDevice.store]
    rw [askHost_lending, hwords]
    exact .cons isError_success (.cons isError_success (.cons isError_success
      (.cons isError_success (.cons isError_success (.cons isError_success .nil)))))
  covers := hcovers

/-- Fills the first pixel. -/
def fillPixel : Request where
  operation := .videoFill
  sourceX := 0
  sourceY := 0
  destinationX := 0
  destinationY := 0
  width := 1
  height := 1
  delta := 0

theorem transferSlice_fillPixel {frame : HostFrame} (h : ShownIn frame output) :
    output.transferSlice fillPixel true = some ⟨frame.base.toUInt64, frame.size.toNat / 4⟩ := by
  have hbase : output.frameBufferBase ≠ 0 := h.base ▸ h.usable.address_ne_zero
  rw [GraphicsOutput.transferSlice, if_neg hbase, ← h.base, ← h.size]
  rfl

theorem attach_showing {first second : HostFrame} (hcovers : Covers {} second) :
    (showing {} first).attach second = (.ok (), showing {} second) :=
  if_pos (covers_iff.mp hcovers)

/-- A frame buffer for the mode of the default configuration. -/
def frameAt (base : UInt32) : HostFrame :=
  ⟨base, 1024, 768, 4096, 32, 0x300000⟩

/-- The slice of an aligned frame buffer is well-formed, until one is attached that begins
in the middle of a word. -/
theorem transferSlice_wellFormed_iff_reattached :
    let host := lending (frameAt 0x80000000)
    ∃ shown, Reads MediatedDevice.access 0x78860
        (askHost MediatedDevice.access host.device.hardware).2
        (descriptionOf (frameAt 0x80000000)) ∧
      ((bringUp MediatedDevice.access (.ofConfig {})).run host).1 = .ok shown ∧
      (∃ slice, ((runOutputCalls shown []).run host).1.2.transferSlice fillPixel true =
        some slice ∧ slice.WellFormed) ∧
      ∃ slice, ((runOutputCalls shown [.attach (frameAt 0x80000002)]).run
          host).1.2.transferSlice fillPixel true = some slice ∧ ¬ slice.WellFormed := by
  intro host
  have hfirst : Covers {} (frameAt 0x80000000) := by
    constructor <;> decide
  have hsecond : Covers {} (frameAt 0x80000002) := by
    constructor <;> decide
  have hgranted := granted_lending hfirst
  have hshown : ((bringUp MediatedDevice.access (.ofConfig {})).run host).1 =
      .ok (showing {} (frameAt 0x80000000)) :=
    bringUp_of_covers hgranted.asked hgranted.read hfirst
  have hrun : ((runOutputCalls (showing {} (frameAt 0x80000000))
      [.attach (frameAt 0x80000002)]).run host).1 = ([.ok ()], showing {} (frameAt 0x80000002)) := by
    simp only [runOutputCalls, OutputCall.run, attach_showing hsecond]
    rfl
  refine ⟨_, hgranted.read, hshown, ?_, ?_⟩
  · have hslice := transferSlice_fillPixel
      (shownIn_bringUp hgranted.read hshown : ShownIn (frameAt 0x80000000) _)
    obtain ⟨-, hslices⟩ := transferSlice_wellFormed_iff hgranted.read hshown [] host
    obtain ⟨-, -, -, -, -, hformed⟩ := hslices fillPixel true _ hslice
    exact ⟨_, hslice, hformed.mpr (by decide)⟩
  · obtain ⟨-, hslices⟩ :=
      transferSlice_wellFormed_iff hgranted.read hshown [.attach (frameAt 0x80000002)] host
    rw [hrun] at hslices ⊢
    have hslice := transferSlice_fillPixel
      (⟨(covers_iff.mp hsecond).1, rfl, rfl⟩ : ShownIn _ (showing {} (frameAt 0x80000002)))
    obtain ⟨-, -, -, -, -, hformed⟩ := hslices fillPixel true _ hslice
    exact ⟨_, hslice, fun h => absurd (hformed.mp h) (by decide)⟩

/-- A start accepts a frame buffer that begins one byte behind a word, and its transfers
make a slice of it. -/
theorem start_misaligned :
    ((requestFrame MediatedDevice.access).run.run (lending (frameAt 0x80000001))).1 =
      .ok (frameAt 0x80000001) ∧
    ((start MediatedDevice.access 0x1000).run (lending (frameAt 0x80000001))).1 = .ok () ∧
    ∃ held slice, ((start MediatedDevice.access 0x1000).run
        (lending (frameAt 0x80000001))).2.device.driver.started = some held ∧
      held.output.transferSlice fillPixel true = some slice ∧
      slice.address.toNat = 0x80000001 ∧ ¬ slice.WellFormed := by
  have hcovers : Covers {} (frameAt 0x80000001) := by
    constructor <;> decide
  have hgranted := granted_lending hcovers
  have hframe : ((requestFrame MediatedDevice.access).run.run
      (lending (frameAt 0x80000001))).1 = .ok (frameAt 0x80000001) := by
    rw [requestFrame_of_reads hgranted.asked hgranted.read, if_pos (covers_iff.mp hcovers).1]
  obtain ⟨hok, hheld⟩ := start_of_granted 0x1000 rfl hgranted
  have hslice := transferSlice_fillPixel
    (⟨(covers_iff.mp hcovers).1, rfl, rfl⟩ : ShownIn _ (showing {} (frameAt 0x80000001)))
  have hbase : (frameAt 0x80000001).base.toUInt64.toNat = 0x80000001 := by decide
  refine ⟨hframe, hok, _, _, hheld, hslice, hbase, ?_⟩
  intro hformed
  exact absurd hformed.aligned (by decide)

end GuestFirmware.Display
