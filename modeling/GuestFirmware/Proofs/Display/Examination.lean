import GuestFirmware.Proofs.Display.Resources
import GuestFirmware.Proofs.Display.StartDecision
import Mathlib.Data.Nat.Bitwise

/-!
# What decides whether a controller is supported

A controller is opened, examined and closed.  The examination reads two words of the
configuration space and then the header of the page, and looks at what it read.
`Suitable` says that all of it is right, and `Unsuitable` names the first thing that is
not, with its status: an access that fails has a status of its own, and a wrong value
has the status of a device that is not supported.

* The values.  They are compared as words, and the lemmas say what this means for
  numbers.
* The accesses.  `examinationReads` lists what an examination reads, up to its end, and
  `used_detect` says that it does this and nothing else.
* The answer.  There is one lemma for each way in which an examination ends.

`supported_decides` joins them.  Both answers are equivalent to their conditions, and
the events of the call are given in full.
-/

namespace GuestFirmware.Display

open PlatformM

variable {δ : Type}

/-! ## Values -/

/-- The configuration words of a display controller of the vendor. -/
structure IsDisplay (vendorWord classWord : UInt32) : Prop where
  vendor : vendorWord.toNat % 2 ^ 16 = 0x8086
  display : classWord.toNat / 2 ^ 24 = 3

theorem isDisplay_iff {vendorWord classWord : UInt32} :
    IsDisplay vendorWord classWord ↔
      vendorWord.toUInt16 = vendorId ∧ (classWord >>> 24).toUInt8 = displayClass := by
  have hvendor : vendorWord.toUInt16 = vendorId ↔ vendorWord.toNat % 2 ^ 16 = 0x8086 :=
    UInt16.toNat_inj.symm
  have hclass : (classWord >>> 24).toUInt8.toNat = classWord.toNat / 2 ^ 24 := by
    have hword : classWord.toNat < 2 ^ 32 := classWord.toNat_lt
    rw [UInt32.toNat_toUInt8, UInt32.toNat_shiftRight, Nat.shiftRight_eq_div_pow]
    show classWord.toNat / 2 ^ 24 % 2 ^ 8 = classWord.toNat / 2 ^ 24
    omega
  have hdisplay : (classWord >>> 24).toUInt8 = displayClass ↔ classWord.toNat / 2 ^ 24 = 3 := by
    rw [← UInt8.toNat_inj, hclass]
    rfl
  rw [hvendor, hdisplay]
  exact ⟨fun h => ⟨h.vendor, h.display⟩, fun h => ⟨h.1, h.2⟩⟩

instance (vendorWord classWord : UInt32) : Decidable (IsDisplay vendorWord classWord) :=
  decidable_of_iff _ isDisplay_iff.symm

/-- The magic number is in two words, the low one first. -/
theorem toNat_magic (low high : UInt32) (rest : List UInt32) :
    (PageHeader.ofWords (low :: high :: rest)).magic.toNat = low.toNat + 2 ^ 32 * high.toNat := by
  have hlow : low.toNat < 2 ^ 32 := low.toNat_lt
  have hhigh : high.toNat < 2 ^ 32 := high.toNat_lt
  have hshifted : (high.toUInt64 <<< 32).toNat = 2 ^ 32 * high.toNat := by
    rw [UInt64.toNat_shiftLeft, UInt32.toNat_toUInt64, Nat.shiftLeft_eq]
    show high.toNat * 2 ^ 32 % 2 ^ 64 = 2 ^ 32 * high.toNat
    omega
  show (low.toUInt64 ||| (high.toUInt64 <<< 32)).toNat = _
  rw [UInt64.toNat_or, UInt32.toNat_toUInt64, hshifted, Nat.or_comm,
    ← Nat.two_pow_add_eq_or_of_lt hlow, Nat.add_comm]

theorem magic_eq_iff (low high : UInt32) (rest : List UInt32) :
    (PageHeader.ofWords (low :: high :: rest)).magic = pageMagic ↔
      low.toNat + 2 ^ 32 * high.toNat = 0x4776544776544776 := by
  rw [← UInt64.toNat_inj, toNat_magic]
  rfl

/-- The capability of lending a frame buffer is bit five. -/
theorem and_frameCapability_eq_zero_iff (capabilities : UInt32) :
    capabilities &&& frameCapability = 0 ↔ capabilities.toNat.testBit 5 = false := by
  have hbit : (capabilities &&& frameCapability).toNat =
      (capabilities.toNat.testBit 5).toNat * 2 ^ 5 := by
    rw [UInt32.toNat_and]
    exact Nat.and_two_pow capabilities.toNat 5
  rw [← UInt32.toNat_inj, hbit]
  cases capabilities.toNat.testBit 5 <;> decide

/-! ## Accesses -/

/-- The configuration word with the vendor is read. -/
abbrev readVendor (pci : PciAccess δ) (device : δ) : (Status × UInt32) × δ :=
  pci.readConfig 0 device

/-- The configuration word with the class is read after it. -/
abbrev readClass (pci : PciAccess δ) (device : δ) : (Status × UInt32) × δ :=
  pci.readConfig 8 (readVendor pci device).2

/-- The reads of registers in a row, up to the first that fails. -/
def registerReads (pci : PciAccess δ) : UInt64 → Nat → δ → List DisplayEvent
  | _, 0, _ => []
  | offset, count + 1, device =>
    let read := pci.readRegister offset device
    .registerRead offset read.1.1 ::
      if read.1.1.isError then [] else registerReads pci (offset + 4) count read.2

/-- What an examination reads, up to its end.  It ends with the first access that fails,
and the registers of a device that is no display controller are left alone. -/
def examinationReads (pci : PciAccess δ) (device : δ) : List DisplayEvent :=
  let vendor := readVendor pci device
  let revision := readClass pci device
  .configRead 0 vendor.1.1 ::
    if vendor.1.1.isError then []
    else .configRead 8 revision.1.1 ::
      if revision.1.1.isError = false ∧ IsDisplay vendor.1.2 revision.1.2 then
        registerReads pci 0x78000 5 revision.2
      else []

theorem isRead_of_mem_registerReads (pci : PciAccess δ) (offset : UInt64) (count : Nat)
    (device : δ) : ∀ access ∈ registerReads pci offset count device, access.IsRead := by
  induction count generalizing offset device with
  | zero => simp [registerReads]
  | succ count ih =>
    rw [registerReads]
    intro access haccess
    rcases List.mem_cons.mp haccess with rfl | hrest
    · exact trivial
    · split at hrest
      · simp at hrest
      · exact ih _ _ access hrest

theorem isRead_of_mem_examinationReads (pci : PciAccess δ) (device : δ) :
    ∀ access ∈ examinationReads pci device, access.IsRead := by
  intro access haccess
  rw [examinationReads] at haccess
  rcases List.mem_cons.mp haccess with rfl | hrest
  · exact trivial
  split at hrest
  · simp at hrest
  rcases List.mem_cons.mp hrest with rfl | hheader
  · exact trivial
  split at hheader
  · exact isRead_of_mem_registerReads pci _ _ _ access hheader
  · simp at hheader

/-- The platform after a configuration word was read. -/
def afterConfig (pci : PciAccess δ) (offset : UInt32)
    (before : Platform (DisplayState δ) DisplayEvent) : Platform (DisplayState δ) DisplayEvent :=
  ((readConfig pci offset).run before).2

theorem run_attempt_readConfig (pci : PciAccess δ) (offset : UInt32)
    (before : Platform (DisplayState δ) DisplayEvent) :
    (attempt (readConfig pci offset)).run.run before =
      (((pci.readConfig offset before.device.hardware).1.1.guard
        (pci.readConfig offset before.device.hardware).1.2).mapError .registerAccess,
        afterConfig pci offset before) :=
  run_attempt (readConfig pci offset) before

theorem used_readBlock (pci : PciAccess δ) (offset : UInt64) (count : Nat)
    (before : Platform (DisplayState δ) DisplayEvent) :
    Used before ((readBlock pci offset count).run.run before).2
      (registerReads pci offset count before.device.hardware) := by
  induction count generalizing offset before with
  | zero => exact .refl before
  | succ count ih =>
    have hread : Used before (afterRead pci offset before)
        [.registerRead offset (pci.readRegister offset before.device.hardware).1.1] :=
      ⟨rfl, rfl, rfl⟩
    rw [readBlock, run_attempt_bind, run_attempt_readRegister, registerReads]
    cases hstatus : (pci.readRegister offset before.device.hardware).1.1.isError with
    | true =>
      rw [Status.guard_of_error hstatus]
      exact hread
    | false =>
      rw [Status.guard_of_success hstatus]
      have hrest := hread.trans (ih (offset + 4) (afterRead pci offset before))
      simp only [Except.mapError]
      rw [run_attempt_bind]
      -- Putting the first word in front of the others uses nothing.
      cases ((readBlock pci (offset + 4) count).run.run (afterRead pci offset before)).1 with
      | error failure => exact hrest
      | ok words => exact hrest

/-- The part of an examination behind the configuration space. -/
def readHeader (pci : PciAccess δ) : Attempt δ PageHeader := do
  let header := PageHeader.ofWords (← readBlock pci pageBase 5)
  if header.magic ≠ pageMagic then throw (.badMagic header.magic)
  else if header.capabilities &&& frameCapability = 0 then throw .noFrameSupport
  else return header

/-- The platform after both configuration words were read. -/
def afterConfigs (pci : PciAccess δ) (before : Platform (DisplayState δ) DisplayEvent) :
    Platform (DisplayState δ) DisplayEvent :=
  afterConfig pci classOffset (afterConfig pci vendorOffset before)

/-! ## What can be wrong -/

section Suitability

variable (pci : PciAccess δ) (device : δ)

/-- The configuration words can be read, and they are those of a display controller. -/
structure DisplayFound : Prop where
  vendorRead : (readVendor pci device).1.1.isError = false
  classRead : (readClass pci device).1.1.isError = false
  display : IsDisplay (readVendor pci device).1.2 (readClass pci device).1.2

/-- A display controller whose page has a header with the magic number and the
capability of lending a frame buffer. -/
inductive Suitable : Prop
  | header {low high version identity capabilities} (hdisplay : DisplayFound pci device)
      (hread : Reads pci 0x78000 (readClass pci device).2
        [low, high, version, identity, capabilities])
      (hmagic : low.toNat + 2 ^ 32 * high.toNat = 0x4776544776544776)
      (hcapability : capabilities.toNat.testBit 5 = true) : Suitable

/-- The first thing that is wrong with a device ends its examination with this
status. -/
inductive Unsuitable : Status → Prop
  | vendorUnread (herror : (readVendor pci device).1.1.isError = true) :
      Unsuitable (readVendor pci device).1.1
  | classUnread (hvendor : (readVendor pci device).1.1.isError = false)
      (herror : (readClass pci device).1.1.isError = true) :
      Unsuitable (readClass pci device).1.1
  | otherDevice (hvendor : (readVendor pci device).1.1.isError = false)
      (hclass : (readClass pci device).1.1.isError = false)
      (hother : ¬ IsDisplay (readVendor pci device).1.2 (readClass pci device).1.2) :
      Unsuitable .unsupported
  | headerUnread {status} (hdisplay : DisplayFound pci device)
      (hfails : ReadFails pci 0x78000 5 (readClass pci device).2 status) : Unsuitable status
  | otherPage {low high version identity capabilities} (hdisplay : DisplayFound pci device)
      (hread : Reads pci 0x78000 (readClass pci device).2
        [low, high, version, identity, capabilities])
      (hmagic : low.toNat + 2 ^ 32 * high.toNat ≠ 0x4776544776544776) : Unsuitable .unsupported
  | lendsNothing {low high version identity capabilities} (hdisplay : DisplayFound pci device)
      (hread : Reads pci 0x78000 (readClass pci device).2
        [low, high, version, identity, capabilities])
      (hmagic : low.toNat + 2 ^ 32 * high.toNat = 0x4776544776544776)
      (hcapability : capabilities.toNat.testBit 5 = false) : Unsuitable .unsupported

theorem exists_headerWords {words : List UInt32} (h : words.length = 5) :
    ∃ low high version identity capabilities,
      words = [low, high, version, identity, capabilities] := by
  match words, h with
  | [low, high, version, identity, capabilities], _ =>
    exact ⟨low, high, version, identity, capabilities, rfl⟩

theorem suitable_or_unsuitable :
    Suitable pci device ∨ ∃ status, Unsuitable pci device status := by
  cases hvendor : (readVendor pci device).1.1.isError with
  | true => exact Or.inr ⟨_, .vendorUnread hvendor⟩
  | false =>
    cases hclass : (readClass pci device).1.1.isError with
    | true => exact Or.inr ⟨_, .classUnread hvendor hclass⟩
    | false =>
      by_cases hother : IsDisplay (readVendor pci device).1.2 (readClass pci device).1.2
      · have hdisplay : DisplayFound pci device := ⟨hvendor, hclass, hother⟩
        rcases reads_or_fails pci 0x78000 5 (readClass pci device).2 with
          ⟨words, hlength, hread⟩ | ⟨status, hfails⟩
        · obtain ⟨low, high, version, identity, capabilities, rfl⟩ := exists_headerWords hlength
          by_cases hmagic : low.toNat + 2 ^ 32 * high.toNat = 0x4776544776544776
          · cases hcapability : capabilities.toNat.testBit 5 with
            | true => exact Or.inl (.header hdisplay hread hmagic hcapability)
            | false => exact Or.inr ⟨_, .lendsNothing hdisplay hread hmagic hcapability⟩
          · exact Or.inr ⟨_, .otherPage hdisplay hread hmagic⟩
        · exact Or.inr ⟨_, .headerUnread hdisplay hfails⟩
      · exact Or.inr ⟨_, .otherDevice hvendor hclass hother⟩

end Suitability

/-! ## Examinations -/

section Detect

variable {pci : PciAccess δ} {before : Platform (DisplayState δ) DisplayEvent}

theorem detect_of_vendorUnread
    (herror : (readVendor pci before.device.hardware).1.1.isError = true) :
    (detect pci).run.run before =
      (.error (.registerAccess (readVendor pci before.device.hardware).1.1),
        afterConfig pci vendorOffset before) := by
  have hread : (pci.readConfig vendorOffset before.device.hardware).1.1.isError = true := herror
  rw [detect, run_attempt_bind, run_attempt_readConfig, Status.guard_of_error hread]
  rfl

/-- The examination goes on with the word with the class. -/
theorem detect_of_vendorRead
    (hvendor : (readVendor pci before.device.hardware).1.1.isError = false) :
    (detect pci).run.run before =
      (do
        let revision ← attempt (readConfig pci classOffset)
        if (readVendor pci before.device.hardware).1.2.toUInt16 ≠ vendorId ∨
            (revision >>> 24).toUInt8 ≠ displayClass then
          throw .notDisplayDevice
        else readHeader pci : Attempt δ PageHeader).run.run
          (afterConfig pci vendorOffset before) := by
  have hread : (pci.readConfig vendorOffset before.device.hardware).1.1.isError = false := hvendor
  rw [detect, run_attempt_bind, run_attempt_readConfig, Status.guard_of_success hread]
  rfl

theorem detect_of_classUnread
    (hvendor : (readVendor pci before.device.hardware).1.1.isError = false)
    (herror : (readClass pci before.device.hardware).1.1.isError = true) :
    (detect pci).run.run before =
      (.error (.registerAccess (readClass pci before.device.hardware).1.1),
        afterConfigs pci before) := by
  have hread : (pci.readConfig classOffset
      (afterConfig pci vendorOffset before).device.hardware).1.1.isError = true := herror
  rw [detect_of_vendorRead hvendor, run_attempt_bind, run_attempt_readConfig,
    Status.guard_of_error hread]
  rfl

theorem detect_of_classRead
    (hvendor : (readVendor pci before.device.hardware).1.1.isError = false)
    (hclass : (readClass pci before.device.hardware).1.1.isError = false) :
    (detect pci).run.run before =
      (if (readVendor pci before.device.hardware).1.2.toUInt16 ≠ vendorId ∨
          ((readClass pci before.device.hardware).1.2 >>> 24).toUInt8 ≠ displayClass then
        throw .notDisplayDevice
      else readHeader pci : Attempt δ PageHeader).run.run (afterConfigs pci before) := by
  have hread : (pci.readConfig classOffset
      (afterConfig pci vendorOffset before).device.hardware).1.1.isError = false := hclass
  rw [detect_of_vendorRead hvendor, run_attempt_bind, run_attempt_readConfig,
    Status.guard_of_success hread]
  rfl

theorem detect_of_otherDevice
    (hvendor : (readVendor pci before.device.hardware).1.1.isError = false)
    (hclass : (readClass pci before.device.hardware).1.1.isError = false)
    (hother : ¬ IsDisplay (readVendor pci before.device.hardware).1.2
      (readClass pci before.device.hardware).1.2) :
    (detect pci).run.run before = (.error .notDisplayDevice, afterConfigs pci before) := by
  rw [isDisplay_iff, not_and_or] at hother
  rw [detect_of_classRead hvendor hclass, if_pos hother]
  rfl

theorem detect_of_display (hdisplay : DisplayFound pci before.device.hardware) :
    (detect pci).run.run before = (readHeader pci).run.run (afterConfigs pci before) := by
  obtain ⟨hvendor, hclass⟩ := isDisplay_iff.mp hdisplay.display
  rw [detect_of_classRead hdisplay.vendorRead hdisplay.classRead, if_neg]
  rintro (hother | hother)
  · exact hother hvendor
  · exact hother hclass

/-- A header that can be read is looked at: the magic number first, then the
capability. -/
theorem readHeader_of_reads {low high version identity capabilities : UInt32}
    (hread : Reads pci 0x78000 before.device.hardware
      [low, high, version, identity, capabilities]) :
    let header := PageHeader.ofWords [low, high, version, identity, capabilities]
    ((readHeader pci).run.run before).1 =
      if header.magic ≠ pageMagic then .error (.badMagic header.magic)
      else if capabilities &&& frameCapability = 0 then .error .noFrameSupport
      else .ok header := by
  intro header
  have hwords : ((readBlock pci pageBase 5).run.run before).1 =
      .ok [low, high, version, identity, capabilities] := run_readBlock_of_reads hread rfl
  rw [readHeader, run_attempt_bind, hwords]
  show ((if header.magic ≠ pageMagic then throw (.badMagic header.magic)
    else if capabilities &&& frameCapability = 0 then throw .noFrameSupport
    else pure header : Attempt δ _).run.run _).1 = _
  split
  · rfl
  · split <;> rfl

theorem readHeader_of_fails {status : Status}
    (hfails : ReadFails pci 0x78000 5 before.device.hardware status) :
    ((readHeader pci).run.run before).1 = .error (.registerAccess status) := by
  have hblock : ((readBlock pci pageBase 5).run.run before).1 =
      .error (.registerAccess status) := run_readBlock_of_fails hfails rfl
  rw [readHeader, run_attempt_bind, hblock]

theorem detect_of_suitable (h : Suitable pci before.device.hardware) :
    ∃ header, ((detect pci).run.run before).1 = .ok header := by
  obtain @⟨low, high, version, identity, capabilities, hdisplay, hread, hmagic, hcapability⟩ := h
  have hright := (magic_eq_iff low high [version, identity, capabilities]).mpr hmagic
  have hlends : capabilities &&& frameCapability ≠ 0 := by
    rw [Ne, and_frameCapability_eq_zero_iff, hcapability]
    decide
  refine ⟨PageHeader.ofWords [low, high, version, identity, capabilities], ?_⟩
  rw [detect_of_display hdisplay, readHeader_of_reads hread, if_neg (not_not_intro hright),
    if_neg hlends]

theorem detect_of_unsuitable {status : Status} (h : Unsuitable pci before.device.hardware status) :
    ∃ failure, ((detect pci).run.run before).1 = .error failure ∧ failure.status = status := by
  cases h with
  | vendorUnread herror =>
    rw [detect_of_vendorUnread herror]
    exact ⟨_, rfl, rfl⟩
  | classUnread hvendor herror =>
    rw [detect_of_classUnread hvendor herror]
    exact ⟨_, rfl, rfl⟩
  | otherDevice hvendor hclass hother =>
    rw [detect_of_otherDevice hvendor hclass hother]
    exact ⟨_, rfl, rfl⟩
  | headerUnread hdisplay hfails =>
    rw [detect_of_display hdisplay, readHeader_of_fails hfails]
    exact ⟨_, rfl, rfl⟩
  | otherPage hdisplay hread hmagic =>
    rw [detect_of_display hdisplay, readHeader_of_reads hread,
      if_pos (mt (magic_eq_iff _ _ _).mp hmagic)]
    exact ⟨_, rfl, rfl⟩
  | @lendsNothing low high version identity capabilities hdisplay hread hmagic hcapability =>
    have hright := (magic_eq_iff low high [version, identity, capabilities]).mpr hmagic
    rw [detect_of_display hdisplay, readHeader_of_reads hread, if_neg (not_not_intro hright),
      if_pos ((and_frameCapability_eq_zero_iff _).mpr hcapability)]
    exact ⟨_, rfl, rfl⟩

theorem used_readHeader (pci : PciAccess δ) (before : Platform (DisplayState δ) DisplayEvent) :
    Used before ((readHeader pci).run.run before).2
      (registerReads pci 0x78000 5 before.device.hardware) := by
  have hblock : Used before ((readBlock pci pageBase 5).run.run before).2
      (registerReads pci 0x78000 5 before.device.hardware) := used_readBlock pci pageBase 5 before
  rw [readHeader, run_attempt_bind]
  cases ((readBlock pci pageBase 5).run.run before).1 with
  | error failure => exact hblock
  | ok words =>
    dsimp only
    split
    · exact hblock
    · split <;> exact hblock

/-- An examination makes its accesses and does nothing else. -/
theorem used_detect (pci : PciAccess δ) (before : Platform (DisplayState δ) DisplayEvent) :
    Used before ((detect pci).run.run before).2
      (examinationReads pci before.device.hardware) := by
  have hfirst : Used before (afterConfig pci vendorOffset before)
      [.configRead 0 (readVendor pci before.device.hardware).1.1] := ⟨rfl, rfl, rfl⟩
  have hsecond : Used before (afterConfigs pci before)
      ([.configRead 0 (readVendor pci before.device.hardware).1.1] ++
        [.configRead 8 (readClass pci before.device.hardware).1.1]) := hfirst.trans ⟨rfl, rfl, rfl⟩
  rw [examinationReads]
  cases hvendor : (readVendor pci before.device.hardware).1.1.isError with
  | true =>
    rw [detect_of_vendorUnread hvendor]
    exact hfirst
  | false =>
    cases hclass : (readClass pci before.device.hardware).1.1.isError with
    | true =>
      rw [detect_of_classUnread hvendor hclass]
      exact hsecond
    | false =>
      by_cases hdisplay : IsDisplay (readVendor pci before.device.hardware).1.2
          (readClass pci before.device.hardware).1.2
      · rw [detect_of_display ⟨hvendor, hclass, hdisplay⟩]
        simp only [hdisplay, and_self, if_true]
        exact hsecond.trans (used_readHeader pci (afterConfigs pci before))
      · rw [detect_of_otherDevice hvendor hclass hdisplay]
        simp only [hdisplay, and_false, if_false]
        exact hsecond

end Detect

/-! ## Calls -/

/-- An install of an interface, successful or not. -/
@[simp] def isInstall : Event DisplayEvent → Bool
  | .service (.install ..) => true
  | _ => false

section Supported

variable {pci : PciAccess δ} {controller : Handle}
  {before : Platform (DisplayState δ) DisplayEvent}

/-- The platform after a controller was opened to be examined. -/
def afterOpening (controller : Handle) (before : Platform (DisplayState δ) DisplayEvent) :
    Platform (DisplayState δ) DisplayEvent :=
  afterCall (Services.openProtocol controller .pciIo before.device.driver.agent) before

theorem supported_of_not_opened
    (herror : (Services.nextAnswer before.services.opens).isError = true) :
    (supported pci controller).run before =
      (.error (Services.nextAnswer before.services.opens), afterOpening controller before) := by
  simp only [supported, run_bind, run_openController, Status.guard_of_error herror]
  rfl

/-- A controller that was opened is examined and closed.  How the close ends is not
looked at. -/
theorem supported_of_opened
    (hopened : (Services.nextAnswer before.services.opens).isError = false) :
    let examined := (detect pci).run.run (afterOpening controller before)
    (supported pci controller).run before =
      (match examined.1 with
        | .error failure => .error failure.status
        | .ok _ => .ok (),
      afterCall (Services.closeProtocol controller .pciIo examined.2.device.driver.agent)
        examined.2) := by
  simp only [supported, run_bind, run_openController, Status.guard_of_success hopened]
  rfl

theorem supported_of_suitable
    (hopened : (Services.nextAnswer before.services.opens).isError = false)
    (h : Suitable pci before.device.hardware) :
    ((supported pci controller).run before).1 = .ok () := by
  have hready : Suitable pci (afterOpening controller before).device.hardware := h
  obtain ⟨header, hheader⟩ := detect_of_suitable hready
  rw [supported_of_opened hopened, hheader]

theorem supported_of_unsuitable {status : Status}
    (hopened : (Services.nextAnswer before.services.opens).isError = false)
    (h : Unsuitable pci before.device.hardware status) :
    ((supported pci controller).run before).1 = .error status := by
  have hready : Unsuitable pci (afterOpening controller before).device.hardware status := h
  obtain ⟨failure, hfailure, rfl⟩ := detect_of_unsuitable hready
  rw [supported_of_opened hopened, hfailure]

variable (pci controller before)

/-- The events of a call.  A controller that cannot be opened is not closed. -/
def supportedEvents : List (Event DisplayEvent) :=
  let agent := before.device.driver.agent
  let opening := Services.nextAnswer before.services.opens
  opened agent controller opening ::
    if opening.isError then []
    else (examinationReads pci before.device.hardware).map .device ++
      [closed agent controller (Services.nextAnswer before.services.closes)]

/-- A call does what its events say, and the driver stays as it is. -/
theorem logged_supported :
    Logged before ((supported pci controller).run before).2
        (supportedEvents pci controller before) ∧
      ((supported pci controller).run before).2.device.driver = before.device.driver := by
  have hopen := logged_open controller .pciIo before.device.driver.agent before
  cases hopening : (Services.nextAnswer before.services.opens).isError with
  | true =>
    rw [supported_of_not_opened hopening]
    refine ⟨?_, rfl⟩
    simp only [supportedEvents, hopening, if_true]
    exact hopen
  | false =>
    have hused := used_detect pci (afterOpening controller before)
    rw [supported_of_opened hopening]
    generalize (detect pci).run.run (afterOpening controller before) = examined at hused ⊢
    have hdriver : examined.2.device.driver = before.device.driver := hused.driver
    have hcloses : examined.2.services.closes = before.services.closes := by
      rw [hused.services]
      rfl
    have hclose := logged_close controller .pciIo before.device.driver.agent examined.2
    rw [hcloses] at hclose
    refine ⟨?_, hdriver⟩
    simp only [supportedEvents, hopening, hdriver]
    exact (hopen.trans hused.logged).trans hclose

theorem not_isWrite_of_mem_supportedEvents :
    ∀ event ∈ supportedEvents pci controller before, isWrite event = false := by
  have hreads := not_isWrite_of_reads
    (isRead_of_mem_examinationReads pci before.device.hardware)
  simp only [supportedEvents, List.forall_mem_cons]
  refine ⟨rfl, ?_⟩
  split
  · simp
  · simp only [List.forall_mem_append]
    exact ⟨hreads, by simp⟩

theorem not_isInstall_of_mem_supportedEvents :
    ∀ event ∈ supportedEvents pci controller before, isInstall event = false := by
  simp only [supportedEvents, List.forall_mem_cons]
  refine ⟨rfl, ?_⟩
  split <;> simp [or_imp, forall_and]

theorem countP_isCloseOf_supportedEvents :
    (supportedEvents pci controller before).countP (isCloseOf controller) =
      if (Services.nextAnswer before.services.opens).isError then 0 else 1 := by
  have hreads := countP_device (examinationReads pci before.device.hardware)
    (isCloseOf controller) fun _ => rfl
  rw [supportedEvents]
  split
  · rfl
  · simp [hreads]

variable {pci controller before}

theorem installedAfter_supportedEvents (installed : List Installation) :
    (supportedEvents pci controller before).foldl Event.installedAfter installed = installed := by
  rw [supportedEvents]
  split
  · rfl
  · simp [Event.installedAfter, Used.installedAfter_accesses]

theorem levelAfter_supportedEvents (level : Tpl) :
    (supportedEvents pci controller before).foldl Event.levelAfter level = level := by
  rw [supportedEvents]
  split
  · rfl
  · simp [Event.levelAfter, Used.levelAfter_accesses]

theorem supported_eq_ok_iff :
    ((supported pci controller).run before).1 = .ok () ↔
      (Services.nextAnswer before.services.opens).isError = false ∧
        Suitable pci before.device.hardware := by
  refine ⟨fun hok => ?_, fun h => supported_of_suitable h.1 h.2⟩
  cases hopening : (Services.nextAnswer before.services.opens).isError with
  | true =>
    rw [supported_of_not_opened hopening] at hok
    cases hok
  | false =>
    rcases suitable_or_unsuitable pci before.device.hardware with hsuitable | ⟨status, hwrong⟩
    · exact ⟨rfl, hsuitable⟩
    · cases hok.symm.trans (supported_of_unsuitable hopening hwrong)

theorem supported_eq_error_iff {status : Status} :
    ((supported pci controller).run before).1 = .error status ↔
      (Services.nextAnswer before.services.opens).isError = true ∧
          status = Services.nextAnswer before.services.opens ∨
        (Services.nextAnswer before.services.opens).isError = false ∧
          Unsuitable pci before.device.hardware status := by
  cases hopening : (Services.nextAnswer before.services.opens).isError with
  | true =>
    rw [supported_of_not_opened hopening]
    simp [eq_comm]
  | false =>
    simp only [Bool.false_eq_true, false_and, true_and, false_or]
    refine ⟨fun herror => ?_, supported_of_unsuitable hopening⟩
    rcases suitable_or_unsuitable pci before.device.hardware with hsuitable | ⟨other, hother⟩
    · cases herror.symm.trans (supported_of_suitable hopening hsuitable)
    · cases herror.symm.trans (supported_of_unsuitable hopening hother)
      exact hother

end Supported

/-- A controller is supported exactly when it can be opened and everything about it is
right.  The answer is a status exactly when this is the status of the open that failed, or
else of the first thing that is wrong.  Whatever the answer, the call reads only, installs
nothing, closes the controller once if it opened it, and leaves the driver alone. -/
theorem supported_decides (pci : PciAccess δ) (controller : Handle)
    (before : Platform (DisplayState δ) DisplayEvent) :
    let ended := (supported pci controller).run before
    let opening := Services.nextAnswer before.services.opens
    let device := before.device.hardware
    let events := supportedEvents pci controller before
    (ended.1 = .ok () ↔ opening.isError = false ∧ Suitable pci device) ∧
    (∀ status, ended.1 = .error status ↔
      opening.isError = true ∧ status = opening ∨
        opening.isError = false ∧ Unsuitable pci device status) ∧
    ended.2.trace = before.trace ++ events ∧
    (∀ event ∈ events, isWrite event = false ∧ isInstall event = false) ∧
    events.countP (isCloseOf controller) = (if opening.isError then 0 else 1) ∧
    ended.2.services.installed = before.services.installed ∧
    ended.2.services.tpl = before.services.tpl ∧
    ended.2.device.driver = before.device.driver := by
  intro ended opening device events
  obtain ⟨hlogged, hdriver⟩ := logged_supported pci controller before
  refine ⟨supported_eq_ok_iff, fun status => supported_eq_error_iff, hlogged.trace, ?_,
    countP_isCloseOf_supportedEvents pci controller before, ?_, ?_, hdriver⟩
  · intro event hevent
    exact ⟨not_isWrite_of_mem_supportedEvents pci controller before event hevent,
      not_isInstall_of_mem_supportedEvents pci controller before event hevent⟩
  · rw [hlogged.installed, installedAfter_supportedEvents]
  · rw [hlogged.level, levelAfter_supportedEvents]

end GuestFirmware.Display
