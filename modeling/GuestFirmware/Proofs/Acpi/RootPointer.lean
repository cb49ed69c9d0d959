import GuestFirmware.Acpi.Rsdp
import GuestFirmware.Proofs.LittleEndian.Slices
import GuestFirmware.Proofs.Memory.ChangedByte
import GuestFirmware.Proofs.Memory.Search
import Mathlib.Order.Bounds.Defs

/-!
# Which root pointer is found

`RsdpAt` says that a root pointer lies at an address: its bytes can be read, the
signature is in place, the bytes of its first version sum to zero and, from
revision 2 on, so do as many bytes as it states, which are not fewer than it
has.

There are three groups.

* The check.  `at?_eq_some_iff` says that exactly the root pointers pass it.
* A changed byte.  `Covered` are the offsets that a checksum protects.  The
  length field is not among them: a change there also changes what is summed.
  `not_rsdpAt_of_changedAt` says that a change at a covered offset makes the
  check fail.
* `find_lowest_protected` is the result.
-/

namespace GuestFirmware.Acpi

open GuestMemory LittleEndian

/-- A root pointer with the given bytes lies at an address. -/
structure RsdpAt (memory : GuestMemory) (address : UInt64) (bytes : List UInt8) : Prop where
  read : memory.read address 36 = some bytes
  signature : slice bytes 0 8 = Rsdp.signature
  checksum : byteSum (slice bytes 0 20) = 0
  extended : 2 ≤ bytes.getD 15 0 →
    36 ≤ (word32At bytes 20).toNat ∧
      ∃ covered, memory.read address (word32At bytes 20).toNat = some covered ∧
        byteSum covered = 0

/-- The offsets of a root pointer whose bytes a checksum covers: those of the first
version, and from revision 2 on those behind the length field up to the stated
length. -/
def Covered (bytes : List UInt8) (offset : Nat) : Prop :=
  offset < 20 ∨ 2 ≤ bytes.getD 15 0 ∧ 24 ≤ offset ∧ offset < (word32At bytes 20).toNat

namespace Rsdp

variable {memory changed : GuestMemory} {address start stop : UInt64} {rsdp : Rsdp}
  {bytes : List UInt8} {offset : Nat} {byte : UInt8}

/-! ## The check -/

theorem extendedValid_iff :
    extendedValid memory address rsdp = true ↔
      36 ≤ rsdp.length.toNat ∧ ∃ covered, memory.read address rsdp.length.toNat = some covered ∧
        byteSum covered = 0 := by
  rw [extendedValid, Bool.and_eq_true, decide_eq_true_iff, Option.any_eq_true]
  simp only [size, beq_iff_eq]

/-- The bytes of the first version come first. -/
theorem shortValid_iff {short : List UInt8} (hshort : short = bytes.take shortSize) :
    shortValid short = true ↔ slice bytes 0 8 = signature ∧ byteSum (slice bytes 0 20) = 0 := by
  have htake : short.take 8 = slice bytes 0 8 := by
    rw [hshort, List.take_take]
    rfl
  have hslice : short = slice bytes 0 20 := hshort
  rw [shortValid, Bool.and_eq_true, beq_iff_eq, beq_iff_eq, htake, hslice]

theorem at?_eq_some_iff :
    at? memory address = some rsdp ↔
      ∃ bytes, RsdpAt memory address bytes ∧ rsdp = decode bytes := by
  constructor
  · intro h
    unfold at? at h
    split at h
    · cases h
    · next short hshort =>
      split at h
      · next hvalid =>
        split at h
        · cases h
        · next bytes hread =>
          dsimp only at h
          split at h
          · next hpasses =>
            cases h
            have htake := memory.read_take hread (by decide : shortSize ≤ size)
            have hfirst := (shortValid_iff (Option.some.inj (hshort.symm.trans htake))).1 hvalid
            refine ⟨bytes, ⟨hread, hfirst.1, hfirst.2, fun hrevision => ?_⟩, rfl⟩
            rw [Bool.or_eq_true, decide_eq_true_iff] at hpasses
            exact extendedValid_iff.1 (hpasses.resolve_left (UInt8.not_lt.2 hrevision))
          · cases h
      · cases h
  · rintro ⟨bytes, hpointer, rfl⟩
    have htake := memory.read_take hpointer.read (by decide : shortSize ≤ 36)
    have hvalid := (shortValid_iff rfl).2 ⟨hpointer.signature, hpointer.checksum⟩
    have hpasses : ((decode bytes).revision < 2 ||
        extendedValid memory address (decode bytes)) = true := by
      rw [Bool.or_eq_true, decide_eq_true_iff]
      by_cases hrevision : (decode bytes).revision < 2
      · exact .inl hrevision
      · exact .inr (extendedValid_iff.2 (hpointer.extended (UInt8.not_lt.1 hrevision)))
    rw [at?, htake]
    simp only [hvalid, ↓reduceIte, size, hpointer.read, hpasses]

theorem isSome_at?_iff :
    (at? memory address).isSome = true ↔ ∃ bytes, RsdpAt memory address bytes := by
  rw [Option.isSome_iff_exists]
  constructor
  · rintro ⟨rsdp, h⟩
    obtain ⟨bytes, hbytes, -⟩ := at?_eq_some_iff.1 h
    exact ⟨bytes, hbytes⟩
  · rintro ⟨bytes, hbytes⟩
    exact ⟨_, at?_eq_some_iff.2 ⟨bytes, hbytes, rfl⟩⟩

/-- Where the test of the search fails there is no root pointer. -/
theorem isSome_at?_eq_false_iff :
    (at? memory address).isSome = false ↔ ∀ bytes, ¬ RsdpAt memory address bytes := by
  rw [Bool.eq_false_iff, ne_eq, isSome_at?_iff, not_exists]

theorem at?_eq_none_iff :
    at? memory address = none ↔ ∀ bytes, ¬ RsdpAt memory address bytes := by
  rw [← isSome_at?_eq_false_iff, Option.isSome_eq_false_iff, Option.isNone_iff_eq_none]

/-! ## The search -/

theorem find_eq_none_iff :
    find memory start stop = none ↔
      ∀ address, OnGrid start stop address → ∀ bytes, ¬ RsdpAt memory address bytes := by
  rw [find, firstAligned_eq_none_iff]
  simp only [isSome_at?_eq_false_iff]

theorem find_eq_some_iff :
    find memory start stop = some address ↔
      IsLeast {address | OnGrid start stop address ∧ ∃ bytes, RsdpAt memory address bytes}
        address := by
  rw [find, firstAligned_eq_some_iff]
  constructor
  · rintro ⟨hgrid, hhere, hbelow⟩
    refine ⟨⟨hgrid, isSome_at?_iff.1 hhere⟩, fun other hother => UInt64.not_lt.1 fun hlt => ?_⟩
    obtain ⟨bytes, hbytes⟩ := hother.2
    exact isSome_at?_eq_false_iff.1 (hbelow other hother.1 hlt) bytes hbytes
  · rintro ⟨⟨hgrid, hhere⟩, hleast⟩
    refine ⟨hgrid, isSome_at?_iff.2 hhere, fun earlier hearlier hlt => ?_⟩
    refine isSome_at?_eq_false_iff.2 fun bytes hbytes => ?_
    exact UInt64.not_lt.2 (hleast ⟨hearlier, bytes, hbytes⟩) hlt

/-! ## A changed byte -/

/-- The first checksum notices a change of the first version. -/
theorem byteSum_short_ne (hpointer : RsdpAt memory address bytes) (hoffset : offset < 20)
    (hother : ¬ HoldsByte memory address offset byte) :
    byteSum (slice (bytes.set offset byte) 0 20) ≠ 0 := by
  have hshort : memory.read address 20 = some (slice bytes 0 20) :=
    memory.read_take hpointer.read (by decide)
  have hset : slice (bytes.set offset byte) 0 20 = (slice bytes 0 20).set offset byte :=
    List.take_set ..
  rw [hset, ← hpointer.checksum]
  exact byteSum_set_ne hshort hoffset hother

/-- Behind the length field neither the revision nor the stated length changes. -/
theorem fields_set (bytes : List UInt8) (byte : UInt8) (hoffset : 24 ≤ offset) :
    (bytes.set offset byte).getD 15 0 = bytes.getD 15 0 ∧
      word32At (bytes.set offset byte) 20 = word32At bytes 20 := by
  refine ⟨getD_set (by omega) byte 0, ?_⟩
  rw [word32At, word32At, slice_set (.inr hoffset)]

theorem not_rsdpAt_of_changedAt (hpointer : RsdpAt memory address bytes)
    (hcovered : Covered bytes offset) (hother : ¬ HoldsByte memory address offset byte)
    (hchanged : ChangedAt memory changed address offset byte) (other : List UInt8) :
    ¬ RsdpAt changed address other := by
  intro hagain
  obtain rfl : bytes.set offset byte = other :=
    Option.some.inj ((hchanged.read hpointer.read).symm.trans hagain.read)
  rcases hcovered with hoffset | ⟨hrevision, hbehind, hoffset⟩
  · exact byteSum_short_ne hpointer hoffset hother hagain.checksum
  · obtain ⟨-, covered, hread, hsum⟩ := hpointer.extended hrevision
    obtain ⟨hsame, hlength⟩ := fields_set bytes byte hbehind
    obtain ⟨-, summed, hsummed, hzero⟩ := hagain.extended (hsame ▸ hrevision)
    rw [hlength, hchanged.read hread] at hsummed
    obtain rfl := Option.some.inj hsummed
    exact byteSum_set_ne hread hoffset hother (hzero.trans hsum.symm)

/-- In every memory and every range the search finds the lowest address on the
grid at which a root pointer lies, and nothing if there is none.  It ends after at
most 2⁶⁰ tests, also in front of the last address there is.  Another byte in the
place of one that a checksum of the found pointer covers makes the check fail, so
no search finds the pointer any more. -/
theorem find_lowest_protected (memory : GuestMemory) (start stop : UInt64) :
    (∀ address, find memory start stop = some address ↔
      IsLeast {address | OnGrid start stop address ∧ ∃ bytes, RsdpAt memory address bytes}
        address) ∧
    (find memory start stop = none ↔
      ∀ address, OnGrid start stop address → ∀ bytes, ¬ RsdpAt memory address bytes) ∧
    (∃ tested, tested ≤ 2 ^ 60 ∧
      Scan (fun address => ∃ bytes, RsdpAt memory address bytes) stop start
        (find memory start stop) tested) ∧
    ∀ address bytes, find memory start stop = some address → RsdpAt memory address bytes →
      ∀ offset byte changed, Covered bytes offset → ¬ HoldsByte memory address offset byte →
        ChangedAt memory changed address offset byte →
          at? changed address = none ∧ ∀ first last, find changed first last ≠ some address := by
  refine ⟨fun address => find_eq_some_iff, find_eq_none_iff,
    scan_firstAligned (fun address => isSome_at?_iff) start stop, ?_⟩
  intro address bytes _ hpointer offset byte changed hcovered hother hchanged
  have hrejected := not_rsdpAt_of_changedAt hpointer hcovered hother hchanged
  refine ⟨at?_eq_none_iff.2 hrejected, fun first last hfound => ?_⟩
  obtain ⟨other, hother⟩ := (find_eq_some_iff.1 hfound).1.2
  exact hrejected other hother

/-- A root pointer of revision 2 that names an XSDT at 0x1000. -/
def topPointer : List UInt8 :=
  signature ++ [223] ++ List.replicate 6 0 ++ [2] ++ ofWord32 0 ++ ofWord32 36 ++
    ofWord64 0x1000 ++ [204, 0, 0, 0]

/-- Memory that holds a root pointer in front of the last address there is. -/
def topMemory : GuestMemory :=
  .sparse [⟨0xFFFFFFFFFFFFFFC0, topPointer.toArray⟩]

theorem find_lowest_protected_topOfMemory :
    find topMemory 0xFFFFFFFFFFFFFFA0 0xFFFFFFFFFFFFFFFF = some 0xFFFFFFFFFFFFFFC0 ∧
    RsdpAt topMemory 0xFFFFFFFFFFFFFFC0 topPointer ∧
    Covered topPointer 25 ∧ ¬ HoldsByte topMemory 0xFFFFFFFFFFFFFFC0 25 0x20 ∧
    at? (topMemory.setByte (0xFFFFFFFFFFFFFFC0 + 25) 0x20) 0xFFFFFFFFFFFFFFC0 = none := by
  have hfind : find topMemory 0xFFFFFFFFFFFFFFA0 0xFFFFFFFFFFFFFFFF =
      some 0xFFFFFFFFFFFFFFC0 := by decide +kernel
  have hread : topMemory.read 0xFFFFFFFFFFFFFFC0 36 = some topPointer := by decide +kernel
  have hpointer : RsdpAt topMemory 0xFFFFFFFFFFFFFFC0 topPointer :=
    ⟨hread, by decide +kernel, by decide +kernel,
      fun _ => ⟨by decide +kernel, topPointer, by decide +kernel, by decide +kernel⟩⟩
  have hcovered : Covered topPointer 25 :=
    .inr ⟨by decide +kernel, by decide, by decide +kernel⟩
  have hother : ¬ HoldsByte topMemory 0xFFFFFFFFFFFFFFC0 25 0x20 := by
    rw [holdsByte_iff hread (by decide)]
    decide +kernel
  have hchanged := changedAt_setByte topMemory 0xFFFFFFFFFFFFFFC0 25 0x20
  obtain ⟨-, -, -, hprotected⟩ :=
    find_lowest_protected topMemory 0xFFFFFFFFFFFFFFA0 0xFFFFFFFFFFFFFFFF
  exact ⟨hfind, hpointer, hcovered, hother,
    (hprotected _ _ hfind hpointer _ _ _ hcovered hother hchanged).1⟩

end Rsdp

end GuestFirmware.Acpi
