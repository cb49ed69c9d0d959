import GuestFirmware.Proofs.LittleEndian.Slices
import GuestFirmware.Proofs.Memory.ChangedByte
import GuestFirmware.Proofs.Smbios.EntryPoint

/-!
# What the checksum of an entry point protects

The bytes 22 to 27 of an entry point say where its structure table lies and how
long it is.  The checksum covers as many bytes as the entry point states, and
nothing demands that these reach as far as that.

`at?_of_changedAt` says what a change of one of these bytes does: the check fails
if the checksum covers the byte, and if not the entry point is accepted with the
changed field.  `tablePointer_protected_iff` says for which entry points every
such change is noticed.
-/

namespace GuestFirmware.Smbios

open GuestMemory LittleEndian

/-- A byte of the fields that say where the structure table lies. -/
def PointsToTable (offset : Nat) : Prop :=
  22 ≤ offset ∧ offset < 28

instance (offset : Nat) : Decidable (PointsToTable offset) :=
  inferInstanceAs (Decidable (_ ∧ _))

namespace EntryPoint

variable {memory changed : GuestMemory} {address : UInt64} {bytes : List UInt8} {offset : Nat}
  {byte : UInt8}

/-- The anchors and the stated length lie in front of the fields. -/
theorem fields_set (hoffset : PointsToTable offset) (bytes : List UInt8) (byte : UInt8) :
    slice (bytes.set offset byte) 0 4 = slice bytes 0 4 ∧
      slice (bytes.set offset byte) 16 5 = slice bytes 16 5 ∧
      (bytes.set offset byte).getD 5 0 = bytes.getD 5 0 := by
  obtain ⟨hlow, -⟩ := hoffset
  exact ⟨slice_set (.inr (by omega)) byte, slice_set (.inr (by omega)) byte,
    getD_set (by omega) byte 0⟩

/-- A change that the checksum covers makes the check fail. -/
theorem not_entryPointAt_of_changedAt (hhere : EntryPointAt memory address bytes)
    (hoffset : PointsToTable offset) (hcovered : offset < (bytes.getD 5 0).toNat)
    (hother : ¬ HoldsByte memory address offset byte)
    (hchanged : ChangedAt memory changed address offset byte) (other : List UInt8) :
    ¬ EntryPointAt changed address other := by
  intro hagain
  obtain rfl : bytes.set offset byte = other :=
    Option.some.inj ((hchanged.read hhere.read).symm.trans hagain.read)
  obtain ⟨covered, hread, hsum⟩ := hhere.checksum
  obtain ⟨summed, hsummed, hzero⟩ := hagain.checksum
  rw [(fields_set hoffset bytes byte).2.2, hchanged.read hread] at hsummed
  obtain rfl := Option.some.inj hsummed
  exact byteSum_set_ne hread hcovered hother (hzero.trans hsum.symm)

/-- A change behind the covered bytes leaves an entry point. -/
theorem entryPointAt_of_changedAt (hhere : EntryPointAt memory address bytes)
    (hoffset : PointsToTable offset) (hbehind : (bytes.getD 5 0).toNat ≤ offset)
    (hchanged : ChangedAt memory changed address offset byte) :
    EntryPointAt changed address (bytes.set offset byte) := by
  obtain ⟨hanchor, hintermediate, hlength⟩ := fields_set hoffset bytes byte
  obtain ⟨covered, hread, hsum⟩ := hhere.checksum
  refine ⟨hchanged.read hhere.read, hanchor.trans hhere.anchor,
    hintermediate.trans hhere.intermediateAnchor, covered, ?_, hsum⟩
  rw [hlength]
  exact hchanged.read_of_le hread hbehind

theorem at?_of_changedAt (hhere : EntryPointAt memory address bytes)
    (hoffset : PointsToTable offset) (hother : ¬ HoldsByte memory address offset byte)
    (hchanged : ChangedAt memory changed address offset byte) :
    at? changed address =
      if offset < (bytes.getD 5 0).toNat then none
      else some (decode (bytes.set offset byte)) := by
  split_ifs with hcovered
  · exact at?_eq_none_iff.2 (not_entryPointAt_of_changedAt hhere hoffset hcovered hother hchanged)
  · have hagain := entryPointAt_of_changedAt hhere hoffset (Nat.le_of_not_lt hcovered) hchanged
    exact at?_eq_some_iff.2 ⟨_, hagain, rfl⟩

/-- Of an entry point that passes the check, a changed byte of the fields that lead
to the structure table is noticed exactly if the stated length reaches past it.  So
all such changes are noticed exactly if the stated length reaches past these fields. -/
theorem tablePointer_protected_iff {entryPoint : EntryPoint}
    (h : at? memory address = some entryPoint) :
    (∀ offset byte changed, PointsToTable offset → ¬ HoldsByte memory address offset byte →
      ChangedAt memory changed address offset byte →
        (at? changed address = none ↔ offset < entryPoint.length.toNat)) ∧
    ((∀ offset byte changed, PointsToTable offset → ¬ HoldsByte memory address offset byte →
      ChangedAt memory changed address offset byte → at? changed address = none) ↔
        28 ≤ entryPoint.length.toNat) := by
  obtain ⟨bytes, hhere, rfl⟩ := at?_eq_some_iff.1 h
  have hnoticed : ∀ offset byte changed, PointsToTable offset →
      ¬ HoldsByte memory address offset byte → ChangedAt memory changed address offset byte →
        (at? changed address = none ↔ offset < (decode bytes).length.toNat) := by
    intro offset byte changed hoffset hother hchanged
    have hlength : (decode bytes).length = bytes.getD 5 0 := rfl
    rw [at?_of_changedAt hhere hoffset hother hchanged, hlength]
    by_cases hcovered : offset < (bytes.getD 5 0).toNat
    · rw [if_pos hcovered]
      exact iff_of_true rfl hcovered
    · rw [if_neg hcovered]
      exact iff_of_false (Option.some_ne_none _) hcovered
  refine ⟨hnoticed, fun hall => ?_, fun hlength => ?_⟩
  · -- The last byte of the fields is the one that needs the greatest length.
    have hlast : PointsToTable 27 := by decide
    obtain ⟨byte, hother⟩ := memory.exists_not_holdsByte address 27
    have hchanged := changedAt_setByte memory address 27 byte
    exact (hnoticed _ _ _ hlast hother hchanged).1 (hall _ _ _ hlast hother hchanged)
  · intro offset byte changed hoffset hother hchanged
    exact (hnoticed _ _ _ hoffset hother hchanged).2 (Nat.lt_of_lt_of_le hoffset.2 hlength)

/-- An entry point that states a length and is summed up to it. -/
def statingLength (length check : UInt8) : List UInt8 :=
  anchor ++ [check, length, 2, 8] ++ List.replicate 8 0 ++ intermediateAnchor ++ [0] ++
    ofWord16 0x53 ++ ofWord32 0xF1000 ++ ofWord16 4 ++ [0x28]

/-- Memory that holds an entry point at the start of the searched area. -/
def holding (bytes : List UInt8) : GuestMemory :=
  .sparse [⟨scanStart, bytes.toArray⟩]

theorem tablePointer_protected_iff_full :
    (∃ entryPoint, at? (holding (statingLength 31 0x43)) scanStart = some entryPoint ∧
      28 ≤ entryPoint.length.toNat) ∧
    ¬ HoldsByte (holding (statingLength 31 0x43)) scanStart 25 0x20 ∧
    at? ((holding (statingLength 31 0x43)).setByte (scanStart.toNat + 25) 0x20) scanStart =
      none := by
  have hhere : at? (holding (statingLength 31 0x43)) scanStart =
      some (decode (statingLength 31 0x43)) := by decide +kernel
  have hlength : 28 ≤ (decode (statingLength 31 0x43)).length.toNat := by decide +kernel
  have hread : (holding (statingLength 31 0x43)).read scanStart 31 =
      some (statingLength 31 0x43) := by decide +kernel
  have hother : ¬ HoldsByte (holding (statingLength 31 0x43)) scanStart 25 0x20 := by
    rw [holdsByte_iff hread (by decide)]
    decide +kernel
  have hchanged := changedAt_setByte (holding (statingLength 31 0x43)) scanStart 25 0x20
  exact ⟨⟨_, hhere, hlength⟩, hother,
    (tablePointer_protected_iff hhere).2.2 hlength 25 0x20 _ (by decide) hother hchanged⟩

/-- The entry point states that its checksum ends in front of the fields that lead to
the structure table.  It is found, and it is found as well with another table
address. -/
theorem tablePointer_unprotected :
    (find (holding (statingLength 22 0xEA))).map (fun found => (found.1, found.2.tableAddress)) =
      some (scanStart, 0xF1000) ∧
    PointsToTable 25 ∧ ¬ HoldsByte (holding (statingLength 22 0xEA)) scanStart 25 0x20 ∧
    ChangedAt (holding (statingLength 22 0xEA))
      ((holding (statingLength 22 0xEA)).setByte (scanStart.toNat + 25) 0x20) scanStart 25 0x20 ∧
    (find ((holding (statingLength 22 0xEA)).setByte (scanStart.toNat + 25) 0x20)).map
      (fun found => (found.1, found.2.tableAddress)) = some (scanStart, 0xF2000) := by
  have hread : (holding (statingLength 22 0xEA)).read scanStart 31 =
      some (statingLength 22 0xEA) := by decide +kernel
  refine ⟨by decide +kernel, by decide, ?_, changedAt_setByte _ _ _ _, by decide +kernel⟩
  rw [holdsByte_iff hread (by decide)]
  decide +kernel

end EntryPoint

end GuestFirmware.Smbios
