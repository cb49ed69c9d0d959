import GuestFirmware.Proofs.Memory.Search
import GuestFirmware.Smbios.EntryPoint

/-!
# Which entry point is found

`EntryPointAt` says that an entry point lies at an address: its bytes can be
read, both anchors are in place, and the bytes that its checksum covers can be
read and sum to zero.  How many these are is said by the entry point itself.

`FirstEntryPoint` is the lowest one on the grid of the searched area.
`find_eq_some_iff` and `find_eq_none_iff` say that it is found.
-/

namespace GuestFirmware.Smbios

open GuestMemory LittleEndian

/-- An entry point with the given bytes lies at an address. -/
structure EntryPointAt (memory : GuestMemory) (address : UInt64) (bytes : List UInt8) : Prop where
  read : memory.read address 31 = some bytes
  anchor : slice bytes 0 4 = EntryPoint.anchor
  intermediateAnchor : slice bytes 16 5 = EntryPoint.intermediateAnchor
  checksum : ∃ covered, memory.read address (bytes.getD 5 0).toNat = some covered ∧
    byteSum covered = 0

/-- The lowest address of the area that holds an entry point, and its bytes. -/
structure FirstEntryPoint (memory : GuestMemory) (address : UInt64) (bytes : List UInt8) :
    Prop where
  onGrid : OnGrid scanStart scanEnd address
  here : EntryPointAt memory address bytes
  noneBelow : ∀ earlier, OnGrid scanStart scanEnd earlier → earlier < address →
    ∀ other, ¬ EntryPointAt memory earlier other

/-- No address of the area holds an entry point. -/
def NoEntryPoint (memory : GuestMemory) : Prop :=
  ∀ address, OnGrid scanStart scanEnd address → ∀ bytes, ¬ EntryPointAt memory address bytes

namespace EntryPoint

variable {memory : GuestMemory} {address : UInt64} {entryPoint : EntryPoint}

theorem at?_eq_some_iff :
    at? memory address = some entryPoint ↔
      ∃ bytes, EntryPointAt memory address bytes ∧ entryPoint = decode bytes := by
  constructor
  · intro h
    unfold at? at h
    split at h
    · cases h
    · next bytes hread =>
      split at h
      · next hanchored =>
        dsimp only at h
        split at h
        · cases h
        · next covered hcovered =>
          split at h
          · next hsum =>
            cases h
            simp only [anchored, Bool.and_eq_true, beq_iff_eq] at hanchored
            exact ⟨bytes, ⟨hread, hanchored.1, hanchored.2, covered, hcovered, hsum⟩, rfl⟩
          · cases h
      · cases h
  · rintro ⟨bytes, ⟨hread, hanchor, hintermediate, covered, hcovered, hsum⟩, rfl⟩
    have hanchored : anchored bytes = true := by
      simp only [anchored, Bool.and_eq_true, beq_iff_eq]
      exact ⟨hanchor, hintermediate⟩
    have hlength : memory.read address (decode bytes).length.toNat = some covered := hcovered
    rw [at?, size, hread]
    simp only [hanchored, ↓reduceIte, hlength, hsum]

theorem isSome_at?_iff :
    (at? memory address).isSome = true ↔ ∃ bytes, EntryPointAt memory address bytes := by
  rw [Option.isSome_iff_exists]
  constructor
  · rintro ⟨entryPoint, h⟩
    obtain ⟨bytes, hbytes, -⟩ := at?_eq_some_iff.1 h
    exact ⟨bytes, hbytes⟩
  · rintro ⟨bytes, hbytes⟩
    exact ⟨_, at?_eq_some_iff.2 ⟨bytes, hbytes, rfl⟩⟩

/-- Where the test of the search fails there is no entry point. -/
theorem isSome_at?_eq_false_iff :
    (at? memory address).isSome = false ↔ ∀ bytes, ¬ EntryPointAt memory address bytes := by
  rw [Bool.eq_false_iff, ne_eq, isSome_at?_iff, not_exists]

theorem at?_eq_none_iff :
    at? memory address = none ↔ ∀ bytes, ¬ EntryPointAt memory address bytes := by
  rw [← isSome_at?_eq_false_iff, Option.isSome_eq_false_iff, Option.isNone_iff_eq_none]

theorem find_eq_none_iff : find memory = none ↔ NoEntryPoint memory := by
  unfold find
  cases hfirst : firstAligned (fun address => (at? memory address).isSome) scanStart scanEnd with
  | none =>
    refine iff_of_true rfl fun address hgrid => ?_
    exact isSome_at?_eq_false_iff.1 (firstAligned_eq_none_iff.1 hfirst address hgrid)
  | some address =>
    obtain ⟨hgrid, htest, -⟩ := firstAligned_eq_some_iff.1 hfirst
    obtain ⟨bytes, hbytes⟩ := isSome_at?_iff.1 htest
    refine iff_of_false ?_ fun hnone => hnone address hgrid bytes hbytes
    dsimp only
    rw [at?_eq_some_iff.2 ⟨bytes, hbytes, rfl⟩]
    simp

theorem find_eq_some_iff :
    find memory = some (address, entryPoint) ↔
      ∃ bytes, FirstEntryPoint memory address bytes ∧ entryPoint = decode bytes := by
  unfold find
  constructor
  · intro h
    cases hfirst : firstAligned (fun address => (at? memory address).isSome) scanStart scanEnd with
    | none =>
      rw [hfirst] at h
      cases h
    | some found =>
      rw [hfirst] at h
      obtain ⟨_, hat, hpair⟩ := Option.map_eq_some_iff.1 h
      cases hpair
      obtain ⟨bytes, hbytes, rfl⟩ := at?_eq_some_iff.1 hat
      obtain ⟨hgrid, -, hearlier⟩ := firstAligned_eq_some_iff.1 hfirst
      refine ⟨bytes, ⟨hgrid, hbytes, fun earlier hon hlt => ?_⟩, rfl⟩
      exact isSome_at?_eq_false_iff.1 (hearlier earlier hon hlt)
  · rintro ⟨bytes, hfirst, rfl⟩
    have hfound : firstAligned (fun address => (at? memory address).isSome) scanStart scanEnd =
        some address := by
      refine firstAligned_eq_some_iff.2 ⟨hfirst.onGrid, ?_, fun earlier hon hlt => ?_⟩
      · exact isSome_at?_iff.2 ⟨bytes, hfirst.here⟩
      · exact isSome_at?_eq_false_iff.2 (hfirst.noneBelow earlier hon hlt)
    rw [hfound]
    dsimp only
    rw [at?_eq_some_iff.2 ⟨bytes, hfirst.here, rfl⟩, Option.map_some]

/-- There is an entry point or there is none. -/
theorem first_or_none (memory : GuestMemory) :
    NoEntryPoint memory ∨ ∃ address bytes, FirstEntryPoint memory address bytes := by
  cases hfind : find memory with
  | none => exact Or.inl (find_eq_none_iff.1 hfind)
  | some found =>
    obtain ⟨address, entryPoint⟩ := found
    obtain ⟨bytes, hfirst, -⟩ := find_eq_some_iff.1 hfind
    exact Or.inr ⟨address, bytes, hfirst⟩

end EntryPoint

end GuestFirmware.Smbios
