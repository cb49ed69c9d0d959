import GuestFirmware.Arithmetic
import GuestFirmware.Memory

/-!
# A changed byte of memory

`HoldsByte` says which byte lies at an offset behind an address; every read that
reaches it shows it (`holdsByte_iff`).  `ChangedAt` compares two memories: the
second one answers every read at an address as the first one does, but for one
byte.  `setByte` changes a byte of a memory, so every change can be made
(`changedAt_setByte`).

A checksum over a range notices when a byte of the range is replaced by another
one (`byteSum_set_ne`).  A change behind the range does not show in it
(`ChangedAt.read_of_le`).
-/

namespace GuestFirmware.GuestMemory

/-- The byte at an offset behind an address can be read, and it is this one. -/
def HoldsByte (memory : GuestMemory) (address : UInt64) (offset : Nat) (byte : UInt8) : Prop :=
  ∃ length bytes, memory.read address length = some bytes ∧ bytes[offset]? = some byte

/-- The second memory answers the reads at an address as the first one does, with
the byte at an offset replaced. -/
def ChangedAt (memory changed : GuestMemory) (address : UInt64) (offset : Nat) (byte : UInt8) :
    Prop :=
  ∀ length, changed.read address length =
    (memory.read address length).map fun bytes => bytes.set offset byte

/-- The memory with another byte at a place. -/
def setByte (memory : GuestMemory) (place : Nat) (byte : UInt8) : GuestMemory where
  read address length := (memory.read address length).map fun bytes =>
    if address.toNat ≤ place then bytes.set (place - address.toNat) byte else bytes
  length_of_read h := by
    obtain ⟨bytes, hread, rfl⟩ := Option.map_eq_some_iff.1 h
    rw [apply_ite List.length, List.length_set, ite_self, memory.length_of_read hread]
  read_take h hcount := by
    obtain ⟨bytes, hread, rfl⟩ := Option.map_eq_some_iff.1 h
    rw [memory.read_take hread hcount, Option.map_some, apply_ite (List.take _), List.take_set]

theorem changedAt_setByte (memory : GuestMemory) (address : UInt64) (offset : Nat)
    (byte : UInt8) :
    ChangedAt memory (memory.setByte (address.toNat + offset) byte) address offset byte := by
  intro length
  simp only [setByte, Nat.le_add_right, ↓reduceIte, Nat.add_sub_cancel_left]

variable {memory changed : GuestMemory} {address : UInt64} {offset length : Nat} {byte : UInt8}
  {bytes : List UInt8}

/-- All reads that reach a byte agree on it. -/
theorem holdsByte_iff (hread : memory.read address length = some bytes)
    (hoffset : offset < length) :
    HoldsByte memory address offset byte ↔ bytes[offset]? = some byte := by
  constructor
  · rintro ⟨reach, others, hothers, hbyte⟩
    rcases Nat.le_total length reach with hle | hle
    · have htake := memory.read_take hothers hle
      rw [hread] at htake
      rw [Option.some.inj htake, List.getElem?_take_of_lt hoffset, hbyte]
    · have htake := memory.read_take hread hle
      rw [hothers] at htake
      rw [Option.some.inj htake, List.getElem?_take] at hbyte
      split at hbyte
      · exact hbyte
      · cases hbyte
  · exact fun hbyte => ⟨length, bytes, hread, hbyte⟩

/-- There is a byte that memory does not hold at a place. -/
theorem exists_not_holdsByte (memory : GuestMemory) (address : UInt64) (offset : Nat) :
    ∃ byte, ¬ HoldsByte memory address offset byte := by
  by_cases hzero : HoldsByte memory address offset 0
  · obtain ⟨length, bytes, hread, hbyte⟩ := hzero
    refine ⟨1, fun hone => ?_⟩
    have hlength := memory.length_of_read hread
    have hoffset : offset < bytes.length := (List.getElem?_eq_some_iff.1 hbyte).1
    rw [holdsByte_iff hread (by omega), hbyte] at hone
    exact absurd hone (by decide)
  · exact ⟨0, hzero⟩

theorem ChangedAt.read (h : ChangedAt memory changed address offset byte)
    (hread : memory.read address length = some bytes) :
    changed.read address length = some (bytes.set offset byte) := by
  rw [h, hread, Option.map_some]

/-- A read that ends before the changed byte is answered as before. -/
theorem ChangedAt.read_of_le (h : ChangedAt memory changed address offset byte)
    (hread : memory.read address length = some bytes) (hoffset : length ≤ offset) :
    changed.read address length = some bytes := by
  have hlength := memory.length_of_read hread
  rw [h.read hread, List.set_eq_of_length_le (by omega)]

/-- The sum of a range does not stay the same when one of its bytes changes. -/
theorem byteSum_set_ne (hread : memory.read address length = some bytes)
    (hoffset : offset < length) (hother : ¬ HoldsByte memory address offset byte) :
    byteSum (bytes.set offset byte) ≠ byteSum bytes := by
  have hinside : offset < bytes.length := by
    rw [memory.length_of_read hread]
    exact hoffset
  intro hsum
  have hsame : byte = bytes[offset] := (byteSum_set_eq_iff hinside).1 hsum
  rw [holdsByte_iff hread hoffset, List.getElem?_eq_getElem hinside, hsame] at hother
  exact hother rfl

end GuestFirmware.GuestMemory
