import GuestFirmware.Proofs.E820.Arithmetic
import Mathlib.Data.Finset.Lattice.Fold
import Mathlib.Data.Finset.Union
import Mathlib.Order.Interval.Finset.Nat
import Mathlib.Order.Lattice.Nat

/-!
# Sizes as sets of addresses

The sizes of a map are folds over its entries.  This module says what they mean for the
memory that the entries describe: a range covers a set of addresses, and a map covers
the union of them.

* `Entry.addresses` are the bytes of a range, `covered` those of a list of ranges, and
  `past` is one past the greatest of some addresses.
* `max_eq_past` relates the greatest end of some ranges to the union of their bytes.
* `card_covered_high` relates the sum of some lengths to the size of the union.  It
  needs ranges that share no byte, and gives the bound that keeps the sum a word.

`sizes_of_disjoint` is the result.  The entries may come in any order, and a range may
lie on both sides of 4 GiB.
-/

namespace GuestFirmware.E820

open Entry (fourGiB)

/-! ## Addresses -/

namespace Entry

/-- The addresses of the bytes of a range. -/
def addresses (entry : Entry) : Finset Nat :=
  Finset.Ico entry.base.toNat (entry.base.toNat + entry.length.toNat)

/-- A range that has bytes and does not reach past the last address. -/
structure Proper (entry : Entry) : Prop where
  nonempty : 0 < entry.length.toNat
  fits : entry.base.toNat + entry.length.toNat ≤ 2 ^ 64 - 1

@[simp] theorem mem_addresses {entry : Entry} {address : Nat} :
    address ∈ entry.addresses ↔
      entry.base.toNat ≤ address ∧ address < entry.base.toNat + entry.length.toNat :=
  Finset.mem_Ico

theorem Proper.toNat_limit {entry : Entry} (h : entry.Proper) :
    entry.limit.toNat = entry.base.toNat + entry.length.toNat := by
  rw [entry.toNat_limit, Nat.min_eq_left h.fits]

end Entry

/-- The addresses that ranges cover. -/
def covered (entries : List Entry) : Finset Nat :=
  entries.toFinset.biUnion Entry.addresses

@[simp] theorem mem_covered {entries : List Entry} {address : Nat} :
    address ∈ covered entries ↔ ∃ entry ∈ entries, address ∈ entry.addresses := by
  rw [covered, Finset.mem_biUnion]
  simp only [List.mem_toFinset]

theorem covered_cons (entry : Entry) (rest : List Entry) :
    covered (entry :: rest) = entry.addresses ∪ covered rest := by
  rw [covered, List.toFinset_cons, Finset.biUnion_insert]
  rfl

/-- One past the greatest of some addresses, zero if there is none. -/
def past (addresses : Finset Nat) : Nat :=
  addresses.sup (· + 1)

theorem lt_past {addresses : Finset Nat} {address : Nat} (h : address ∈ addresses) :
    address < past addresses :=
  Finset.le_sup (f := (· + 1)) h

/-! ## The greatest end -/

/-- The greatest end of some ranges is one past the greatest address, if each address
lies below an end and each end comes right after an address. -/
theorem max_eq_past {ends : List Nat} {addresses : Finset Nat}
    (hbelow : ∀ address ∈ addresses, ∃ last ∈ ends, address < last)
    (hreached : ∀ last ∈ ends, ∃ address ∈ addresses, last = address + 1) :
    ends.max?.getD 0 = past addresses := by
  apply Nat.le_antisymm
  · rw [getD_max?_le_iff]
    intro last hlast
    obtain ⟨address, haddress, rfl⟩ := hreached last hlast
    exact lt_past haddress
  · apply Finset.sup_le
    intro address haddress
    obtain ⟨last, hlast, hlt⟩ := hbelow address haddress
    exact Nat.le_trans hlt (List.le_max?_getD_of_mem hlast)

theorem mem_ram {entries : List Entry} {entry : Entry} (h : entry ∈ ram entries) :
    entry ∈ entries :=
  (List.mem_filter.mp h).1

/-- The greatest low end of RAM is one past the greatest low RAM address. -/
theorem toNat_lowMemorySize_eq_past {entries : List Entry}
    (hproper : ∀ entry ∈ entries, entry.Proper) :
    (lowMemorySize entries).toNat = past ((covered (ram entries)).filter (· < 2 ^ 32)) := by
  have hlow : ∀ entry : Entry, entry.base < fourGiB ↔ entry.base.toNat < 2 ^ 32 :=
    fun entry => UInt64.lt_iff_toNat_lt
  rw [toNat_lowMemorySize]
  apply max_eq_past
  · intro address haddress
    obtain ⟨hcovered, hbelow⟩ := Finset.mem_filter.mp haddress
    obtain ⟨entry, hram, hin⟩ := mem_covered.mp hcovered
    obtain ⟨hbase, hend⟩ := Entry.mem_addresses.mp hin
    have hlimit := (hproper entry (mem_ram hram)).toNat_limit
    refine ⟨min entry.limit.toNat (2 ^ 32), List.mem_map_of_mem ?_, by omega⟩
    rw [List.mem_filter, decide_eq_true_iff, hlow]
    exact ⟨hram, by omega⟩
  · intro last hlast
    obtain ⟨entry, hentry, rfl⟩ := List.mem_map.mp hlast
    rw [List.mem_filter, decide_eq_true_iff, hlow] at hentry
    obtain ⟨hram, hbase⟩ := hentry
    have hentry := hproper entry (mem_ram hram)
    have hlimit := hentry.toNat_limit
    have hbytes := hentry.nonempty
    refine ⟨min entry.limit.toNat (2 ^ 32) - 1, ?_, by omega⟩
    rw [Finset.mem_filter, mem_covered]
    exact ⟨⟨entry, hram, Entry.mem_addresses.mpr (by omega)⟩, by omega⟩

/-- The greatest end is one past the greatest address. -/
theorem max_limit_eq_past {entries : List Entry} (hproper : ∀ entry ∈ entries, entry.Proper) :
    (entries.map fun entry => entry.limit.toNat).max?.getD 0 = past (covered entries) := by
  apply max_eq_past
  · intro address haddress
    obtain ⟨entry, hentry, hin⟩ := mem_covered.mp haddress
    refine ⟨entry.limit.toNat, List.mem_map_of_mem hentry, ?_⟩
    rw [(hproper entry hentry).toNat_limit]
    exact (Entry.mem_addresses.mp hin).2
  · intro last hlast
    obtain ⟨entry, hentry, rfl⟩ := List.mem_map.mp hlast
    have hlimit := (hproper entry hentry).toNat_limit
    have hbytes := (hproper entry hentry).nonempty
    refine ⟨entry.limit.toNat - 1, ?_, by omega⟩
    exact mem_covered.mpr ⟨entry, hentry, Entry.mem_addresses.mpr (by omega)⟩

/-! ## The sum of lengths -/

/-- No two of the ranges share a byte. -/
def Apart (entries : List Entry) : Prop :=
  entries.Pairwise fun one other => Disjoint one.addresses other.addresses

theorem card_addresses_high {entry : Entry} (h : entry.Proper) :
    (entry.addresses.filter (2 ^ 32 ≤ ·)).card = entry.highBytes := by
  have hpart : entry.addresses.filter (2 ^ 32 ≤ ·) =
      Finset.Ico (max entry.base.toNat (2 ^ 32)) (entry.base.toNat + entry.length.toNat) := by
    ext address
    simp only [Finset.mem_filter, Entry.mem_addresses, Finset.mem_Ico]
    omega
  rw [hpart, Nat.card_Ico, Entry.highBytes, h.toNat_limit]

/-- Ranges that share no byte cover as many high addresses as they have high bytes
together. -/
theorem card_covered_high {entries : List Entry} (hproper : ∀ entry ∈ entries, entry.Proper)
    (hapart : Apart entries) :
    ((covered entries).filter (2 ^ 32 ≤ ·)).card = (entries.map Entry.highBytes).sum := by
  induction entries with
  | nil => rfl
  | cons entry rest ih =>
    obtain ⟨hfirst, hrest⟩ := List.pairwise_cons.mp hapart
    have hdisjoint : Disjoint entry.addresses (covered rest) := by
      rw [covered, Finset.disjoint_biUnion_right]
      intro other hother
      exact hfirst other (List.mem_toFinset.mp hother)
    have hentry := hproper entry List.mem_cons_self
    have hothers := ih (fun other hother => hproper other (List.mem_cons_of_mem _ hother)) hrest
    rw [covered_cons, Finset.filter_union,
      Finset.card_union_of_disjoint (Finset.disjoint_filter_filter hdisjoint),
      card_addresses_high hentry, hothers, List.map_cons, List.sum_cons]

/-- Ranges that share no byte have fewer high bytes than there are addresses. -/
theorem highTotal_lt {entries : List Entry} (hproper : ∀ entry ∈ entries, entry.Proper)
    (hapart : Apart (ram entries)) : highTotal entries < 2 ^ 64 := by
  have hram : ∀ entry ∈ ram entries, entry.Proper :=
    fun entry hentry => hproper entry (mem_ram hentry)
  have hbelow : (covered (ram entries)).filter (2 ^ 32 ≤ ·) ⊆ Finset.range (2 ^ 64 - 1) := by
    intro address haddress
    obtain ⟨entry, hentry, hin⟩ := mem_covered.mp (Finset.mem_filter.mp haddress).1
    have hend := (Entry.mem_addresses.mp hin).2
    have hfits := (hram entry hentry).fits
    exact Finset.mem_range.mpr (by omega)
  have hcard := Finset.card_le_card hbelow
  rw [card_covered_high hram hapart, Finset.card_range] at hcard
  rw [highTotal]
  omega

/-! ## The sizes -/

/-- The sizes of a map whose ranges are proper and whose RAM ranges share no byte.  The
firmware does not stop at the amount of high RAM, and it is the number of RAM addresses
from 4 GiB on.  Low RAM ends one past the greatest RAM address below 4 GiB.
The address space ends one past the greatest address of any range, which is answered
unless it is low. -/
theorem sizes_of_disjoint {bytes : List UInt8} {entries : List Entry}
    (hdecode : decode bytes = .ok entries) (hproper : ∀ entry ∈ entries, entry.Proper)
    (hapart : Apart (ram entries)) :
    (∃ size, highMemorySize entries = .ok size ∧
      size.toNat = ((covered (ram entries)).filter (2 ^ 32 ≤ ·)).card) ∧
    (lowMemorySize entries).toNat = past ((covered (ram entries)).filter (· < 2 ^ 32)) ∧
    ∃ top : UInt64, top.toNat = past (covered entries) ∧
      firstNonAddress entries = if 2 ^ 32 ≤ top.toNat then .ok top else .error .notFound := by
  have htotal := highTotal_lt hproper hapart
  have hram : ∀ entry ∈ ram entries, entry.Proper :=
    fun entry hentry => hproper entry (mem_ram hentry)
  have hne : entries ≠ [] := by
    rintro rfl
    obtain ⟨hwell, hlength, -⟩ := decode_eq_ok_iff.mp hdecode
    exact hwell.count hlength.symm
  refine ⟨?_, toNat_lowMemorySize_eq_past hproper, ?_⟩
  · obtain ⟨size, hsize, hvalue⟩ := highMemorySize_of_lt htotal
    exact ⟨size, hsize, by rw [hvalue, highTotal, card_covered_high hram hapart]⟩
  · obtain ⟨top, htop, hanswer⟩ := firstNonAddress_of_ne_nil hne
    exact ⟨top, htop.trans (max_limit_eq_past hproper), hanswer⟩

/-- RAM on both sides of 4 GiB, low RAM that follows it in the map, and the aperture of
the PCI host. -/
def threeEntries : List Entry :=
  [⟨0xFFFFF000, 0x3000, 1⟩, ⟨0, 0xA0000, 1⟩, ⟨0x4000000000, 0x4000000000, 2⟩]

theorem sizes_of_disjoint_threeEntries :
    decode (encode 0 threeEntries) = .ok threeEntries ∧
      (∀ entry ∈ threeEntries, entry.Proper) ∧ Apart (ram threeEntries) ∧
      highMemorySize threeEntries = .ok 0x2000 ∧
      ((covered (ram threeEntries)).filter (2 ^ 32 ≤ ·)).card = 0x2000 ∧
      past ((covered (ram threeEntries)).filter (· < 2 ^ 32)) = 0x100000000 ∧
      past (covered threeEntries) = 0x8000000000 := by
  have hdecode : decode (encode 0 threeEntries ++ []) = .ok threeEntries :=
    decode_encode_append (by decide) (by decide) 0 []
  rw [List.append_nil] at hdecode
  have hproper : ∀ entry ∈ threeEntries, entry.Proper := by
    intro entry hentry
    simp only [threeEntries, List.mem_cons, List.not_mem_nil, or_false] at hentry
    rcases hentry with rfl | rfl | rfl <;> exact ⟨by decide, by decide⟩
  have hapart : Apart (ram threeEntries) := by
    have hram : ram threeEntries = [⟨0xFFFFF000, 0x3000, 1⟩, ⟨0, 0xA0000, 1⟩] := by decide
    rw [hram, Apart, List.pairwise_pair, Finset.disjoint_left]
    intro address hhigh hlow
    obtain ⟨hbase, -⟩ := Entry.mem_addresses.mp hhigh
    obtain ⟨-, hend⟩ := Entry.mem_addresses.mp hlow
    exact absurd (Nat.lt_of_le_of_lt hbase hend) (by decide)
  obtain ⟨⟨size, hsize, hhigh⟩, hlow, top, htop, hanswer⟩ :=
    sizes_of_disjoint hdecode hproper hapart
  have hcomputed : highMemorySize threeEntries = .ok 0x2000 := by decide
  rw [hcomputed] at hsize
  cases hsize
  refine ⟨hdecode, hproper, hapart, hcomputed, hhigh.symm, hlow.symm.trans (by decide), ?_⟩
  have hfirst : firstNonAddress threeEntries = .ok 0x8000000000 := by decide
  rw [hfirst] at hanswer
  split at hanswer
  · cases hanswer
    exact htop.symm
  · cases hanswer

end GuestFirmware.E820
