import GuestFirmware.Proofs.E820.Arithmetic

/-!
# Maps of the same memory

A map may list its ranges in any order, and may list one range as two that follow on each
other.  `Recut` relates two maps that differ in nothing else.  This module says that they
have the same sizes.  The ranges may overlap, and a cut may fall anywhere.

There are three groups.

* The parts of a range.  `Entry.lower` and `Entry.upper` are the two parts, and
  `Entry.CutsAt` says where a range may be cut.
* What a recut keeps.  A property that a range has exactly when both of its parts have it
  holds of all ranges or not (`Recut.forall_mem_iff`), and an amount that a range has
  exactly as much of as both of its parts together has the same sum (`Recut.sum_map`).
* The sizes.  An upper bound of all ends is such a property, and ends with the same upper
  bounds have the same greatest one (`max_eq_of_bounds`).  The amount of high RAM is such
  a sum (`highTotal_eq_sum`).

`sizes_of_recut` is the result.
-/

namespace GuestFirmware.E820

open Entry (fourGiB)

/-! ## The parts of a range -/

namespace Entry

/-- The first bytes of a range. -/
def lower (entry : Entry) (size : UInt64) : Entry :=
  { entry with length := size }

/-- What is left of a range behind its first bytes. -/
def upper (entry : Entry) (size : UInt64) : Entry :=
  { entry with base := entry.base + size, length := entry.length - size }

@[simp] theorem isRam_lower (entry : Entry) (size : UInt64) :
    (entry.lower size).isRam = entry.isRam := rfl

@[simp] theorem isRam_upper (entry : Entry) (size : UInt64) :
    (entry.upper size).isRam = entry.isRam := rfl

@[simp] theorem base_lower (entry : Entry) (size : UInt64) :
    (entry.lower size).base = entry.base := rfl

/-- A range may be cut behind its first bytes: both parts have bytes, and the range does
not reach past the last address. -/
structure CutsAt (entry : Entry) (size : UInt64) : Prop where
  pos : 0 < size
  lt : size < entry.length
  fits : entry.base.toNat + entry.length.toNat < 2 ^ 64

namespace CutsAt

variable {entry : Entry} {size : UInt64}

theorem toNat_bounds (h : entry.CutsAt size) :
    0 < size.toNat ∧ size.toNat < entry.length.toNat :=
  ⟨UInt64.lt_iff_toNat_lt.mp h.pos, UInt64.lt_iff_toNat_lt.mp h.lt⟩

/-- The upper part starts where the lower one ends. -/
theorem toNat_base_upper (h : entry.CutsAt size) :
    (entry.upper size).base.toNat = entry.base.toNat + size.toNat := by
  have hsize := h.toNat_bounds
  have hfits := h.fits
  show (entry.base + size).toNat = _
  rw [UInt64.toNat_add, Nat.mod_eq_of_lt (by omega)]

theorem toNat_limit_lower (h : entry.CutsAt size) :
    (entry.lower size).limit.toNat = entry.base.toNat + size.toNat := by
  have hsize := h.toNat_bounds
  have hfits := h.fits
  rw [toNat_limit]
  show min (entry.base.toNat + size.toNat) _ = _
  omega

/-- The upper part ends where the range ends. -/
theorem toNat_limit_upper (h : entry.CutsAt size) :
    (entry.upper size).limit.toNat = entry.limit.toNat := by
  have hsize := h.toNat_bounds
  have hlength : (entry.upper size).length.toNat = entry.length.toNat - size.toNat :=
    UInt64.toNat_sub_of_le _ _ (UInt64.le_of_lt h.lt)
  rw [toNat_limit, toNat_limit, h.toNat_base_upper, hlength]
  omega

theorem toNat_limit (h : entry.CutsAt size) :
    entry.limit.toNat = entry.base.toNat + entry.length.toNat := by
  have hfits := h.fits
  rw [Entry.toNat_limit]
  omega

/-- Cutting a range moves none of its bytes to the other side of 4 GiB. -/
theorem highBytes_eq (h : entry.CutsAt size) :
    entry.highBytes = (entry.lower size).highBytes + (entry.upper size).highBytes := by
  have hsize := h.toNat_bounds
  have hlower := h.toNat_limit_lower
  have hupper := h.toNat_limit_upper
  have hlimit := h.toNat_limit
  have hbase := h.toNat_base_upper
  rw [highBytes, highBytes, highBytes, base_lower, hlower, hupper, hbase, hlimit]
  omega

end CutsAt

end Entry

/-! ## What a recut keeps -/

/-- The second map lists the same memory as the first one, in another order and with
ranges cut in two. -/
inductive Recut : List Entry → List Entry → Prop
  | reorder {entries others : List Entry} (h : entries.Perm others) : Recut entries others
  | cut (front back : List Entry) {entry : Entry} {size : UInt64} (h : entry.CutsAt size) :
      Recut (front ++ entry :: back) (front ++ entry.lower size :: entry.upper size :: back)
  | trans {entries between others : List Entry} (hfirst : Recut entries between)
      (hsecond : Recut between others) : Recut entries others

namespace Recut

variable {entries others : List Entry}

theorem forall_mem_iff (h : Recut entries others) {holds : Entry → Prop}
    (hcut : ∀ entry size, entry.CutsAt size →
      (holds entry ↔ holds (entry.lower size) ∧ holds (entry.upper size))) :
    (∀ entry ∈ others, holds entry) ↔ ∀ entry ∈ entries, holds entry := by
  induction h with
  | reorder hperm => simp only [hperm.mem_iff]
  | cut front back hsize =>
    simp only [List.forall_mem_append, List.forall_mem_cons]
    rw [hcut _ _ hsize, and_assoc]
  | trans _ _ hfirst hsecond => exact hsecond.trans hfirst

theorem sum_map (h : Recut entries others) {amount : Entry → Nat}
    (hcut : ∀ entry size, entry.CutsAt size →
      amount entry = amount (entry.lower size) + amount (entry.upper size)) :
    (others.map amount).sum = (entries.map amount).sum := by
  induction h with
  | reorder hperm => exact (hperm.map amount).sum_nat.symm
  | cut front back hsize =>
    simp only [List.map_append, List.map_cons, List.sum_append, List.sum_cons]
    rw [hcut _ _ hsize]
    omega
  | trans _ _ hfirst hsecond => exact hsecond.trans hfirst

theorem eq_nil_iff (h : Recut entries others) : others = [] ↔ entries = [] := by
  rw [List.eq_nil_iff_forall_not_mem, List.eq_nil_iff_forall_not_mem]
  exact h.forall_mem_iff fun _ _ _ => (and_self_iff).symm

end Recut

/-! ## The sizes -/

/-- Numbers with the same upper bounds have the same greatest one. -/
theorem max_eq_of_bounds {ends others : List Nat}
    (h : ∀ bound, (∀ last ∈ others, last ≤ bound) ↔ ∀ last ∈ ends, last ≤ bound) :
    others.max?.getD 0 = ends.max?.getD 0 := by
  apply Nat.le_antisymm
  · rw [getD_max?_le_iff, h]
    exact fun last hlast => List.le_max?_getD_of_mem hlast
  · rw [getD_max?_le_iff, ← h]
    exact fun last hlast => List.le_max?_getD_of_mem hlast

/-- The low end of a range of RAM stays at or below a bound. -/
def Entry.LowEndBelow (bound : Nat) (entry : Entry) : Prop :=
  entry.isRam = true → entry.base.toNat < 2 ^ 32 → min entry.limit.toNat (2 ^ 32) ≤ bound

/-- A part that starts at or above 4 GiB does not count, and then the other part reaches
up to 4 GiB. -/
theorem Entry.lowEndBelow_iff {entry : Entry} {size : UInt64} (h : entry.CutsAt size)
    (bound : Nat) :
    entry.LowEndBelow bound ↔
      (entry.lower size).LowEndBelow bound ∧ (entry.upper size).LowEndBelow bound := by
  have hsize := h.toNat_bounds
  have hlower := h.toNat_limit_lower
  have hupper := h.toNat_limit_upper
  have hlimit := h.toNat_limit
  have hbase := h.toNat_base_upper
  simp only [LowEndBelow, isRam_lower, isRam_upper, base_lower, hlower, hupper, hlimit, hbase]
  rw [← imp_and]
  refine imp_congr_right fun _ => ?_
  omega

theorem forall_lowEnd_iff (entries : List Entry) (bound : Nat) :
    (∀ last ∈ ((ram entries).filter fun entry => entry.base < fourGiB).map fun entry =>
        min entry.limit.toNat (2 ^ 32), last ≤ bound) ↔
      ∀ entry ∈ entries, entry.LowEndBelow bound := by
  have hlow : ∀ entry : Entry, entry.base < fourGiB ↔ entry.base.toNat < 2 ^ 32 :=
    fun entry => UInt64.lt_iff_toNat_lt
  simp only [List.forall_mem_map, ram, List.mem_filter, decide_eq_true_iff, hlow, and_imp,
    Entry.LowEndBelow]

/-- The number of bytes of RAM at or above 4 GiB in a range. -/
def Entry.highRam (entry : Entry) : Nat :=
  if entry.isRam then entry.highBytes else 0

theorem highTotal_eq_sum (entries : List Entry) :
    highTotal entries = (entries.map Entry.highRam).sum := by
  rw [highTotal, ram]
  induction entries with
  | nil => rfl
  | cons entry rest ih =>
    rw [List.map_cons, List.sum_cons, Entry.highRam, ← ih]
    cases hram : entry.isRam <;> simp [hram]

namespace Recut

variable {entries others : List Entry}

theorem lowMemorySize_eq (h : Recut entries others) :
    lowMemorySize others = lowMemorySize entries := by
  apply UInt64.toNat_inj.mp
  rw [toNat_lowMemorySize, toNat_lowMemorySize]
  apply max_eq_of_bounds
  intro bound
  rw [forall_lowEnd_iff, forall_lowEnd_iff]
  exact h.forall_mem_iff fun _ _ hcut => Entry.lowEndBelow_iff hcut bound

theorem max_limit_eq (h : Recut entries others) :
    (others.map fun entry => entry.limit.toNat).max?.getD 0 =
      (entries.map fun entry => entry.limit.toNat).max?.getD 0 := by
  apply max_eq_of_bounds
  intro bound
  rw [List.forall_mem_map, List.forall_mem_map]
  apply h.forall_mem_iff
  intro entry size hcut
  have hsize := hcut.toNat_bounds
  rw [hcut.toNat_limit_lower, hcut.toNat_limit_upper, hcut.toNat_limit]
  omega

theorem firstNonAddress_eq (h : Recut entries others) :
    firstNonAddress others = firstNonAddress entries := by
  by_cases hempty : entries = []
  · rw [hempty, h.eq_nil_iff.mpr hempty]
  · obtain ⟨top, htop, hanswer⟩ := firstNonAddress_of_ne_nil hempty
    obtain ⟨other, hother, hotherAnswer⟩ := firstNonAddress_of_ne_nil (mt h.eq_nil_iff.mp hempty)
    have hsame : other = top := UInt64.toNat_inj.mp (by rw [hother, htop, h.max_limit_eq])
    rw [hanswer, hotherAnswer, hsame]

theorem highTotal_eq (h : Recut entries others) : highTotal others = highTotal entries := by
  rw [highTotal_eq_sum, highTotal_eq_sum]
  apply h.sum_map
  intro entry size hcut
  rw [Entry.highRam, Entry.highRam, Entry.highRam, Entry.isRam_lower, Entry.isRam_upper,
    hcut.highBytes_eq]
  split <;> rfl

theorem highMemorySize_eq (h : Recut entries others) :
    highMemorySize others = highMemorySize entries := by
  rw [E820.highMemorySize_eq, E820.highMemorySize_eq, h.highTotal_eq]

end Recut

/-- The sizes of a map depend neither on the order of its ranges nor on how they are cut.
The exact amount of high RAM is the same, and so is the answer of the computation, which
stops the firmware for one map exactly when it does for the other.  A build that does not
stop states the same total for both. -/
theorem sizes_of_recut {entries others : List Entry} (h : Recut entries others) :
    firstNonAddress others = firstNonAddress entries ∧
    lowMemorySize others = lowMemorySize entries ∧
    highTotal others = highTotal entries ∧
    highMemorySize others = highMemorySize entries ∧
    wrappedTotal others = wrappedTotal entries := by
  have htotal := h.highTotal_eq
  refine ⟨h.firstNonAddress_eq, h.lowMemorySize_eq, htotal, h.highMemorySize_eq, ?_⟩
  apply UInt64.toNat_inj.mp
  rw [toNat_wrappedTotal, toNat_wrappedTotal, htotal]

/-- RAM on both sides of 4 GiB, and RAM that overlaps it. -/
def overlappingEntries : List Entry :=
  [⟨0xFFFFF000, 0x3000, 1⟩, ⟨0xFFFFE000, 0x8000, 1⟩, ⟨0x4000000000, 0x1000, 2⟩]

/-- The same memory, with the first range cut at 4 GiB and the second one below it. -/
def recutEntries : List Entry :=
  [⟨0x4000000000, 0x1000, 2⟩, ⟨0xFFFFF000, 0x1000, 1⟩, ⟨0x100000000, 0x2000, 1⟩,
    ⟨0xFFFFE000, 0x800, 1⟩, ⟨0xFFFFE800, 0x7800, 1⟩]

theorem sizes_of_recut_overlapping :
    Recut overlappingEntries recutEntries ∧
      firstNonAddress recutEntries = .ok 0x4000001000 ∧
      lowMemorySize recutEntries = 0x100000000 ∧
      highMemorySize recutEntries = .ok 0x8000 := by
  have hfirst : Entry.CutsAt ⟨0xFFFFF000, 0x3000, 1⟩ 0x1000 :=
    ⟨by decide, by decide, by decide⟩
  have hsecond : Entry.CutsAt ⟨0xFFFFE000, 0x8000, 1⟩ 0x800 :=
    ⟨by decide, by decide, by decide⟩
  have hrecut : Recut overlappingEntries recutEntries :=
    .trans (.cut [] _ hfirst) (.trans (.cut [_, _] _ hsecond) (.reorder (by decide)))
  obtain ⟨hend, hlow, -, hhigh, -⟩ := sizes_of_recut hrecut
  exact ⟨hrecut, hend.trans (by decide), hlow.trans (by decide), hhigh.trans (by decide)⟩

end GuestFirmware.E820
