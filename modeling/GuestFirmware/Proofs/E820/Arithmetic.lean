import GuestFirmware.E820.Summary
import GuestFirmware.Proofs.E820.Format
import Mathlib.Algebra.GroupWithZero.Nat
import Mathlib.Data.List.Basic

/-!
# The arithmetic of the summary

The sizes of a map are computed in machine words.  This module says which numbers
they are, and when the words are wide enough.

* The end of a range stops at the last word (`Entry.toNat_limit`), and the greatest
  of some addresses is the greatest of their numbers (`map_toNat_greatest`).
  `toNat_lowMemorySize` and `firstNonAddress_of_ne_nil` follow from these.
* The amount of high RAM is a running total of checked sums and differences.
  `highTotal` is its exact value, `highPart_eq_ok_iff` says that no difference stops
  the firmware, and `foldlM_addHighPart` reduces the checks of all sums to one, that of
  the exact total.
* `wrappedTotal` is the total of a build without these checks.

Each end and each difference is a word, whatever the entries are.  The total is not:
nothing keeps RAM ranges from overlapping, and two of them can hold more bytes than
a word counts.  `summarize_inRange_iff` is the exact condition.
-/

namespace GuestFirmware.E820

open Entry (fourGiB)

/-! ## Ends -/

theorem Entry.toNat_limit (entry : Entry) :
    entry.limit.toNat = min (entry.base.toNat + entry.length.toNat) (2 ^ 64 - 1) :=
  toNat_saturatingAdd entry.base entry.length.toNat

theorem Entry.base_le_limit (entry : Entry) : entry.base ≤ entry.limit := by
  rw [UInt64.le_iff_toNat_le, entry.toNat_limit]
  have hbase := entry.base.toNat_lt
  omega

theorem foldl_greatest (best : UInt64) (addresses : List UInt64) :
    addresses.foldl (fun best address => some (max (best.getD 0) address)) (some best) =
      some (addresses.foldl max best) := by
  induction addresses generalizing best with
  | nil => rfl
  | cons address rest ih => exact ih (max best address)

theorem toNat_foldl_max (best : UInt64) (addresses : List UInt64) :
    (addresses.foldl max best).toNat = (addresses.map UInt64.toNat).foldl max best.toNat := by
  induction addresses generalizing best with
  | nil => rfl
  | cons address rest ih =>
    rw [List.foldl_cons, ih, UInt64.toNat_max]
    rfl

/-- The greatest address is the one with the greatest number. -/
theorem map_toNat_greatest (addresses : List UInt64) :
    (greatest addresses).map UInt64.toNat = (addresses.map UInt64.toNat).max? := by
  cases addresses with
  | nil => rfl
  | cons address rest =>
    have hfirst : max ((none : Option UInt64).getD 0) address = address := by
      apply UInt64.toNat_inj.mp
      rw [UInt64.toNat_max]
      exact Nat.zero_max _
    rw [greatest, List.foldl_cons, hfirst, foldl_greatest, Option.map_some, toNat_foldl_max]
    rfl

theorem toNat_getD_greatest (addresses : List UInt64) :
    ((greatest addresses).getD 0).toNat = (addresses.map UInt64.toNat).max?.getD 0 := by
  rw [← map_toNat_greatest]
  cases greatest addresses <;> rfl

/-- The greatest of some numbers is their least upper bound. -/
theorem getD_max?_le_iff (ends : List Nat) (bound : Nat) :
    ends.max?.getD 0 ≤ bound ↔ ∀ last ∈ ends, last ≤ bound := by
  constructor
  · intro h last hlast
    exact Nat.le_trans (List.le_max?_getD_of_mem hlast) h
  · intro h
    cases hmax : ends.max? with
    | none => exact Nat.zero_le bound
    | some last => exact h last (List.max?_mem hmax)

theorem toNat_lowMemorySize (entries : List Entry) :
    (lowMemorySize entries).toNat =
      (((ram entries).filter fun entry => entry.base < fourGiB).map fun entry =>
        min entry.limit.toNat (2 ^ 32)).max?.getD 0 := by
  rw [lowMemorySize, toNat_getD_greatest, List.map_map]
  congr 2
  apply List.map_congr_left
  intro entry _
  exact UInt64.toNat_min entry.limit fourGiB

/-- A map that has entries ends where the highest of them ends. -/
theorem firstNonAddress_of_ne_nil {entries : List Entry} (h : entries ≠ []) :
    ∃ top : UInt64, top.toNat = (entries.map fun entry => entry.limit.toNat).max?.getD 0 ∧
      firstNonAddress entries = if 2 ^ 32 ≤ top.toNat then .ok top else .error .notFound := by
  have htop := toNat_getD_greatest (entries.map Entry.limit)
  rw [List.map_map] at htop
  rw [firstNonAddress]
  cases hgreatest : greatest (entries.map Entry.limit) with
  | none =>
    have hempty := map_toNat_greatest (entries.map Entry.limit)
    rw [hgreatest, Option.map_none, eq_comm, List.max?_eq_none_iff] at hempty
    simp only [List.map_eq_nil_iff] at hempty
    exact absurd hempty h
  | some top =>
    rw [hgreatest] at htop
    refine ⟨top, htop, ?_⟩
    dsimp only
    simp only [UInt64.le_iff_toNat_le]
    rfl

/-! ## The amount of high RAM -/

/-- The number of bytes of a range at or above 4 GiB. -/
def Entry.highBytes (entry : Entry) : Nat :=
  entry.limit.toNat - max entry.base.toNat (2 ^ 32)

/-- The exact sum of the bytes of RAM ranges at or above 4 GiB. -/
def highTotal (entries : List Entry) : Nat :=
  ((ram entries).map Entry.highBytes).sum

/-- The difference of a range that ends at 4 GiB or above is a word. -/
theorem highPart_of_high {entry : Entry} (h : fourGiB ≤ entry.limit) :
    ∃ part, highPart entry = .ok part ∧ part.toNat = entry.highBytes := by
  have hbase := UInt64.le_iff_toNat_le.mp entry.base_le_limit
  have hhigh := UInt64.le_iff_toNat_le.mp h
  have hbelow : max entry.base fourGiB ≤ entry.limit := by
    rw [UInt64.le_iff_toNat_le, UInt64.toNat_max]
    omega
  obtain ⟨part, hpart, hvalue⟩ := checkedSub_of_le hbelow
  refine ⟨part, hpart, ?_⟩
  rw [hvalue, UInt64.toNat_max]
  rfl

theorem highPart_eq_ok_iff (entry : Entry) :
    (∃ part, highPart entry = .ok part) ↔ fourGiB ≤ entry.limit := by
  constructor
  · rintro ⟨part, hpart⟩
    by_contra hlow
    have hlt : entry.limit < max entry.base fourGiB := by
      have hlimit := UInt64.lt_iff_toNat_lt.mp (UInt64.not_le.mp hlow)
      rw [UInt64.lt_iff_toNat_lt, UInt64.toNat_max]
      omega
    rw [highPart, checkedSub_of_lt hlt] at hpart
    cases hpart
  · intro h
    obtain ⟨part, hpart, -⟩ := highPart_of_high h
    exact ⟨part, hpart⟩

/-- A range that ends at 4 GiB or below has no part above. -/
theorem highBytes_of_low {entry : Entry} (h : ¬ fourGiB < entry.limit) : entry.highBytes = 0 := by
  have hlow : entry.limit.toNat ≤ 2 ^ 32 :=
    Nat.not_lt.mp fun hhigh => h (UInt64.lt_iff_toNat_lt.mpr hhigh)
  rw [Entry.highBytes]
  omega

/-- The ranges that are left out of the total add nothing to it. -/
theorem sum_highBytes_filter (entries : List Entry) :
    ((entries.filter fun entry => fourGiB < entry.limit).map Entry.highBytes).sum =
      (entries.map Entry.highBytes).sum := by
  induction entries with
  | nil => rfl
  | cons entry rest ih =>
    by_cases hhigh : fourGiB < entry.limit
    · rw [List.filter_cons_of_pos (by simpa using hhigh), List.map_cons, List.sum_cons, ih,
        List.map_cons, List.sum_cons]
    · rw [List.filter_cons_of_neg (by simpa using hhigh), ih, List.map_cons, List.sum_cons,
        highBytes_of_low hhigh, Nat.zero_add]

/-- The RAM ranges of the total end above 4 GiB. -/
theorem high_of_mem_filter {entries : List Entry} :
    ∀ entry ∈ entries.filter fun entry => fourGiB < entry.limit, fourGiB ≤ entry.limit := by
  intro entry hentry
  have hhigh := (List.mem_filter.mp hentry).2
  exact UInt64.le_of_lt (by simpa using hhigh)

/-- One step of the running total stops the firmware exactly when its exact sum is no
word. -/
theorem addHighPart_eq (total : UInt64) {entry : Entry} (h : fourGiB ≤ entry.limit) :
    (total.toNat + entry.highBytes < 2 ^ 64 ∧
        ∃ sum, addHighPart total entry = .ok sum ∧ sum.toNat = total.toNat + entry.highBytes) ∨
      2 ^ 64 ≤ total.toNat + entry.highBytes ∧ addHighPart total entry = .error .add := by
  obtain ⟨part, hpart, hvalue⟩ := highPart_of_high h
  have hstep : addHighPart total entry = checkedAdd total part := by
    rw [addHighPart, hpart]
    rfl
  rw [hstep, ← hvalue]
  rcases Nat.lt_or_ge (total.toNat + part.toNat) (2 ^ 64) with hword | hlarge
  · exact .inl ⟨hword, checkedAdd_of_lt hword⟩
  · exact .inr ⟨hlarge, checkedAdd_of_le hlarge⟩

/-- A chain of checked sums stops the firmware exactly when the exact sum is no word. -/
theorem foldlM_addHighPart {entries : List Entry}
    (h : ∀ entry ∈ entries, fourGiB ≤ entry.limit) (total : UInt64) :
    entries.foldlM addHighPart total =
      if total.toNat + (entries.map Entry.highBytes).sum < 2 ^ 64 then
        .ok (.ofNat (total.toNat + (entries.map Entry.highBytes).sum))
      else .error .add := by
  induction entries generalizing total with
  | nil =>
    rw [List.map_nil, List.sum_nil, Nat.add_zero, if_pos total.toNat_lt, UInt64.ofNat_toNat]
    rfl
  | cons entry rest ih =>
    obtain ⟨hentry, hrest⟩ := List.forall_mem_cons.mp h
    rw [List.foldlM_cons, List.map_cons, List.sum_cons, ← Nat.add_assoc]
    rcases addHighPart_eq total hentry with ⟨-, sum, hsum, hvalue⟩ | ⟨hlarge, hstop⟩
    · rw [hsum, ← hvalue]
      exact ih hrest sum
    · rw [hstop, if_neg (by omega)]
      rfl

/-- The amount of high RAM is its exact value, if that is a word. -/
theorem highMemorySize_eq (entries : List Entry) :
    highMemorySize entries =
      if highTotal entries < 2 ^ 64 then .ok (.ofNat (highTotal entries)) else .error .add := by
  rw [highMemorySize, foldlM_addHighPart high_of_mem_filter, sum_highBytes_filter, highTotal]
  simp only [UInt64.toNat_zero, Nat.zero_add]

theorem highMemorySize_of_lt {entries : List Entry} (h : highTotal entries < 2 ^ 64) :
    ∃ size, highMemorySize entries = .ok size ∧ size.toNat = highTotal entries := by
  refine ⟨_, by rw [highMemorySize_eq, if_pos h], ?_⟩
  rw [UInt64.toNat_ofNat', Nat.mod_eq_of_lt h]

theorem highMemorySize_of_le {entries : List Entry} (h : 2 ^ 64 ≤ highTotal entries) :
    highMemorySize entries = .error .add := by
  rw [highMemorySize_eq, if_neg (Nat.not_lt.mpr h)]

/-! ## The summary -/

theorem summarize_of_lt {entries : List Entry} (h : highTotal entries < 2 ^ 64) :
    ∃ summary, summarize entries = .ok summary := by
  obtain ⟨size, hsize, -⟩ := highMemorySize_of_lt h
  exact ⟨_, by rw [summarize, hsize]; rfl⟩

theorem summarize_of_le {entries : List Entry} (h : 2 ^ 64 ≤ highTotal entries) :
    summarize entries = .error .add := by
  rw [summarize, highMemorySize_of_le h]
  rfl

/-- A summary that is computed states the exact total. -/
theorem summary_of_ok {entries : List Entry} {summary : Summary}
    (h : summarize entries = .ok summary) :
    highTotal entries < 2 ^ 64 ∧ summary.highMemorySize.toNat = highTotal entries ∧
      summary.lowMemorySize = lowMemorySize entries ∧
      summary.firstNonAddress = (firstNonAddress entries).toOption ∧
      summary.aperture = (aperture entries).toOption := by
  rcases Nat.lt_or_ge (highTotal entries) (2 ^ 64) with hword | hlarge
  · obtain ⟨size, hsize, hvalue⟩ := highMemorySize_of_lt hword
    rw [summarize, hsize] at h
    cases h
    exact ⟨hword, hvalue, rfl, rfl, rfl⟩
  · rw [summarize_of_le hlarge] at h
    cases h

theorem summarize_eq_ok_iff (entries : List Entry) :
    (∃ summary, summarize entries = .ok summary) ↔ highTotal entries < 2 ^ 64 :=
  ⟨fun ⟨_, h⟩ => (summary_of_ok h).1, summarize_of_lt⟩

theorem summarize_eq_error_iff (entries : List Entry) (overflow : Overflow) :
    summarize entries = .error overflow ↔ overflow = .add ∧ 2 ^ 64 ≤ highTotal entries := by
  constructor
  · intro h
    rcases Nat.lt_or_ge (highTotal entries) (2 ^ 64) with hword | hlarge
    · obtain ⟨summary, hsummary⟩ := summarize_of_lt hword
      cases h.symm.trans hsummary
    · cases h.symm.trans (summarize_of_le hlarge)
      exact ⟨rfl, hlarge⟩
  · rintro ⟨rfl, hlarge⟩
    exact summarize_of_le hlarge

/-! ## Without the checks -/

/-- The running total in a build that does not stop: each sum drops what is no word. -/
def wrappedTotal (entries : List Entry) : UInt64 :=
  ((ram entries).filter fun entry => fourGiB < entry.limit).foldl
    (fun total entry => total + (entry.limit - max entry.base fourGiB)) 0

theorem toNat_foldl_wrapped {entries : List Entry} (h : ∀ entry ∈ entries, fourGiB ≤ entry.limit)
    (total : UInt64) :
    (entries.foldl
        (fun total entry => total + (entry.limit - max entry.base fourGiB)) total).toNat =
      (total.toNat + (entries.map Entry.highBytes).sum) % 2 ^ 64 := by
  induction entries generalizing total with
  | nil => exact (Nat.mod_eq_of_lt total.toNat_lt).symm
  | cons entry rest ih =>
    obtain ⟨hentry, hrest⟩ := List.forall_mem_cons.mp h
    obtain ⟨part, hpart, hvalue⟩ := highPart_of_high hentry
    have hsame : entry.limit - max entry.base fourGiB = part := by
      rw [highPart, checkedSub] at hpart
      split at hpart <;> cases hpart
      rfl
    rw [List.foldl_cons, ih hrest, hsame, UInt64.toNat_add, hvalue, List.map_cons, List.sum_cons,
      Nat.mod_add_mod, Nat.add_assoc]

theorem toNat_wrappedTotal (entries : List Entry) :
    (wrappedTotal entries).toNat = highTotal entries % 2 ^ 64 := by
  rw [wrappedTotal, toNat_foldl_wrapped high_of_mem_filter, sum_highBytes_filter, highTotal]
  exact congrArg (· % 2 ^ 64) (Nat.zero_add _)

/-! ## When the words are wide enough -/

/-- Ends never leave the words, for they stop at the last one.  The difference that is
taken of a range is a word exactly when the range ends at 4 GiB or above, and it is taken
of no other.  The summary is computed exactly when the exact total is a word, which it
then states, and otherwise the firmware stops at a sum.  A build that does not stop states
the total modulo the size of a word. -/
theorem summarize_inRange_iff (entries : List Entry) :
    (∀ entry : Entry,
      entry.limit.toNat = min (entry.base.toNat + entry.length.toNat) (2 ^ 64 - 1)) ∧
    (∀ entry, (∃ part, highPart entry = .ok part) ↔ fourGiB ≤ entry.limit) ∧
    ((∃ summary, summarize entries = .ok summary) ↔ highTotal entries < 2 ^ 64) ∧
    (∀ summary, summarize entries = .ok summary →
      summary.highMemorySize.toNat = highTotal entries) ∧
    (∀ overflow, summarize entries = .error overflow ↔
      overflow = .add ∧ 2 ^ 64 ≤ highTotal entries) ∧
    (wrappedTotal entries).toNat = highTotal entries % 2 ^ 64 := by
  refine ⟨Entry.toNat_limit, highPart_eq_ok_iff, summarize_eq_ok_iff entries, ?_,
    summarize_eq_error_iff entries, toNat_wrappedTotal entries⟩
  intro summary h
  exact (summary_of_ok h).2.1

/-- The same half of the address space above 4 GiB as RAM, twice. -/
def twiceTheSame : List Entry :=
  [⟨0x100000000, 0x8000000000000000, 1⟩, ⟨0x100000000, 0x8000000000000000, 1⟩]

/-- A map that is accepted, and at whose summary the firmware stops.  A build that does not
stop states that there is no high RAM at all. -/
theorem summarize_stops :
    decode (encode 0 twiceTheSame) = .ok twiceTheSame ∧ highTotal twiceTheSame = 2 ^ 64 ∧
      summarize twiceTheSame = .error .add ∧ wrappedTotal twiceTheSame = 0 := by
  have hdecode : decode (encode 0 twiceTheSame ++ []) = .ok twiceTheSame :=
    decode_encode_append (by decide) (by decide) 0 []
  have htotal : highTotal twiceTheSame = 2 ^ 64 := by decide
  refine ⟨by rwa [List.append_nil] at hdecode, htotal, ?_, by decide⟩
  exact summarize_of_le (Nat.le_of_eq htotal.symm)

end GuestFirmware.E820
