import GuestFirmware.Memory
import Mathlib.Algebra.Group.Nat.Defs
import Mathlib.Data.List.Basic

/-!
# What a search on 16-byte boundaries finds

The search visits the addresses `start`, `start + 16`, … below its end.  `OnGrid`
says which these are, as numbers: an address that would pass the last one is not
among them, so the search ends also in front of the last address there is.

`firstAligned_eq_some_iff` and `firstAligned_eq_none_iff` say that the lowest
address on the grid that passes the test is found, and that nothing is found
when there is none.

`Scan` is the course of a search as a loop without a bound.  `scan_firstAligned`
says that the loop comes to an end, and how many addresses it tests at most.
-/

namespace GuestFirmware.GuestMemory

/-- An address that a search from `start` to `stop` visits. -/
def OnGrid (start stop address : UInt64) : Prop :=
  ∃ index, address.toNat = start.toNat + 16 * index ∧ address < stop

/-- The address at a number of steps from the start. -/
def gridAddress (start : UInt64) (index : Nat) : UInt64 :=
  start + 16 * UInt64.ofNat index

theorem gridAddress_zero (start : UInt64) : gridAddress start 0 = start := by
  simp [gridAddress]

theorem gridAddress_succ (start : UInt64) (index : Nat) :
    gridAddress start (index + 1) = gridAddress (start + 16) index := by
  rw [gridAddress, gridAddress, UInt64.ofNat_add, UInt64.mul_add, UInt64.add_assoc,
    UInt64.add_comm (16 * _)]
  rfl

theorem toNat_gridAddress {start : UInt64} {index : Nat}
    (h : start.toNat + 16 * index < UInt64.size) :
    (gridAddress start index).toNat = start.toNat + 16 * index := by
  have hsize : UInt64.size = 2 ^ 64 := rfl
  rw [gridAddress, UInt64.toNat_add, UInt64.toNat_mul, UInt64.toNat_ofNat']
  simp only [UInt64.reduceToNat]
  omega

/-- A search over some steps is a search for the number of steps. -/
theorem firstOf_eq_find? (test : UInt64 → Bool) (start : UInt64) (count : Nat) :
    firstOf test start count =
      ((List.range count).find? fun index => test (gridAddress start index)).map
        (gridAddress start) := by
  induction count generalizing start with
  | zero => rfl
  | succ count ih =>
    rw [firstOf, ih, List.range_succ_eq_map, List.find?_cons, gridAddress_zero]
    cases test start with
    | true => simp [gridAddress_zero]
    | false =>
      rw [List.find?_map, Option.map_map]
      simp only [Function.comp_def, gridAddress_succ]
      rfl

/-! ## The steps of a search -/

/-- The number of addresses that a search visits. -/
def gridSize (start stop : UInt64) : Nat :=
  (stop.toNat - start.toNat + 15) / 16

variable {test : UInt64 → Bool} {start stop address : UInt64}

theorem toNat_gridAddress_of_lt {index : Nat} (h : index < gridSize start stop) :
    (gridAddress start index).toNat = start.toNat + 16 * index ∧
      start.toNat + 16 * index < stop.toNat := by
  have hstop := stop.toNat_lt
  have hsize : UInt64.size = 2 ^ 64 := rfl
  have hbelow : start.toNat + 16 * index < stop.toNat := by
    rw [gridSize] at h
    omega
  exact ⟨toNat_gridAddress (by omega), hbelow⟩

/-- The addresses on the grid are those that are visited. -/
theorem onGrid_iff :
    OnGrid start stop address ↔
      ∃ index, index < gridSize start stop ∧ address = gridAddress start index := by
  constructor
  · rintro ⟨index, haddress, hbelow⟩
    have hlt := UInt64.lt_iff_toNat_lt.1 hbelow
    have hindex : index < gridSize start stop := by
      rw [gridSize]
      omega
    refine ⟨index, hindex, UInt64.toNat_inj.1 ?_⟩
    rw [haddress, (toNat_gridAddress_of_lt hindex).1]
  · rintro ⟨index, hindex, rfl⟩
    obtain ⟨haddress, hbelow⟩ := toNat_gridAddress_of_lt hindex
    exact ⟨index, haddress, UInt64.lt_iff_toNat_lt.2 (haddress ▸ hbelow)⟩

/-- More steps lead to a higher address. -/
theorem gridAddress_lt_iff {first second : Nat} (hfirst : first < gridSize start stop)
    (hsecond : second < gridSize start stop) :
    gridAddress start first < gridAddress start second ↔ first < second := by
  rw [UInt64.lt_iff_toNat_lt, (toNat_gridAddress_of_lt hfirst).1,
    (toNat_gridAddress_of_lt hsecond).1]
  omega

theorem firstAligned_eq_none_iff :
    firstAligned test start stop = none ↔
      ∀ address, OnGrid start stop address → test address = false := by
  rw [firstAligned, firstOf_eq_find?, Option.map_eq_none_iff, List.find?_range_eq_none]
  constructor
  · intro h address haddress
    obtain ⟨index, hindex, rfl⟩ := onGrid_iff.1 haddress
    simpa using h index hindex
  · intro h index hindex
    simpa using h _ (onGrid_iff.2 ⟨index, hindex, rfl⟩)

theorem firstAligned_eq_some_iff :
    firstAligned test start stop = some address ↔
      OnGrid start stop address ∧ test address = true ∧
        ∀ earlier, OnGrid start stop earlier → earlier < address → test earlier = false := by
  rw [firstAligned, firstOf_eq_find?, Option.map_eq_some_iff]
  constructor
  · rintro ⟨index, hfind, rfl⟩
    obtain ⟨htest, hindex, hearlier⟩ := List.find?_range_eq_some.1 hfind
    have hindex : index < gridSize start stop := List.mem_range.1 hindex
    refine ⟨onGrid_iff.2 ⟨index, hindex, rfl⟩, htest, ?_⟩
    intro earlier hgrid hlt
    obtain ⟨step, hstep, rfl⟩ := onGrid_iff.1 hgrid
    simpa using hearlier step ((gridAddress_lt_iff hstep hindex).1 hlt)
  · rintro ⟨hgrid, htest, hearlier⟩
    obtain ⟨index, hindex, rfl⟩ := onGrid_iff.1 hgrid
    refine ⟨index, List.find?_range_eq_some.2 ⟨htest, List.mem_range.2 hindex, ?_⟩, rfl⟩
    intro step hstep
    have hbelow : step < gridSize start stop := Nat.lt_trans hstep hindex
    have hfails := hearlier _ (onGrid_iff.2 ⟨step, hbelow, rfl⟩)
      ((gridAddress_lt_iff hbelow hindex).2 hstep)
    simp [hfails]

/-! ## The course of a search -/

/-- A loop that tests an address and goes on by 16 bytes.  It stops when it finds
something, at the end of the range, and when the next address would pass the
last one there is.  The number counts the addresses that were tested. -/
inductive Scan (passes : UInt64 → Prop) (stop : UInt64) : UInt64 → Option UInt64 → Nat → Prop
  | ended {address : UInt64} : stop ≤ address → Scan passes stop address none 0
  | found {address : UInt64} : address < stop → passes address →
      Scan passes stop address (some address) 1
  | last {address : UInt64} : address < stop → ¬ passes address →
      UInt64.size ≤ address.toNat + 16 → Scan passes stop address none 1
  | next {address : UInt64} {result : Option UInt64} {tested : Nat} : address < stop →
      ¬ passes address → address.toNat + 16 < UInt64.size →
      Scan passes stop (address + 16) result tested →
      Scan passes stop address result (tested + 1)

theorem gridSize_le (start stop : UInt64) : gridSize start stop ≤ 2 ^ 60 := by
  have hstop := stop.toNat_lt
  rw [gridSize]
  omega

/-- The loop ends with what the search answers. -/
theorem scan_firstOf {passes : UInt64 → Prop}
    (htest : ∀ address, test address = true ↔ passes address) (start : UInt64) {count : Nat}
    (hcount : count = gridSize start stop) :
    ∃ tested, tested ≤ count ∧ Scan passes stop start (firstOf test start count) tested := by
  have hsize : UInt64.size = 2 ^ 64 := rfl
  have hstart := start.toNat_lt
  have hstop := stop.toNat_lt
  induction count generalizing start with
  | zero =>
    rw [gridSize] at hcount
    exact ⟨0, Nat.le_refl 0, .ended (UInt64.le_iff_toNat_le.2 (by omega))⟩
  | succ count ih =>
    rw [gridSize] at hcount
    have hinside : start < stop := UInt64.lt_iff_toNat_lt.2 (by omega)
    rw [firstOf]
    by_cases hpasses : test start = true
    · rw [if_pos hpasses]
      exact ⟨1, by omega, .found hinside ((htest start).1 hpasses)⟩
    · rw [if_neg hpasses]
      have hfails : ¬ passes start := fun h => hpasses ((htest start).2 h)
      by_cases hlast : UInt64.size ≤ start.toNat + 16
      · -- There is no address behind this one, so no step is left.
        obtain rfl : count = 0 := by omega
        exact ⟨1, by omega, .last hinside hfails hlast⟩
      · have hnext : (start + 16).toNat = start.toNat + 16 := by
          rw [UInt64.toNat_add]
          exact Nat.mod_eq_of_lt (by simpa using hlast)
        obtain ⟨tested, hle, hscan⟩ := ih (start + 16) (by rw [gridSize, hnext]; omega)
          (start + 16).toNat_lt
        exact ⟨tested + 1, by omega, .next hinside hfails (Nat.lt_of_not_le hlast) hscan⟩

theorem scan_firstAligned {passes : UInt64 → Prop}
    (htest : ∀ address, test address = true ↔ passes address) (start stop : UInt64) :
    ∃ tested, tested ≤ 2 ^ 60 ∧ Scan passes stop start (firstAligned test start stop) tested := by
  obtain ⟨tested, hle, hscan⟩ := scan_firstOf htest start rfl
  exact ⟨tested, Nat.le_trans hle (gridSize_le start stop), hscan⟩

end GuestFirmware.GuestMemory
