import GuestFirmware.E820.Publish
import GuestFirmware.Proofs.E820.Arithmetic
import GuestFirmware.Proofs.E820.ReadBack

/-!
# The summary and what was published

A map is gone through twice: once to announce its ranges, and once for its summary.
This module says that both times the same entries count.

`memoryRanges` and `ioRanges` are the ranges that the steps of publishing announce as
RAM and as device registers.  `memoryRanges_publish` and `ioRanges_publish` say that
these are the ranges of the RAM entries and of the high reserved entries, in their
order, whatever the cache control answers.  `summary_of_published` computes each part
of the summary from the announced ranges alone.
-/

namespace GuestFirmware.E820

open Entry (fourGiB)

/-! ## Announced ranges -/

/-- A range as it is announced. -/
structure Range where
  base : UInt64
  length : UInt64
  deriving DecidableEq, Repr

/-- The first address past a range, at most the last address there is. -/
def Range.limit (range : Range) : Nat :=
  min (range.base.toNat + range.length.toNat) (2 ^ 64 - 1)

/-- The range that a step announces as RAM. -/
def Step.memory : Step → Option Range
  | addMemory base length => some ⟨base, length⟩
  | _ => none

/-- The range that a step announces as device registers. -/
def Step.io : Step → Option Range
  | addIoMemory base length => some ⟨base, length⟩
  | _ => none

/-- The ranges that steps announce as RAM, in order. -/
def memoryRanges (steps : List Step) : List Range :=
  steps.filterMap Step.memory

/-- The ranges that steps announce as device registers, in order. -/
def ioRanges (steps : List Step) : List Range :=
  steps.filterMap Step.io

theorem memoryRanges_append (front back : List Step) :
    memoryRanges (front ++ back) = memoryRanges front ++ memoryRanges back :=
  List.filterMap_append

theorem ioRanges_append (front back : List Step) :
    ioRanges (front ++ back) = ioRanges front ++ ioRanges back :=
  List.filterMap_append

namespace Entry

/-- The range of an entry. -/
def range (entry : Entry) : Range :=
  ⟨entry.base, entry.length⟩

theorem toNat_limit_range (entry : Entry) : entry.limit.toNat = entry.range.limit :=
  entry.toNat_limit

end Entry

/-! ## Two passes over the entries -/

section Publish

variable {κ : Type} (caching : Caching κ)

theorem memoryRanges_publishEntry (supported : Bool) (entry : Entry) (state : κ) :
    memoryRanges (publishEntry caching supported entry state).2.1 =
      (if entry.isRam then some entry.range else none).toList := by
  rcases publishEntry_cases caching supported entry state with
    ⟨-, hr, h⟩ | ⟨-, hr, -, h⟩ | ⟨-, hr, -, h⟩ | ⟨-, hr, h⟩ <;> rw [h, hr] <;> rfl

theorem ioRanges_publishEntry (supported : Bool) (entry : Entry) (state : κ) :
    ioRanges (publishEntry caching supported entry state).2.1 =
      (if entry.isAperture then some entry.range else none).toList := by
  rcases publishEntry_cases caching supported entry state with
    ⟨ha, -, h⟩ | ⟨ha, -, -, h⟩ | ⟨ha, -, -, h⟩ | ⟨ha, -, h⟩ <;> rw [h, ha] <;> rfl

/-- The ranges of the entries that count. -/
theorem filterMap_range (counts : Entry → Bool) (entries : List Entry) :
    (entries.filterMap fun entry => if counts entry then some entry.range else none) =
      (entries.filter counts).map Entry.range := by
  rw [← List.filterMap_eq_map, List.filterMap_filter]
  rfl

/-- The RAM that is announced is the RAM of the map. -/
theorem memoryRanges_publish (entries : List Entry) (state : κ) :
    memoryRanges (publish caching entries state).2.1 = (ram entries).map Entry.range :=
  (filterMap_publishEntries caching (memoryRanges_publishEntry caching _) entries _).trans
    (filterMap_range _ entries)

/-- The device registers that are announced are the high reserved ranges. -/
theorem ioRanges_publish (entries : List Entry) (state : κ) :
    ioRanges (publish caching entries state).2.1 =
      (entries.filter Entry.isAperture).map Entry.range :=
  (filterMap_publishEntries caching (ioRanges_publishEntry caching _) entries _).trans
    (filterMap_range _ entries)

/-- The number that publishing an entry answers is that of the ranges it announces. -/
theorem count_publishEntry (supported : Bool) (entry : Entry) (state : κ) :
    (publishEntry caching supported entry state).1 =
      (memoryRanges (publishEntry caching supported entry state).2.1).length +
        (ioRanges (publishEntry caching supported entry state).2.1).length := by
  rcases publishEntry_cases caching supported entry state with
    ⟨-, -, h⟩ | ⟨-, -, -, h⟩ | ⟨-, -, -, h⟩ | ⟨-, -, h⟩ <;> rw [h] <;> rfl

theorem count_publishEntries (supported : Bool) (entries : List Entry) (state : κ) :
    (publishEntries caching supported entries state).1 =
      (memoryRanges (publishEntries caching supported entries state).2.1).length +
        (ioRanges (publishEntries caching supported entries state).2.1).length := by
  induction entries generalizing state with
  | nil => rfl
  | cons entry rest ih =>
    rw [publishEntries]
    dsimp only
    rw [ih, count_publishEntry, memoryRanges_append, ioRanges_append, List.length_append,
      List.length_append]
    exact Nat.add_add_add_comm _ _ _ _

theorem count_publish (entries : List Entry) (state : κ) :
    (publish caching entries state).1 =
      (memoryRanges (publish caching entries state).2.1).length +
        (ioRanges (publish caching entries state).2.1).length :=
  count_publishEntries caching _ entries _

end Publish

/-! ## The summary from the announced ranges -/

theorem toOption_aperture (entries : List Entry) :
    (aperture entries).toOption =
      ((entries.filter Entry.isAperture).map Entry.range).head?.map
        fun range => ⟨range.base, range.length⟩ := by
  rw [List.head?_map, List.head?_filter, aperture]
  cases entries.find? Entry.isAperture <;> rfl

theorem toNat_lowMemorySize_range (entries : List Entry) :
    (lowMemorySize entries).toNat =
      ((((ram entries).map Entry.range).filter fun range => range.base < fourGiB).map fun range =>
        min range.limit (2 ^ 32)).max?.getD 0 := by
  rw [toNat_lowMemorySize, List.filter_map, List.map_map]
  congr 2
  exact List.map_congr_left fun entry _ => by
    rw [entry.toNat_limit_range]
    rfl

theorem highTotal_eq_range (entries : List Entry) :
    highTotal entries =
      (((ram entries).map Entry.range).map fun range =>
        range.limit - max range.base.toNat (2 ^ 32)).sum := by
  rw [highTotal, List.map_map]
  congr 1
  exact List.map_congr_left fun entry _ => by
    rw [Entry.highBytes, entry.toNat_limit_range]
    rfl

/-- A map with a range that ends at 4 GiB or above has an end of its own, at or above
the end of each of its ranges. -/
theorem firstNonAddress_of_high {entries : List Entry} {entry : Entry} (hentry : entry ∈ entries)
    (hhigh : 2 ^ 32 ≤ entry.limit.toNat) :
    ∃ top : UInt64, firstNonAddress entries = .ok top ∧
      ∀ other ∈ entries, other.limit.toNat ≤ top.toNat := by
  obtain ⟨top, htop, hanswer⟩ := firstNonAddress_of_ne_nil (List.ne_nil_of_mem hentry)
  have habove : ∀ other ∈ entries, other.limit.toNat ≤ top.toNat := by
    intro other hother
    have hmem : other.limit.toNat ∈ entries.map fun entry => entry.limit.toNat :=
      List.mem_map_of_mem hother
    rw [htop]
    exact List.le_max?_getD_of_mem hmem
  exact ⟨top, by rw [hanswer, if_pos (Nat.le_trans hhigh (habove entry hentry))], habove⟩

/-- An announced range is the range of an entry. -/
theorem exists_entry_of_announced {entries : List Entry} {range : Range}
    (h : range ∈ (ram entries).map Entry.range ++
      (entries.filter Entry.isAperture).map Entry.range) :
    ∃ entry ∈ entries, entry.range = range := by
  rcases List.mem_append.mp h with hmemory | hio
  · obtain ⟨entry, hentry, hrange⟩ := List.mem_map.mp hmemory
    exact ⟨entry, (List.mem_filter.mp hentry).1, hrange⟩
  · obtain ⟨entry, hentry, hrange⟩ := List.mem_map.mp hio
    exact ⟨entry, (List.mem_filter.mp hentry).1, hrange⟩

/-- Each part of the summary follows from what was announced.  There is a summary if what
the RAM ranges have at or above 4 GiB together is a word, and then it states this amount.
The aperture is the first window of device registers, and low RAM ends at the greatest low
end of the RAM ranges.  If a range ends at 4 GiB or above, the map has an end that no range
passes.  The number that publishing answers is the number of ranges. -/
theorem summary_of_published {κ : Type} (caching : Caching κ) (entries : List Entry) (state : κ) :
    let published := publish caching entries state
    let memory := memoryRanges published.2.1
    let io := ioRanges published.2.1
    let total := (memory.map fun range => range.limit - max range.base.toNat (2 ^ 32)).sum
    published.1 = memory.length + io.length ∧
    (total < 2 ^ 64 → ∃ summary, summarize entries = .ok summary) ∧
    ∀ summary, summarize entries = .ok summary →
      summary.aperture = io.head?.map (fun range => ⟨range.base, range.length⟩) ∧
      summary.lowMemorySize.toNat =
        ((memory.filter fun range => range.base < fourGiB).map fun range =>
          min range.limit (2 ^ 32)).max?.getD 0 ∧
      summary.highMemorySize.toNat = total ∧
      ((∃ range ∈ memory ++ io, 2 ^ 32 ≤ range.limit) →
        ∃ top, summary.firstNonAddress = some top ∧
          ∀ range ∈ memory ++ io, range.limit ≤ top.toNat) := by
  intro published memory io total
  have hmemory : memory = (ram entries).map Entry.range :=
    memoryRanges_publish caching entries state
  have hio : io = (entries.filter Entry.isAperture).map Entry.range :=
    ioRanges_publish caching entries state
  have hexact : highTotal entries = total := by
    rw [highTotal_eq_range, ← hmemory]
  refine ⟨count_publish caching entries state, ?_, ?_⟩
  · intro htotal
    exact summarize_of_lt (by rwa [hexact])
  · intro summary hsummary
    obtain ⟨-, hhigh, hlow, hfirst, haperture⟩ := summary_of_ok hsummary
    rw [haperture, hlow, hfirst, hmemory, hio]
    refine ⟨toOption_aperture entries, toNat_lowMemorySize_range entries, hhigh.trans hexact, ?_⟩
    rintro ⟨range, hannounced, hends⟩
    obtain ⟨entry, hentry, rfl⟩ := exists_entry_of_announced hannounced
    rw [← entry.toNat_limit_range] at hends
    obtain ⟨top, hanswer, habove⟩ := firstNonAddress_of_high hentry hends
    refine ⟨top, congrArg Except.toOption hanswer, ?_⟩
    intro other hother
    obtain ⟨entry, hentry, rfl⟩ := exists_entry_of_announced hother
    rw [← entry.toNat_limit_range]
    exact habove entry hentry

/-- High RAM, a low reserved range, low RAM, and an aperture that reaches past the last
address. -/
def mixedEntries : List Entry :=
  [⟨0x100000000, 0x1000, 1⟩, ⟨0xE0000000, 0x1000, 2⟩, ⟨0, 0xA0000, 1⟩,
    ⟨0xFFFFFFFFFFFFF000, 0x2000, 2⟩]

theorem summary_of_published_mixedEntries :
    let published := publish (Caching.listed true) mixedEntries [true]
    memoryRanges published.2.1 = [⟨0x100000000, 0x1000⟩, ⟨0, 0xA0000⟩] ∧
      ioRanges published.2.1 = [⟨0xFFFFFFFFFFFFF000, 0x2000⟩] ∧
      ∃ summary, summarize mixedEntries = .ok summary ∧
        summary.highMemorySize.toNat = 0x1000 ∧
        ∃ top, summary.firstNonAddress = some top ∧
          ∀ range ∈ memoryRanges published.2.1 ++ ioRanges published.2.1,
            range.limit ≤ top.toNat := by
  intro published
  have hmemory : memoryRanges published.2.1 = [⟨0x100000000, 0x1000⟩, ⟨0, 0xA0000⟩] := by decide
  have hio : ioRanges published.2.1 = [⟨0xFFFFFFFFFFFFF000, 0x2000⟩] := by decide
  obtain ⟨-, hok, hparts⟩ := summary_of_published (Caching.listed true) mixedEntries [true]
  obtain ⟨summary, hsummary⟩ := hok (by decide)
  obtain ⟨-, -, htotal, htop⟩ := hparts summary hsummary
  refine ⟨hmemory, hio, summary, hsummary, htotal.trans (by decide),
    htop ⟨⟨0x100000000, 0x1000⟩, ?_, by decide⟩⟩
  show _ ∈ memoryRanges published.2.1 ++ _
  rw [hmemory]
  exact List.mem_append_left _ List.mem_cons_self

end GuestFirmware.E820
