import GuestFirmware.E820.Publish
import GuestFirmware.Proofs.E820.Arithmetic
import GuestFirmware.Proofs.Handoff.Headers

/-!
# From the memory map to the hand-off list

The hypervisor's memory map reaches the next phase in five steps: it is read
from guest memory, decoded, filtered and announced entry by entry, taken by a
builder, and laid out as a hand-off list.  This module follows it through all of
them.

* `MapAt` says that a map lies at an address, byte by byte, and
  `ofMemory_eq_ok_iff` that exactly such maps are read.
* `publishEntry_cases` says what publishing an entry does, and
  `filterMap_publishEntries` carries what holds of the steps for single entries to
  those for a map.
* `Entry.announcement` is the descriptor that an entry calls for, and
  `resources_handOver_publish` says that a builder that is handed the steps takes
  these, whatever the cache control answers.
* `publishGuestMemory_of_mapAt` adds the answer, which is missing exactly when the
  firmware stops at the summary.

`publishGuestMemory_readBack` joins these with the round trip of the list.
-/

namespace GuestFirmware.E820

open Handoff LittleEndian

/-! ## The map in memory -/

/-- Entry `index` of the table in a buffer. -/
def entryAt (table : List UInt8) (index : Nat) : Entry where
  base := word64At table (8 + index * 20)
  length := word64At table (8 + index * 20 + 8)
  typeCode := word32At table (8 + index * 20 + 16)

/-- A map with the given entries lies at an address.  There is at least one. -/
def MapAt (memory : GuestMemory) (address : UInt64) (entries : List Entry) : Prop :=
  ∃ table, memory.read address (8 + entries.length * 20) = some table ∧
    table.take 3 = signature ∧ (word32At table 4).toNat = entries.length ∧ entries ≠ [] ∧
    entries = (List.range entries.length).map (entryAt table)

theorem decode_row (table : List UInt8) (index : Nat) :
    Entry.decode (slice (table.drop headerSize) (index * Entry.size) Entry.size) =
      entryAt table index := by
  have hfield : ∀ offset width, offset + width ≤ Entry.size →
      slice (slice (table.drop headerSize) (index * Entry.size) Entry.size) offset width =
        slice table (8 + index * 20 + offset) width := by
    intro offset width h
    rw [slice_slice h, slice_drop, ← Nat.add_assoc]
    rfl
  simp only [Entry.decode, entryAt, word64At, word32At]
  rw [hfield 0 8 (by decide), hfield 8 8 (by decide), hfield 16 4 (by decide)]
  rfl

theorem decode_eq_ok {table : List UInt8} {count : Nat} (hcount : entryCount table = .ok count)
    (hlength : table.length = 8 + count * 20) :
    decode table = .ok ((List.range count).map (entryAt table)) := by
  have hheader : ¬ table.length < headerSize := by
    rw [hlength, headerSize]
    omega
  have hbody : ¬ (table.drop headerSize).length < count * Entry.size := by
    rw [List.length_drop, hlength, headerSize, Entry.size]
    omega
  have hentries : (rows Entry.size count (table.drop headerSize)).map Entry.decode =
      (List.range count).map (entryAt table) := by
    rw [rows_eq_map_slice, List.map_map]
    exact List.map_congr_left fun index _ => decode_row table index
  rw [decode, if_neg hheader, entryCount_take, hcount]
  dsimp only
  rw [if_neg hbody, hentries]

theorem ofMemory_eq_ok_iff {memory : GuestMemory} {address : UInt64} {entries : List Entry} :
    ofMemory memory address = .ok entries ↔ MapAt memory address entries := by
  constructor
  · intro h
    unfold ofMemory at h
    split at h
    · cases h
    · next header hheader =>
      split at h
      · cases h
      · next count hcount =>
        split at h
        · cases h
        · next table htable =>
          have htake := memory.read_take htable (Nat.le_add_right headerSize _)
          rw [hheader] at htake
          rw [Option.some.inj htake, entryCount_take] at hcount
          rw [decode_eq_ok hcount (memory.length_of_read htable)] at h
          obtain ⟨hsignature, hstated, hzero⟩ := entryCount_eq_ok_iff.1 hcount
          cases h
          refine ⟨table, ?_, hsignature, ?_, ?_, ?_⟩
          · rw [List.length_map, List.length_range]
            exact htable
          · rw [List.length_map, List.length_range, hstated]
          · simpa using hzero
          · rw [List.length_map, List.length_range]
  · rintro ⟨table, hread, hsignature, hstated, hempty, hentries⟩
    have hzero : entries.length ≠ 0 := fun h => hempty (List.length_eq_zero_iff.1 h)
    have hcount := entryCount_eq_ok_iff.2 ⟨hsignature, hstated, hzero⟩
    have hheader := memory.read_take hread (Nat.le_add_right 8 _)
    have htable : memory.read address (headerSize + entries.length * Entry.size) = some table := hread
    rw [ofMemory, show headerSize = 8 from rfl, hheader]
    dsimp only
    rw [show table.take 8 = table.take headerSize from rfl, entryCount_take, hcount]
    dsimp only
    rw [show 8 = headerSize from rfl, htable]
    dsimp only
    rw [decode_eq_ok hcount (memory.length_of_read hread), ← hentries]

/-! ## What is announced -/

namespace Entry

theorem isRam_iff (entry : Entry) : entry.isRam = true ↔ entry.typeCode = 1 := by
  rw [isRam, beq_iff_eq, kind, Kind.ofCode]
  split_ifs with hcode <;> simp [hcode]

theorem isAperture_iff (entry : Entry) :
    entry.isAperture = true ↔ entry.typeCode = 2 ∧ UInt32.size ≤ entry.base.toNat := by
  have hkind : entry.kind = .reserved ↔ entry.typeCode = 2 := by
    rw [kind, Kind.ofCode]
    split_ifs with hmemory hreserved <;> simp [*]
  have hbase : fourGiB ≤ entry.base ↔ UInt32.size ≤ entry.base.toNat := UInt64.le_iff_toNat_le
  rw [isAperture, Bool.and_eq_true, decide_eq_true_iff, beq_iff_eq, hkind, hbase, and_comm]

/-- No entry is announced both ways. -/
theorem isRam_of_isAperture {entry : Entry} (h : entry.isAperture = true) :
    entry.isRam = false := by
  have hcode := (entry.isAperture_iff.mp h).1
  rw [Bool.eq_false_iff, Ne, entry.isRam_iff, hcode]
  decide

/-- The descriptor that an entry calls for: RAM for an entry of type 1, a window
of device registers for a high one of type 2, and none for any other. -/
def announcement (entry : Entry) : Option ResourceDescriptor :=
  if entry.typeCode = 1 then
    some ⟨systemMemory, systemMemoryAttributes, entry.base, entry.length⟩
  else if entry.typeCode = 2 ∧ UInt32.size ≤ entry.base.toNat then
    some ⟨mappedIo, mappedIoAttributes, entry.base, entry.length⟩
  else none

end Entry

variable {κ : Type}

/-- What publishing an entry does, in four cases. -/
theorem publishEntry_cases (caching : Caching κ) (supported : Bool) (entry : Entry) (state : κ) :
    -- An aperture is announced as device registers.
    entry.isAperture = true ∧ entry.isRam = false ∧
        publishEntry caching supported entry state =
          (1, [.addIoMemory entry.base entry.length], state) ∨
      -- RAM is announced, and made write-back cacheable only if that is supported.
      entry.isAperture = false ∧ entry.isRam = true ∧ supported = false ∧
        publishEntry caching supported entry state =
          (1, [.addMemory entry.base entry.length], state) ∨
      entry.isAperture = false ∧ entry.isRam = true ∧ supported = true ∧
        publishEntry caching supported entry state =
          (1, [.addMemory entry.base entry.length,
            .setWriteBack entry.base entry.length
              (caching.setWriteBack entry.base entry.length state).1],
            (caching.setWriteBack entry.base entry.length state).2) ∨
      -- Any other entry is passed over.
      entry.isAperture = false ∧ entry.isRam = false ∧
        publishEntry caching supported entry state = (0, [], state) := by
  rw [publishEntry]
  cases haperture : entry.isAperture with
  | true => exact .inl ⟨rfl, Entry.isRam_of_isAperture haperture, rfl⟩
  | false =>
    cases hram : entry.isRam with
    | false => exact .inr (.inr (.inr ⟨rfl, rfl, rfl⟩))
    | true =>
      cases supported with
      | false => exact .inr (.inl ⟨rfl, rfl, rfl, rfl⟩)
      | true => exact .inr (.inr (.inl ⟨rfl, rfl, rfl, rfl⟩))

/-- What is picked from the steps for single entries is picked from all of them. -/
theorem filterMap_publishEntries {α : Type} (caching : Caching κ) {supported : Bool}
    {select : Step → Option α} {part : Entry → Option α}
    (hentry : ∀ entry state,
      (publishEntry caching supported entry state).2.1.filterMap select = (part entry).toList)
    (entries : List Entry) (state : κ) :
    (publishEntries caching supported entries state).2.1.filterMap select =
      entries.filterMap part := by
  induction entries generalizing state with
  | nil => rfl
  | cons entry rest ih =>
    rw [publishEntries]
    dsimp only
    rw [List.filterMap_append, hentry, ih, List.filterMap_cons]
    cases part entry <;> rfl

/-! ## What the builder takes -/

theorem handOver_append (front back : List Step) (builder : Builder) :
    handOver (front ++ back) builder = handOver back (handOver front builder) :=
  List.foldl_append

theorem resources_handOver_publishEntry (caching : Caching κ) (supported : Bool) (entry : Entry)
    (state : κ) (builder : Builder) :
    (handOver (publishEntry caching supported entry state).2.1 builder).resources =
      builder.resources ++ entry.announcement.toList := by
  have hram := entry.isRam_iff
  have haperture := entry.isAperture_iff
  rw [Entry.announcement]
  simp only [← hram, ← haperture]
  rcases publishEntry_cases caching supported entry state with
    ⟨ha, hr, h⟩ | ⟨ha, hr, -, h⟩ | ⟨ha, hr, -, h⟩ | ⟨ha, hr, h⟩
  · rw [h, ha, hr]
    rfl
  · rw [h, hr]
    rfl
  · rw [h, hr]
    rfl
  · rw [h, ha, hr]
    exact (List.append_nil _).symm

theorem resources_handOver_publishEntries (caching : Caching κ) (supported : Bool)
    (entries : List Entry) (state : κ) (builder : Builder) :
    (handOver (publishEntries caching supported entries state).2.1 builder).resources =
      builder.resources ++ entries.filterMap Entry.announcement := by
  induction entries generalizing state builder with
  | nil => exact (List.append_nil _).symm
  | cons entry rest ih =>
    rw [publishEntries]
    dsimp only
    rw [handOver_append, ih, resources_handOver_publishEntry, List.append_assoc,
      List.filterMap_cons]
    cases entry.announcement <;> rfl

/-- A fresh builder takes the descriptors that the entries call for, and no others. -/
theorem resources_handOver_publish (caching : Caching κ) (entries : List Entry) (state : κ) :
    (handOver (publish caching entries state).2.1 .empty).resources =
      entries.filterMap Entry.announcement :=
  resources_handOver_publishEntries caching _ entries _ .empty

/-! ## End to end -/

/-- A map is published as a whole, whether or not the summary is computed after it. -/
theorem publishGuestMemory_of_mapAt {memory : GuestMemory} {entries : List Entry}
    (h : MapAt memory mapAddress entries) (caching : Caching κ) (state : κ) :
    publishGuestMemory memory caching state =
      ((summarize entries).map .ok, (publish caching entries state).2) := by
  rw [publishGuestMemory, ofMemory_eq_ok_iff.2 h]

/-- Without a map nothing is published. -/
theorem publishGuestMemory_of_not_mapAt {memory : GuestMemory}
    (h : ∀ entries, ¬ MapAt memory mapAddress entries) (caching : Caching κ) (state : κ) :
    ∃ failure, publishGuestMemory memory caching state = (.ok (.error failure), [], state) := by
  cases hmap : ofMemory memory mapAddress with
  | error failure => exact ⟨failure, by rw [publishGuestMemory, hmap]⟩
  | ok entries => exact absurd (ofMemory_eq_ok_iff.1 hmap) (h entries)

/-- For every memory and every cache control, either there is no map, and then the answer is
a failure, nothing is announced and the cache control is not called.  Or there is one.  Then
a fresh builder that takes the announced ranges makes a list that gives back exactly what the
entries call for, in their order, and that has 48 bytes for each descriptor and 8 more.  The
answer to this is a summary exactly when the exact amount of high RAM is a word.  Otherwise
the firmware stops after the last range was announced. -/
theorem publishGuestMemory_readBack {reader : List UInt8 → List Block}
    (hreader : FollowsHeaders reader) (memory : GuestMemory) (caching : Caching κ) (state : κ) :
    ((∀ entries, ¬ MapAt memory mapAddress entries) ∧
        ∃ failure, publishGuestMemory memory caching state = (.ok (.error failure), [], state)) ∨
      ∃ entries answer steps after,
        MapAt memory mapAddress entries ∧
        publishGuestMemory memory caching state = (answer, steps, after) ∧
        ((∃ summary, answer = .ok (.ok summary)) ↔ highTotal entries < 2 ^ 64) ∧
        (answer = .error .add ↔ 2 ^ 64 ≤ highTotal entries) ∧
        let image := (handOver steps .empty).finish
        let called := entries.filterMap Entry.announcement
        resourceDescriptors (reader image.bytes) = called ∧
        image.bytes.length = 48 * called.length + 8 ∧ image.size = image.bytes.length := by
  by_cases hmap : ∃ entries, MapAt memory mapAddress entries
  · obtain ⟨entries, hentries⟩ := hmap
    refine .inr ⟨entries, (summarize entries).map .ok, (publish caching entries state).2.1,
      (publish caching entries state).2.2, hentries,
      publishGuestMemory_of_mapAt hentries caching state, ?_, ?_, ?_, ?_, ?_⟩
    · rw [← summarize_eq_ok_iff]
      cases summarize entries <;> simp [Except.map]
    · have hstops := (summarize_eq_error_iff entries .add).trans (and_iff_right rfl)
      rw [← hstops]
      cases summarize entries <;> simp [Except.map]
    · rw [bytes_finish, resources_handOver_publish, read_layOut hreader]
    · rw [bytes_finish, resources_handOver_publish, length_layOut]
    · exact (Image.length_bytes _).symm
  · have hnone : ∀ entries, ¬ MapAt memory mapAddress entries :=
      fun entries hentries => hmap ⟨entries, hentries⟩
    exact .inl ⟨hnone, publishGuestMemory_of_not_mapAt hnone caching state⟩

/-- Low RAM, a low reserved range, RAM that straddles 4 GiB, and the aperture of the PCI
host. -/
def fourEntries : List Entry :=
  [⟨0, 0xA0000, 1⟩, ⟨0xE0000000, 0x1000, 2⟩, ⟨0xFFFFF000, 0x2000, 1⟩,
    ⟨0x4000000000, 0x4000000000, 2⟩]

/-- Memory that holds a map and nothing else. -/
def memoryWith (entries : List Entry) : GuestMemory :=
  .sparse [⟨mapAddress, (encode 0x20 entries).toArray⟩]

theorem publishGuestMemory_readBack_fourEntries :
    FollowsHeaders walk ∧ MapAt (memoryWith fourEntries) mapAddress fourEntries ∧
      ∃ summary steps after,
        publishGuestMemory (memoryWith fourEntries) (Caching.listed true) [true] =
          (.ok (.ok summary), steps, after) ∧
        resourceDescriptors (walk (handOver steps .empty).finish.bytes) =
          [.ofMemory 0 0xA0000, .ofMemory 0xFFFFF000 0x2000,
            .ofMappedIo 0x4000000000 0x4000000000] := by
  have hmap : ofMemory (memoryWith fourEntries) mapAddress = .ok fourEntries := by rfl
  refine ⟨followsHeaders_walk, ofMemory_eq_ok_iff.1 hmap, ?_⟩
  rcases publishGuestMemory_readBack followsHeaders_walk (memoryWith fourEntries)
    (Caching.listed true) [true] with
    ⟨hnone, -⟩ | ⟨entries, answer, steps, after, hentries, hpublish, hanswer, -, hread, -, -⟩
  · exact absurd (ofMemory_eq_ok_iff.1 hmap) (hnone _)
  · rw [ofMemory_eq_ok_iff.2 hentries] at hmap
    cases hmap
    obtain ⟨summary, rfl⟩ := hanswer.2 (by decide)
    exact ⟨summary, steps, after, hpublish, hread.trans (by decide)⟩

/-- A map that is announced as a whole, and after which the firmware stops without an
answer. -/
theorem publishGuestMemory_stops :
    MapAt (memoryWith twiceTheSame) mapAddress twiceTheSame ∧
      publishGuestMemory (memoryWith twiceTheSame) (Caching.listed false) [] =
        (.error .add, [.cachingSupported false, .addMemory 0x100000000 0x8000000000000000,
          .addMemory 0x100000000 0x8000000000000000], []) := by
  have hmap : ofMemory (memoryWith twiceTheSame) mapAddress = .ok twiceTheSame := by rfl
  have hlarge : 2 ^ 64 ≤ highTotal twiceTheSame := by decide
  refine ⟨ofMemory_eq_ok_iff.1 hmap, ?_⟩
  rw [publishGuestMemory_of_mapAt (ofMemory_eq_ok_iff.1 hmap), summarize_of_le hlarge]
  rfl

end GuestFirmware.E820
