import GuestFirmware.Handoff.Builder
import GuestFirmware.Proofs.Handoff.RoundTrip

/-!
# Where the headers of a hand-off list are

A reader of a hand-off list looks for a header at the start, and then behind each block
that is not the end block, as far on as the header says.  `HeaderAt` says so.  The fields
of a descriptor may hold any bytes, those of an end block included.  This module says that
no reader takes them for a header, and that the list gives its descriptors back.

* `bytes_finish` says that packing a list into words changes none of its bytes, and
  `resources_addAll` that a builder holds what was added.
* `drop_layOut` cuts a list in front of one of its blocks.  `slice_block` and
  `slice_endBlock` find the blocks there, and `type_block`, `size_block` and
  `type_endBlock` read their headers.
* `headerAt_layOut_iff` is the set of offsets of the headers: an induction over the steps
  of a reader in one direction, and over the blocks in the other.

`finish_roundTrip` joins these with the round trip of the list.
-/

namespace GuestFirmware.Handoff

open LittleEndian

/-! ## Packing into words -/

/-- Packing bytes that fill their words changes none of them. -/
theorem Image.bytes_ofBytes {bytes : List UInt8} (h : 8 ∣ bytes.length) :
    (Image.ofBytes bytes).bytes = bytes := by
  have hcount : bytes.length / 8 * 8 = bytes.length := Nat.div_mul_cancel h
  have hrow : ∀ row ∈ rows 8 (bytes.length / 8) bytes, ofWord64 (word64At row 0) = id row := by
    intro row hrow
    have hlength : row.length = 8 := length_of_mem_rows (Nat.le_of_eq hcount) hrow
    rw [ofWord64_word64At (by omega), slice, List.drop_zero, List.take_of_length_le (by omega)]
    rfl
  rw [Image.bytes, Image.ofBytes, Image.wordSize]
  dsimp only
  rw [List.flatMap_map, List.flatMap_def, List.map_congr_left hrow, List.map_id, flatten_rows,
    hcount, List.take_length]

theorem bytes_finish (builder : Builder) : builder.finish.bytes = layOut builder.resources := by
  apply Image.bytes_ofBytes
  rw [length_layOut]
  exact ⟨6 * builder.resources.length + 1, by omega⟩

theorem Image.length_bytes (image : Image) : image.bytes.length = image.size := by
  simp [bytes, size, wordSize, List.length_flatMap, List.map_const']

/-! ## What was added -/

/-- The descriptor that a call adds. -/
def Addition.descriptor : Addition → ResourceDescriptor
  | resource descriptor => descriptor
  | memory base length => ⟨systemMemory, systemMemoryAttributes, base, length⟩
  | ioMemory base length => ⟨mappedIo, mappedIoAttributes, base, length⟩

theorem resources_add (builder : Builder) (addition : Addition) :
    (builder.add addition).resources = builder.resources ++ [addition.descriptor] := by
  cases addition <;> rfl

/-- A builder holds what was added, in order. -/
theorem resources_addAll (builder : Builder) (additions : List Addition) :
    (builder.addAll additions).resources =
      builder.resources ++ additions.map Addition.descriptor := by
  induction additions generalizing builder with
  | nil => exact (List.append_nil _).symm
  | cons addition rest ih =>
    have hnext : builder.addAll (addition :: rest) = (builder.add addition).addAll rest := rfl
    rw [hnext, ih, resources_add, List.append_assoc]
    rfl

/-! ## The blocks -/

section Blocks

variable {descriptors : List ResourceDescriptor} {index : Nat}

/-- What follows on some blocks is the list of the other descriptors. -/
theorem drop_layOut (h : index ≤ descriptors.length) :
    (layOut descriptors).drop (48 * index) = layOut (descriptors.drop index) := by
  induction index generalizing descriptors with
  | zero => rfl
  | succ index ih =>
    cases descriptors with
    | nil => cases h
    | cons descriptor rest =>
      have hblock : 48 * (index + 1) = descriptor.encode.length + 48 * index := by
        rw [descriptor.length_block, ResourceDescriptor.blockSize, Nat.mul_succ, Nat.add_comm]
      rw [layOut_cons, hblock, List.drop_append, List.drop_of_length_le (by omega),
        List.nil_append, Nat.add_sub_cancel_left, ih (Nat.le_of_succ_le_succ h)]
      rfl

theorem drop_layOut_of_lt (h : index < descriptors.length) :
    (layOut descriptors).drop (48 * index) =
      descriptors[index].encode ++ layOut (descriptors.drop (index + 1)) := by
  rw [drop_layOut (Nat.le_of_lt h), List.drop_eq_getElem_cons h, layOut_cons]

theorem drop_layOut_length :
    (layOut descriptors).drop (48 * descriptors.length) = endBlock := by
  rw [drop_layOut (Nat.le_refl _), List.drop_length]
  rfl

theorem slice_block (h : index < descriptors.length) :
    slice (layOut descriptors) (48 * index) 48 = descriptors[index].encode := by
  have hlength : descriptors[index].encode.length = 48 := descriptors[index].length_block
  rw [slice, drop_layOut_of_lt h, ← hlength, List.take_left]

theorem slice_endBlock : slice (layOut descriptors) (48 * descriptors.length) 8 = endBlock := by
  rw [slice, drop_layOut_length]
  rfl

/-! ## The headers -/

theorem word16At_drop (bytes : List UInt8) (count offset : Nat) :
    word16At (bytes.drop count) offset = word16At bytes (count + offset) := by
  rw [word16At, word16At, slice_drop]

theorem type_block (h : index < descriptors.length) :
    word16At (layOut descriptors) (48 * index) = ResourceDescriptor.blockType := by
  rw [← Nat.add_zero (48 * index), ← word16At_drop, drop_layOut_of_lt h,
    ResourceDescriptor.word16At_encode_type]

theorem size_block (h : index < descriptors.length) :
    (word16At (layOut descriptors) (48 * index + 2)).toNat = 48 := by
  rw [← word16At_drop, drop_layOut_of_lt h, ResourceDescriptor.word16At_encode_size]
  rfl

theorem type_endBlock : word16At (layOut descriptors) (48 * descriptors.length) = endType := by
  rw [← Nat.add_zero (48 * descriptors.length), ← word16At_drop, drop_layOut_length]
  rfl

end Blocks

/-- A reader of a list looks for a header at an offset: at the start, and behind each block
that is not the end block. -/
inductive HeaderAt (bytes : List UInt8) : Nat → Prop
  | first : HeaderAt bytes 0
  | next {offset : Nat} (h : HeaderAt bytes offset) (hgoes : word16At bytes offset ≠ endType) :
      HeaderAt bytes (offset + (word16At bytes (offset + 2)).toNat)

/-- The headers of a list are those of its blocks, whatever the fields of the blocks hold. -/
theorem headerAt_layOut_iff {descriptors : List ResourceDescriptor} {offset : Nat} :
    HeaderAt (layOut descriptors) offset ↔
      ∃ index ≤ descriptors.length, offset = 48 * index := by
  constructor
  · intro h
    -- A reader that stands on a block goes on by 48 bytes, and it leaves no end block.
    induction h with
    | first => exact ⟨0, Nat.zero_le _, rfl⟩
    | next _ hgoes ih =>
      obtain ⟨index, hle, rfl⟩ := ih
      have hlt : index < descriptors.length := by
        refine Nat.lt_of_le_of_ne hle ?_
        rintro rfl
        exact hgoes type_endBlock
      exact ⟨index + 1, hlt, by rw [size_block hlt, Nat.mul_succ]⟩
  · rintro ⟨index, hle, rfl⟩
    -- Each block in front of this one is left behind, for it is no end block.
    induction index with
    | zero => exact .first
    | succ index ih =>
      have hgoes : word16At (layOut descriptors) (48 * index) ≠ endType := by
        rw [type_block hle]
        decide
      have hnext := HeaderAt.next (ih (Nat.le_of_succ_le hle)) hgoes
      rwa [size_block hle, ← Nat.mul_succ] at hnext

/-! ## Building and reading back -/

/-- Whatever is added to a builder, and in whatever order, the finished list has 48 bytes
for each descriptor and then an end block of 8 bytes.  The headers that a reader looks for
are those of these blocks and no others, and all of them are aligned.  The list gives the
descriptors back, in their order. -/
theorem finish_roundTrip {reader : List UInt8 → List Block} (hreader : FollowsHeaders reader)
    (additions : List Addition) :
    let descriptors := additions.map Addition.descriptor
    let image := (Builder.empty.addAll additions).finish
    image.size = 48 * descriptors.length + 8 ∧ image.bytes.length = image.size ∧
    (∀ index (h : index < descriptors.length),
      slice image.bytes (48 * index) 48 = descriptors[index].encode) ∧
    slice image.bytes (48 * descriptors.length) 8 = [0xFF, 0xFF, 0x08, 0, 0, 0, 0, 0] ∧
    (∀ offset, HeaderAt image.bytes offset ↔
      ∃ index ≤ descriptors.length, offset = 48 * index) ∧
    (∀ offset, HeaderAt image.bytes offset → 8 ∣ offset) ∧
    reader image.bytes = descriptors.map .resource ∧
    resourceDescriptors (reader image.bytes) = descriptors := by
  intro descriptors image
  have hbytes : image.bytes = layOut descriptors := by
    rw [bytes_finish, resources_addAll]
    rfl
  have hlength := image.length_bytes
  refine ⟨?_, hlength, ?_, ?_, ?_, ?_, ?_, ?_⟩
  · rw [← hlength, hbytes, length_layOut]
  · intro index h
    rw [hbytes, slice_block h]
  · rw [hbytes, slice_endBlock]
    rfl
  · intro offset
    rw [hbytes, headerAt_layOut_iff]
  · intro offset h
    rw [hbytes, headerAt_layOut_iff] at h
    obtain ⟨index, -, rfl⟩ := h
    exact ⟨6 * index, by omega⟩
  · rw [hbytes, reader_layOut hreader]
  · rw [hbytes, read_layOut hreader]

/-- A descriptor whose fields look like end blocks, and two others. -/
def endLikeAdditions : List Addition :=
  [.resource ⟨0x0008FFFF, 0, 0x0008FFFF, 0x0008FFFF⟩, .ioMemory 0x4000000000 0x1000,
    .memory 0 0xA0000]

theorem finish_roundTrip_endLike :
    let image := (Builder.empty.addAll endLikeAdditions).finish
    FollowsHeaders walk ∧ image.size = 152 ∧
      word16At image.bytes 40 = endType ∧ ¬ HeaderAt image.bytes 40 ∧
      resourceDescriptors (walk image.bytes) =
        [⟨0x0008FFFF, 0, 0x0008FFFF, 0x0008FFFF⟩, .ofMappedIo 0x4000000000 0x1000,
          .ofMemory 0 0xA0000] := by
  intro image
  obtain ⟨hsize, -, -, -, hheader, -, -, hread⟩ :=
    finish_roundTrip followsHeaders_walk endLikeAdditions
  have hbytes : image.bytes = layOut (endLikeAdditions.map Addition.descriptor) :=
    bytes_finish _
  refine ⟨followsHeaders_walk, hsize, ?_, ?_, hread⟩
  · rw [hbytes]
    rfl
  · rw [hheader]
    rintro ⟨index, -, hoffset⟩
    omega

end GuestFirmware.Handoff
