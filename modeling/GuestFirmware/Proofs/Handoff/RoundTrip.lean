import GuestFirmware.Handoff.List
import GuestFirmware.Proofs.LittleEndian.Slices

/-!
# Reading back a hand-off list

The list that was laid out for some descriptors gives exactly these descriptors
back, in order.  The reader belongs to the next phase of the firmware.  All that
is asked of it is `FollowsHeaders`: it goes from block to block by the lengths in
the headers, takes blocks of one type for resource descriptors, and stops at the
end block.  `followsHeaders_walk` says that `walk` is such a reader.

`ResourceDescriptor.decode_encode` is the round trip of one block and
`reader_layOut` that of a list.  `read_layOut` keeps the descriptors of its blocks.
-/

namespace GuestFirmware.Handoff

open LittleEndian

/-! ## One block -/

namespace ResourceDescriptor

@[simp] theorem length_header (type : UInt16) (size : Nat) : (header type size).length = 8 := by
  simp [header]

@[simp] theorem length_block (descriptor : ResourceDescriptor) :
    (encode descriptor).length = blockSize := by
  simp [encode, blockSize]

/-- The fields of a block, each in front of the rest. -/
theorem encode_append (descriptor : ResourceDescriptor) (rest : List UInt8) :
    encode descriptor ++ rest = ofWord16 blockType ++ (ofWord16 0x0030 ++
      (List.replicate 20 0 ++ (ofWord32 descriptor.resourceType ++
        (ofWord32 descriptor.attributes ++ (ofWord64 descriptor.start ++
          (ofWord64 descriptor.length ++ rest)))))) := by
  have hsize : LittleEndian.encode 2 blockSize = ofWord16 0x0030 := rfl
  have hzeros : List.replicate 20 (0 : UInt8) = List.replicate 4 0 ++ List.replicate 16 0 := rfl
  rw [encode, header, hsize, hzeros]
  simp only [List.append_assoc]

theorem word16At_encode_type (descriptor : ResourceDescriptor) (rest : List UInt8) :
    word16At (encode descriptor ++ rest) 0 = blockType := by
  rw [encode_append, word16At_ofWord16]

theorem word16At_encode_size (descriptor : ResourceDescriptor) (rest : List UInt8) :
    (word16At (encode descriptor ++ rest) 2).toNat = blockSize := by
  rw [encode_append, word16At_append (by simp)]
  simp [blockSize]

theorem decode_encode (descriptor : ResourceDescriptor) (rest : List UInt8) :
    decode (encode descriptor ++ rest) = descriptor := by
  rw [encode_append, decode]
  simp only [word32At_append, word64At_append, word32At_ofWord32, word64At_ofWord64,
    length_ofWord16, length_ofWord32, length_ofWord64, List.length_replicate, Nat.reduceLeDiff,
    Nat.reduceSub]

/-- The fields lie inside the block. -/
theorem decode_append {block : List UInt8} (hlength : block.length = blockSize)
    (rest : List UInt8) : decode (block ++ rest) = decode block := by
  have hblock : block.length = 48 := hlength
  simp only [decode, word32At, word64At]
  rw [slice_append_of_le (by omega), slice_append_of_le (by omega), slice_append_of_le (by omega),
    slice_append_of_le (by omega)]

end ResourceDescriptor

/-! ## The reader -/

/-- A reader of hand-off lists follows the headers.  It takes a block of the type
and the length of a resource descriptor for one and goes on behind it, and it
stops at the end block. -/
structure FollowsHeaders (reader : List UInt8 → List Block) : Prop where
  resource : ∀ block rest, block.length = ResourceDescriptor.blockSize →
    word16At block 0 = ResourceDescriptor.blockType → (word16At block 2).toNat = block.length →
    reader (block ++ rest) = .resource (.decode block) :: reader rest
  stops : ∀ bytes, headerSize ≤ bytes.length → word16At bytes 0 = endType → reader bytes = []

theorem layOut_cons (descriptor : ResourceDescriptor) (rest : List ResourceDescriptor) :
    layOut (descriptor :: rest) = descriptor.encode ++ layOut rest := by
  rw [layOut, layOut, List.flatMap_cons, List.append_assoc]

/-- The blocks of a list are those of its descriptors, and no others. -/
theorem reader_layOut {reader : List UInt8 → List Block} (hreader : FollowsHeaders reader)
    (descriptors : List ResourceDescriptor) :
    reader (layOut descriptors) = descriptors.map .resource := by
  induction descriptors with
  | nil => exact hreader.stops _ (by decide) (by decide)
  | cons descriptor rest ih =>
    have htype := descriptor.word16At_encode_type []
    have hsize := descriptor.word16At_encode_size []
    have hdecode := descriptor.decode_encode []
    rw [List.append_nil] at htype hsize hdecode
    rw [layOut_cons, hreader.resource _ _ descriptor.length_block htype
      (by rw [hsize, descriptor.length_block]), hdecode, ih]
    rfl

/-- A list of some descriptors gives these descriptors back, and nothing else. -/
theorem read_layOut {reader : List UInt8 → List Block} (hreader : FollowsHeaders reader)
    (descriptors : List ResourceDescriptor) :
    resourceDescriptors (reader (layOut descriptors)) = descriptors := by
  rw [reader_layOut hreader, resourceDescriptors, List.filterMap_map]
  exact List.filterMap_some

theorem length_layOut (descriptors : List ResourceDescriptor) :
    (layOut descriptors).length = 48 * descriptors.length + 8 := by
  induction descriptors with
  | nil => rfl
  | cons descriptor rest ih =>
    rw [layOut, List.length_append] at ih ⊢
    rw [List.flatMap_cons, List.length_append, ResourceDescriptor.length_block,
      ResourceDescriptor.blockSize, List.length_cons]
    omega

/-! ## The walk is such a reader -/

/-- More blocks than the bytes can hold need not be allowed. -/
theorem walkUpTo_eq_walkUpTo {count other : Nat} {bytes : List UInt8}
    (hcount : bytes.length / 8 ≤ count) (hother : bytes.length / 8 ≤ other) :
    walkUpTo count bytes = walkUpTo other bytes := by
  have hheader : headerSize = 8 := rfl
  induction count generalizing other bytes with
  | zero =>
    cases other with
    | zero => rfl
    | succ other => rw [walkUpTo, walkUpTo, if_pos (by omega)]
  | succ count ih =>
    cases other with
    | zero => rw [walkUpTo, walkUpTo, if_pos (by omega)]
    | succ other =>
      rw [walkUpTo, walkUpTo]
      split
      · rfl
      · next hgoes =>
        have hrest : (bytes.drop (word16At bytes 2).toNat).length / 8 + 1 ≤ bytes.length / 8 := by
          rw [List.length_drop]
          omega
        rw [@ih other _ (by omega) (by omega)]

/-- The first block of a list stands in front of the blocks behind it. -/
theorem walk_append {block rest : List UInt8} (hheader : 8 ≤ block.length)
    (hsize : (word16At block 2).toNat = block.length) (hend : word16At block 0 ≠ endType) :
    walk (block ++ rest) = .decode (block ++ rest) :: walk rest := by
  have hsize' : (word16At (block ++ rest) 2).toNat = block.length := by
    rw [word16At, slice_append_of_le (by omega), ← hsize, word16At]
  have hend' : word16At (block ++ rest) 0 ≠ endType := by
    rw [word16At, slice_append_of_le (by omega)]
    exact hend
  have hcount : ∃ count, (block ++ rest).length / 8 = count + 1 ∧ rest.length / 8 ≤ count := by
    rw [List.length_append]
    exact ⟨(block.length + rest.length) / 8 - 1, by omega, by omega⟩
  obtain ⟨count, hcount, hrest⟩ := hcount
  have hgoes : ¬ (word16At (block ++ rest) 0 = endType ∨ block.length < headerSize ∨
      (block ++ rest).length < block.length) := by
    rw [List.length_append]
    rintro (h | h | h)
    · exact hend' h
    · exact absurd hheader (Nat.not_le.2 h)
    · omega
  rw [walk, headerSize, hcount, walkUpTo, hsize', if_neg hgoes, List.drop_left,
    walkUpTo_eq_walkUpTo hrest (Nat.le_refl _)]
  rfl

theorem followsHeaders_walk : FollowsHeaders walk where
  resource := by
    intro block rest hlength htype hsize
    have hblock : block.length = 48 := hlength
    have hend : word16At block 0 ≠ endType := by
      rw [htype]
      decide
    have htype' : word16At (block ++ rest) 0 = ResourceDescriptor.blockType := by
      rw [word16At, slice_append_of_le (by omega)]
      exact htype
    have hdecode : Block.decode (block ++ rest) = .resource (.decode block) := by
      rw [Block.decode, htype', if_pos rfl, ResourceDescriptor.decode_append hlength]
    rw [walk_append (by omega) hsize hend, hdecode]
  stops := by
    intro bytes hlength hend
    have hcount : ∃ count, bytes.length / 8 = count + 1 := by
      rw [headerSize] at hlength
      exact ⟨bytes.length / 8 - 1, by omega⟩
    obtain ⟨count, hcount⟩ := hcount
    rw [walk, headerSize, hcount, walkUpTo]
    exact if_pos (Or.inl hend)

end GuestFirmware.Handoff
