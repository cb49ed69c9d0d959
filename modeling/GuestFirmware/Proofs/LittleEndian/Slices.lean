import GuestFirmware.LittleEndian
import Mathlib.Algebra.Group.Nat.Defs
import Mathlib.Tactic.SplitIfs

/-!
# Slices of joined and cut buffers

A number that is written in enough bytes is read back (`decode_encode`), and
`decode_lt` bounds what is read.

A field is a slice of its buffer.  The lemmas below say where a slice is found
after buffers were cut (`slice_take`, `slice_drop`) or joined
(`slice_append_of_le`, `slice_append_of_ge`), that a field does not see a byte
outside it (`getD_set`, `slice_set`), and that the rows of a table are
its slices at the multiples of the width (`rows_eq_map_slice`), or the parts that
it was joined from (`rows_flatten`).  A word that was written at the front of a
buffer is read back there (`word16At_ofWord16`, `word32At_ofWord32`,
`word64At_ofWord64`), one that was read is written back (`ofWord32_word32At`,
`ofWord64_word64At`), and what lies behind a field is found by skipping the field
(`word16At_append`, `word32At_append`, `word64At_append`).
-/

namespace GuestFirmware.LittleEndian

/-! ## Numbers -/

theorem decode_lt (bytes : List UInt8) : decode bytes < 256 ^ bytes.length := by
  induction bytes with
  | nil => simp [decode]
  | cons byte rest ih =>
    have := byte.toNat_lt
    simp only [decode, List.length_cons, Nat.pow_succ]
    omega

theorem decode_encode (width value : Nat) :
    decode (encode width value) = value % 256 ^ width := by
  induction width generalizing value with
  | zero => simp [encode, decode, Nat.mod_one]
  | succ width ih =>
    have hpow : 256 ^ (width + 1) = 256 * 256 ^ width := by rw [Nat.pow_succ, Nat.mul_comm]
    rw [hpow, Nat.mod_mul]
    simp [encode, decode, ih]

/-! ## Slices -/

theorem slice_drop (bytes : List UInt8) (count offset width : Nat) :
    slice (bytes.drop count) offset width = slice bytes (count + offset) width := by
  rw [slice, slice, List.drop_drop]

theorem slice_take {bytes : List UInt8} {count offset width : Nat} (h : offset + width ≤ count) :
    slice (bytes.take count) offset width = slice bytes offset width := by
  rw [slice, slice, List.drop_take, List.take_take, Nat.min_eq_left (by omega)]

/-- A slice of a slice is a slice of the whole. -/
theorem slice_slice {bytes : List UInt8} {offset width inner count : Nat}
    (h : inner + count ≤ width) :
    slice (slice bytes offset width) inner count = slice bytes (offset + inner) count := by
  have hcut : slice bytes offset width = (bytes.drop offset).take width := rfl
  rw [hcut, slice_take h, slice_drop]

/-- A byte stays the same when another one changes. -/
theorem getD_set {bytes : List UInt8} {offset index : Nat} (h : index ≠ offset)
    (byte missing : UInt8) :
    (bytes.set index byte).getD offset missing = bytes.getD offset missing := by
  rw [List.getD_eq_getElem?_getD, List.getD_eq_getElem?_getD, List.getElem?_set_ne h]

/-- A slice stays the same when a byte before it or behind it changes. -/
theorem slice_set {bytes : List UInt8} {offset width index : Nat}
    (h : index < offset ∨ offset + width ≤ index) (byte : UInt8) :
    slice (bytes.set index byte) offset width = slice bytes offset width := by
  rw [slice, slice, List.drop_set]
  split_ifs with hbefore
  · rfl
  · rw [List.take_set, List.set_eq_of_length_le (by rw [List.length_take]; omega)]

theorem slice_append_of_le {front back : List UInt8} {offset width : Nat}
    (h : offset + width ≤ front.length) :
    slice (front ++ back) offset width = slice front offset width := by
  rw [slice, slice, List.drop_append_of_le_length (by omega),
    List.take_append_of_le_length (by rw [List.length_drop]; omega)]

theorem slice_append_of_ge {front back : List UInt8} {offset width : Nat}
    (h : front.length ≤ offset) :
    slice (front ++ back) offset width = slice back (offset - front.length) width := by
  rw [slice, slice, List.drop_append, List.drop_of_length_le h, List.nil_append]

/-- Two slices in a row are one slice. -/
theorem slice_append_slice (bytes : List UInt8) (offset width next : Nat) :
    slice bytes offset width ++ slice bytes (offset + width) next =
      slice bytes offset (width + next) := by
  rw [slice, slice, slice, List.take_add, List.drop_drop]

theorem slice_front (field back : List UInt8) : slice (field ++ back) 0 field.length = field := by
  rw [slice, List.drop_zero, List.take_left]

/-! ## Words -/

@[simp] theorem length_ofWord16 (word : UInt16) : (ofWord16 word).length = 2 :=
  length_encode 2 _

@[simp] theorem length_ofWord32 (word : UInt32) : (ofWord32 word).length = 4 :=
  length_encode 4 _

@[simp] theorem length_ofWord64 (word : UInt64) : (ofWord64 word).length = 8 :=
  length_encode 8 _

@[simp] theorem word16At_ofWord16 (word : UInt16) (back : List UInt8) :
    word16At (ofWord16 word ++ back) 0 = word := by
  have hlt := word.toNat_lt
  have hslice := slice_front (ofWord16 word) back
  rw [length_ofWord16] at hslice
  rw [word16At, hslice, ofWord16, decode_encode, Nat.mod_eq_of_lt (by omega),
    UInt16.ofNat_toNat]

@[simp] theorem word32At_ofWord32 (word : UInt32) (back : List UInt8) :
    word32At (ofWord32 word ++ back) 0 = word := by
  have hlt := word.toNat_lt
  have hslice := slice_front (ofWord32 word) back
  rw [length_ofWord32] at hslice
  rw [word32At, hslice, ofWord32, decode_encode, Nat.mod_eq_of_lt (by omega),
    UInt32.ofNat_toNat]

@[simp] theorem word64At_ofWord64 (word : UInt64) (back : List UInt8) :
    word64At (ofWord64 word ++ back) 0 = word := by
  have hlt := word.toNat_lt
  have hslice := slice_front (ofWord64 word) back
  rw [length_ofWord64] at hslice
  rw [word64At, hslice, ofWord64, decode_encode, Nat.mod_eq_of_lt (by omega),
    UInt64.ofNat_toNat]

/-- A word that was read is written as the bytes it was read from. -/
theorem ofWord32_word32At {bytes : List UInt8} {offset : Nat} (h : offset + 4 ≤ bytes.length) :
    ofWord32 (word32At bytes offset) = slice bytes offset 4 := by
  have hlength := length_slice h
  have hlt := decode_lt (slice bytes offset 4)
  rw [hlength] at hlt
  have hback := encode_decode (slice bytes offset 4)
  rw [hlength] at hback
  rw [ofWord32, word32At, UInt32.toNat_ofNat', Nat.mod_eq_of_lt (by omega), hback]

theorem ofWord64_word64At {bytes : List UInt8} {offset : Nat} (h : offset + 8 ≤ bytes.length) :
    ofWord64 (word64At bytes offset) = slice bytes offset 8 := by
  have hlength := length_slice h
  have hlt := decode_lt (slice bytes offset 8)
  rw [hlength] at hlt
  have hback := encode_decode (slice bytes offset 8)
  rw [hlength] at hback
  rw [ofWord64, word64At, UInt64.toNat_ofNat', Nat.mod_eq_of_lt (by omega), hback]

theorem word16At_append {front back : List UInt8} {offset : Nat} (h : front.length ≤ offset) :
    word16At (front ++ back) offset = word16At back (offset - front.length) := by
  rw [word16At, word16At, slice_append_of_ge h]

theorem word32At_append {front back : List UInt8} {offset : Nat} (h : front.length ≤ offset) :
    word32At (front ++ back) offset = word32At back (offset - front.length) := by
  rw [word32At, word32At, slice_append_of_ge h]

theorem word64At_append {front back : List UInt8} {offset : Nat} (h : front.length ≤ offset) :
    word64At (front ++ back) offset = word64At back (offset - front.length) := by
  rw [word64At, word64At, slice_append_of_ge h]

/-! ## Rows -/

/-- Row `index` of a table is the slice at `index` widths. -/
theorem rows_eq_map_slice (width count : Nat) (bytes : List UInt8) :
    rows width count bytes =
      (List.range count).map fun index => slice bytes (index * width) width := by
  induction count generalizing bytes with
  | zero => rfl
  | succ count ih =>
    rw [rows, ih, List.range_succ_eq_map, List.map_cons, List.map_map]
    congr 1
    · rw [slice, Nat.zero_mul, List.drop_zero]
    · apply List.map_congr_left
      intro index _
      rw [slice_drop, Function.comp_apply, Nat.succ_mul, Nat.add_comm]

/-- Parts of the width of a table that are joined are its rows, whatever follows
them. -/
theorem rows_flatten {width : Nat} {parts : List (List UInt8)}
    (h : ∀ part ∈ parts, part.length = width) (rest : List UInt8) :
    rows width parts.length (parts.flatten ++ rest) = parts := by
  induction parts with
  | nil => rfl
  | cons part parts ih =>
    obtain ⟨hpart, hparts⟩ := List.forall_mem_cons.1 h
    rw [List.length_cons, rows, List.flatten_cons, List.append_assoc, ← hpart, List.take_left,
      List.drop_left, hpart, ih hparts]

/-- A row of a table that holds all its rows has the width of the table. -/
theorem length_of_mem_rows {width count : Nat} {bytes row : List UInt8}
    (hsize : count * width ≤ bytes.length) (hrow : row ∈ rows width count bytes) :
    row.length = width := by
  rw [rows_eq_map_slice] at hrow
  obtain ⟨index, hindex, rfl⟩ := List.mem_map.1 hrow
  have hlt : index + 1 ≤ count := List.mem_range.1 hindex
  have hend : (index + 1) * width ≤ count * width := Nat.mul_le_mul_right width hlt
  rw [Nat.succ_mul] at hend
  exact length_slice (by omega)

end GuestFirmware.LittleEndian
