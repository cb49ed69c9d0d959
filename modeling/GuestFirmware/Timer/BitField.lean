/-!
# Fields of a register

A device register packs several fields into one word.  A `BitField` is a row of
its bits; `get` reads it and `set` replaces it and keeps all other bits.

The lemmas are stated bit by bit: which bits a field has (`testBit_mask`), what
each bit is after a field was set (`testBit_set`), and where the bits of a read
field come from (`testBit_get`).
-/

namespace GuestFirmware.Timer

/-- `width` bits of a 32-bit register from bit `shift` on. -/
structure BitField where
  shift : Nat
  width : Nat
  /-- The field lies in the register. -/
  fits : shift + width ≤ 32 := by decide

namespace BitField

/-- The bits of the field. -/
def mask (field : BitField) : UInt32 :=
  UInt32.ofNat ((1 <<< field.width - 1) <<< field.shift)

/-- The value of the field in a register. -/
def get (field : BitField) (bits : UInt32) : UInt32 :=
  UInt32.ofNat ((bits &&& field.mask).toNat >>> field.shift)

/-- The register with the field replaced: the bits of the field are flipped in
which the register and the value differ.  Bits of the value that the field does
not have are dropped. -/
def set (field : BitField) (bits value : UInt32) : UInt32 :=
  bits ^^^ ((bits ^^^ UInt32.ofNat (value.toNat <<< field.shift)) &&& field.mask)

/-- A field of one bit. -/
def flag (field : BitField) (bits : UInt32) : Bool :=
  field.get bits != 0

/-- The register with a field of one bit replaced. -/
def setFlag (field : BitField) (bits : UInt32) (value : Bool) : UInt32 :=
  field.set bits (if value then 1 else 0)

/-! ## Bit by bit -/

/-- The bits that the field has. -/
def Has (field : BitField) (index : Nat) : Prop :=
  field.shift ≤ index ∧ index < field.shift + field.width

instance (field : BitField) (index : Nat) : Decidable (field.Has index) :=
  inferInstanceAs (Decidable (_ ∧ _))

theorem testBit_mask (field : BitField) (index : Nat) :
    field.mask.toNat.testBit index = decide (field.Has index) := by
  have hfits := field.fits
  unfold mask Has
  rw [Nat.one_shiftLeft, UInt32.toNat_ofNat', Nat.testBit_mod_two_pow, Nat.testBit_shiftLeft,
    Nat.testBit_two_pow_sub_one]
  by_cases hlow : field.shift ≤ index
  · by_cases hhigh : index < field.shift + field.width
    · have hword : index < 32 := by omega
      have hwidth : index - field.shift < field.width := by omega
      simp [hlow, hhigh, hword, hwidth]
    · have hwidth : ¬index - field.shift < field.width := by omega
      simp [hhigh, hwidth]
  · simp [hlow]

theorem testBit_set (field : BitField) (bits value : UInt32) (index : Nat) :
    (field.set bits value).toNat.testBit index =
      if field.Has index then value.toNat.testBit (index - field.shift)
      else bits.toNat.testBit index := by
  have hfits := field.fits
  unfold set
  rw [UInt32.toNat_xor, UInt32.toNat_and, UInt32.toNat_xor, Nat.testBit_xor, Nat.testBit_and,
    Nat.testBit_xor, testBit_mask, UInt32.toNat_ofNat', Nat.testBit_mod_two_pow,
    Nat.testBit_shiftLeft]
  by_cases hfield : field.Has index
  · have hword : index < 32 := by
      unfold Has at hfield
      omega
    simp [hfield, hfield.1, hword]
  · simp [hfield]

theorem testBit_get (field : BitField) (bits : UInt32) (index : Nat) :
    (field.get bits).toNat.testBit index =
      (decide (index < field.width) && bits.toNat.testBit (field.shift + index)) := by
  have hbound : (bits &&& field.mask).toNat >>> field.shift < 2 ^ 32 := by
    rw [Nat.shiftRight_eq_div_pow]
    exact Nat.lt_of_le_of_lt (Nat.div_le_self _ _) (UInt32.toNat_lt _)
  unfold get
  rw [UInt32.toNat_ofNat', Nat.mod_eq_of_lt hbound, Nat.testBit_shiftRight, UInt32.toNat_and,
    Nat.testBit_and, testBit_mask, Bool.and_comm]
  by_cases hwidth : index < field.width
  · have hfield : field.Has (field.shift + index) := by
      unfold Has
      omega
    simp [hwidth, hfield]
  · have hfield : ¬field.Has (field.shift + index) := by
      unfold Has
      omega
    simp [hwidth, hfield]

end BitField

end GuestFirmware.Timer
