import GuestFirmware.Timer.LocalApic
import Mathlib.Algebra.Group.Nat.Defs

/-!
# Fields side by side

The fields of a register do not overlap, so that setting one of them leaves the
others alone.  The lemmas follow from the bits (`testBit_set`, `testBit_get`):
what a field reads after it was set (`get_set`), after another one was set
(`get_set_of_apart`), and what becomes of the register when it is set twice
(`set_set`) or to what it reads (`set_get`).  The rest is about the flag that masks
the timer.
-/

namespace GuestFirmware.Timer

namespace BitField

theorem eq_of_testBit {a b : UInt32}
    (h : ∀ index, a.toNat.testBit index = b.toNat.testBit index) : a = b :=
  UInt32.toNat_inj.mp (Nat.eq_of_testBit_eq h)

theorem get_set (field : BitField) (bits : UInt32) {value : UInt32}
    (hvalue : value.toNat < 2 ^ field.width) : field.get (field.set bits value) = value := by
  apply eq_of_testBit
  intro index
  rw [testBit_get, testBit_set]
  by_cases hwidth : index < field.width
  · have hfield : field.Has (field.shift + index) := by
      unfold Has
      omega
    simp [hwidth, hfield]
  · have hbit : value.toNat.testBit index = false := by
      apply Nat.testBit_lt_two_pow
      exact Nat.lt_of_lt_of_le hvalue (Nat.pow_le_pow_right (by decide) (Nat.le_of_not_lt hwidth))
    simp [hwidth, hbit]

theorem get_set_of_apart {field other : BitField} (bits value : UInt32)
    (h : ∀ index, field.Has index → ¬ other.Has index) :
    field.get (other.set bits value) = field.get bits := by
  apply eq_of_testBit
  intro index
  rw [testBit_get, testBit_get, testBit_set]
  by_cases hwidth : index < field.width
  · have hfield : field.Has (field.shift + index) := by
      unfold Has
      omega
    rw [if_neg (h _ hfield)]
  · simp [hwidth]

/-- Fields are apart when one ends where the other begins, or before. -/
theorem apart_of_le {field other : BitField}
    (h : field.shift + field.width ≤ other.shift ∨ other.shift + other.width ≤ field.shift)
    (index : Nat) : field.Has index → ¬ other.Has index := by
  intro hfield hother
  unfold Has at hfield hother
  omega

theorem set_set (field : BitField) (bits first second : UInt32) :
    field.set (field.set bits first) second = field.set bits second := by
  apply eq_of_testBit
  intro index
  rw [testBit_set, testBit_set, testBit_set]
  by_cases hfield : field.Has index
  · simp [hfield]
  · simp [hfield]

theorem set_get (field : BitField) (bits : UInt32) : field.set bits (field.get bits) = bits := by
  apply eq_of_testBit
  intro index
  rw [testBit_set, testBit_get]
  by_cases hfield : field.Has index
  · have hwidth : index - field.shift < field.width := by
      unfold Has at hfield
      omega
    have hindex : field.shift + (index - field.shift) = index := by
      unfold Has at hfield
      omega
    simp [hfield, hwidth, hindex]
  · simp [hfield]

theorem toNat_get_lt (field : BitField) (bits : UInt32) :
    (field.get bits).toNat < 2 ^ field.width := by
  apply Nat.lt_pow_two_of_testBit
  intro index hindex
  rw [testBit_get, decide_eq_false (by omega), Bool.false_and]

theorem flag_setFlag {field : BitField} (hwidth : field.width = 1) (bits : UInt32) (value : Bool) :
    field.flag (field.setFlag bits value) = value := by
  have hfits : ((if value then 1 else 0 : UInt32)).toNat < 2 ^ field.width := by
    rw [hwidth]
    cases value <;> decide
  unfold flag setFlag
  rw [get_set field bits hfits]
  cases value <;> rfl

theorem setFlag_flag {field : BitField} (hwidth : field.width = 1) (bits : UInt32) :
    field.setFlag bits (field.flag bits) = bits := by
  have hvalue : (if field.flag bits then 1 else 0 : UInt32) = field.get bits := by
    have hlt := toNat_get_lt field bits
    rw [hwidth] at hlt
    unfold flag
    by_cases hzero : field.get bits = 0
    · simp [hzero]
    · have hnonzero : (field.get bits).toNat ≠ 0 := fun h => hzero (UInt32.toNat_inj.mp h)
      have hone : (field.get bits).toNat = 1 := by omega
      rw [if_pos (bne_iff_ne.mpr hzero)]
      exact UInt32.toNat_inj.mp hone.symm
  rw [setFlag, hvalue, set_get]

end BitField

namespace LvtTimer

theorem isMasked_setMasked (bits : UInt32) (masked : Bool) :
    isMasked (setMasked bits masked) = masked :=
  BitField.flag_setFlag rfl bits masked

theorem setMasked_setMasked (bits : UInt32) (first second : Bool) :
    setMasked (setMasked bits first) second = setMasked bits second :=
  BitField.set_set mask bits _ _

theorem setMasked_isMasked (bits : UInt32) : setMasked bits (isMasked bits) = bits :=
  BitField.setFlag_flag rfl bits

theorem vector_setMasked (bits : UInt32) (masked : Bool) :
    vector.get (setMasked bits masked) = vector.get bits :=
  BitField.get_set_of_apart bits _ (BitField.apart_of_le (by decide))

theorem mode_setMasked (bits : UInt32) (masked : Bool) :
    mode.get (setMasked bits masked) = mode.get bits :=
  BitField.get_set_of_apart bits _ (BitField.apart_of_le (by decide))

theorem testBit_setMasked {index : Nat} (h : ¬ mask.Has index) (bits : UInt32) (masked : Bool) :
    (setMasked bits masked).toNat.testBit index = bits.toNat.testBit index := by
  rw [setMasked, BitField.setFlag, BitField.testBit_set, if_neg h]

/-! ## The register after it was configured -/

theorem vector_configure (bits : UInt32) (interrupt : UInt8) :
    vector.get (configure bits interrupt) = interrupt.toUInt32 := by
  apply BitField.get_set
  rw [UInt8.toNat_toUInt32]
  exact interrupt.toNat_lt

theorem mode_configure (bits : UInt32) (interrupt : UInt8) :
    mode.get (configure bits interrupt) = deadlineMode := by
  have hvector : ∀ index, mode.Has index → ¬ vector.Has index := BitField.apart_of_le (by decide)
  rw [configure, BitField.get_set_of_apart _ _ hvector, mode_setMasked]
  exact BitField.get_set mode bits (by decide)

theorem isMasked_configure (bits : UInt32) (interrupt : UInt8) :
    isMasked (configure bits interrupt) = true := by
  have hvector : ∀ index, mask.Has index → ¬ vector.Has index := BitField.apart_of_le (by decide)
  rw [isMasked, BitField.flag, configure, BitField.get_set_of_apart _ _ hvector]
  exact isMasked_setMasked _ true

theorem testBit_configure {index : Nat} (hvector : ¬ vector.Has index) (hmode : ¬ mode.Has index)
    (hmask : ¬ mask.Has index) (bits : UInt32) (interrupt : UInt8) :
    (configure bits interrupt).toNat.testBit index = bits.toNat.testBit index := by
  rw [configure, BitField.testBit_set, if_neg hvector, testBit_setMasked hmask,
    BitField.testBit_set, if_neg hmode]

end LvtTimer

end GuestFirmware.Timer
