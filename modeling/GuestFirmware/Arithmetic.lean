/-!
# Arithmetic of machine words

An exact result may be no machine word.  There are three ways to go on, and this module
has one section for each.

* A saturating sum stops at the last word.  `toNat_saturatingAdd` gives it as a number.
* A checked sum or difference stops the program.  `Overflow` says at which operation it
  stopped, and `checkedAdd_of_lt` and `checkedSub_of_le` say when it goes on.
* A byte sum drops what is no byte, as the checksums of firmware tables do.  It splits
  where the list does (`byteSum_append`), and a list with one byte replaced keeps its sum
  only if the byte stayed the same (`byteSum_set_eq_iff`).
-/

namespace GuestFirmware

/-! ## Saturating sums -/

/-- The greatest 64-bit word. -/
def lastWord : Nat := UInt64.size - 1

/-- The sum of a word and a number, at most the greatest word. -/
def saturatingAdd (word : UInt64) (amount : Nat) : UInt64 :=
  UInt64.ofNat (min (word.toNat + amount) lastWord)

theorem toNat_saturatingAdd (word : UInt64) (amount : Nat) :
    (saturatingAdd word amount).toNat = min (word.toNat + amount) lastWord := by
  unfold saturatingAdd
  rw [UInt64.toNat_ofNat']
  exact Nat.mod_eq_of_lt (by simp only [lastWord, UInt64.size]; omega)

/-! ## Checked sums and differences -/

/-- The operation whose exact result is no word, at which the program stops. -/
inductive Overflow
  | add
  | subtract
  deriving DecidableEq, Repr

/-- What is said when the program stops. -/
def Overflow.text : Overflow → String
  | add => "attempt to add with overflow"
  | subtract => "attempt to subtract with overflow"

/-- The sum of two words. -/
def checkedAdd (left right : UInt64) : Except Overflow UInt64 :=
  if left.toNat + right.toNat < UInt64.size then .ok (left + right) else .error .add

/-- The difference of two words. -/
def checkedSub (left right : UInt64) : Except Overflow UInt64 :=
  if right ≤ left then .ok (left - right) else .error .subtract

theorem checkedAdd_of_lt {left right : UInt64} (h : left.toNat + right.toNat < UInt64.size) :
    ∃ sum, checkedAdd left right = .ok sum ∧ sum.toNat = left.toNat + right.toNat := by
  refine ⟨left + right, if_pos h, ?_⟩
  rw [UInt64.toNat_add]
  exact Nat.mod_eq_of_lt h

theorem checkedAdd_of_le {left right : UInt64} (h : UInt64.size ≤ left.toNat + right.toNat) :
    checkedAdd left right = .error .add :=
  if_neg (Nat.not_lt.mpr h)

theorem checkedSub_of_le {left right : UInt64} (h : right ≤ left) :
    ∃ difference, checkedSub left right = .ok difference ∧
      difference.toNat = left.toNat - right.toNat :=
  ⟨left - right, if_pos h, UInt64.toNat_sub_of_le _ _ h⟩

theorem checkedSub_of_lt {left right : UInt64} (h : left < right) :
    checkedSub left right = .error .subtract :=
  if_neg (UInt64.not_le.mpr h)

/-! ## Byte sums -/

/-- The sum of all bytes, modulo 256. -/
def byteSum (bytes : List UInt8) : UInt8 :=
  bytes.foldr (· + ·) 0

@[simp] theorem byteSum_nil : byteSum [] = 0 := rfl

@[simp] theorem byteSum_cons (byte : UInt8) (rest : List UInt8) :
    byteSum (byte :: rest) = byte + byteSum rest := rfl

@[simp] theorem byteSum_append (front back : List UInt8) :
    byteSum (front ++ back) = byteSum front + byteSum back := by
  induction front with
  | nil => simp
  | cons byte rest ih => simp [ih, UInt8.add_assoc]

theorem byteSum_set_eq_iff {bytes : List UInt8} {index : Nat} {byte : UInt8}
    (h : index < bytes.length) :
    byteSum (bytes.set index byte) = byteSum bytes ↔ byte = bytes[index] := by
  induction bytes generalizing index with
  | nil => simp at h
  | cons first rest ih =>
    cases index with
    | zero => simp
    | succ index => simpa using ih (by simpa using h)

end GuestFirmware
