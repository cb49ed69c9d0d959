/-!
# Hexadecimal text

`Hex.encode` writes each byte as two lower-case digits (`length_encode`) and
`Hex.decode` reads them back (`decode_encode`).  `Hex.number` reads the digits
of one number.
-/

namespace GuestFirmware.Hex

/-- The value of a digit. -/
def value? (c : Char) : Option Nat :=
  if '0' ≤ c ∧ c ≤ '9' then some (c.toNat - '0'.toNat)
  else if 'a' ≤ c ∧ c ≤ 'f' then some (c.toNat - 'a'.toNat + 10)
  else none

/-- The two digits of a byte. -/
def pair (byte : UInt8) : List Char :=
  [Nat.digitChar (byte.toNat / 16), Nat.digitChar (byte.toNat % 16)]

/-- The digits of bytes in order. -/
def encode (bytes : List UInt8) : List Char :=
  bytes.flatMap pair

/-- The bytes whose digits are given. -/
def decode : List Char → Option (List UInt8)
  | [] => some []
  | [_] => none
  | high :: low :: rest => do
    let byte := UInt8.ofNat (16 * (← value? high) + (← value? low))
    return byte :: (← decode rest)

/-- The number whose digits are given, the highest first. -/
def number (digits : List Char) : Option Nat :=
  digits.foldlM (fun value c => return 16 * value + (← value? c)) 0

theorem value?_digitChar {value : Nat} (h : value < 16) :
    value? (Nat.digitChar value) = some value := by
  rcases value with _ | _ | _ | _ | _ | _ | _ | _ | _ | _ | _ | _ | _ | _ | _ | _ | value
  all_goals first | rfl | omega

@[simp] theorem length_encode (bytes : List UInt8) : (encode bytes).length = 2 * bytes.length := by
  induction bytes with
  | nil => rfl
  | cons byte rest ih =>
    rw [encode, List.flatMap_cons, List.length_append, ← encode, ih, pair, List.length_cons]
    simp only [List.length_cons, List.length_nil]
    omega

theorem decode_encode (bytes : List UInt8) : decode (encode bytes) = some bytes := by
  induction bytes with
  | nil => rfl
  | cons byte rest ih =>
    have hbyte := byte.toNat_lt
    have hvalue : 16 * (byte.toNat / 16) + byte.toNat % 16 = byte.toNat := Nat.div_add_mod ..
    rw [encode, List.flatMap_cons, pair, List.cons_append, List.cons_append, List.nil_append,
      decode, value?_digitChar (by omega), value?_digitChar (Nat.mod_lt _ (by decide))]
    simp only [Option.bind_eq_bind, Option.bind_some, hvalue, UInt8.ofNat_toNat]
    rw [show decode (rest.flatMap pair) = some rest from ih]
    rfl

end GuestFirmware.Hex
