/-!
# Little-endian fields

Numbers in tables are written with the least significant byte first.
`LittleEndian.decode` reads such a list of bytes and `LittleEndian.encode`
writes one of a given width.  `slice` cuts a field out of a buffer, and
`word16At`, `word32At` and `word64At` read it as a machine word.

The lemmas are that a number that was read is written back (`encode_decode`),
the length of a written field (`length_encode`), and the length of a field that
lies inside its buffer (`length_slice`).
-/

namespace GuestFirmware.LittleEndian

/-! ## Numbers -/

/-- The number with the given base-256 digits, least significant first. -/
def decode : List UInt8 → Nat
  | [] => 0
  | byte :: rest => byte.toNat + 256 * decode rest

/-- The lowest `width` base-256 digits of a number, least significant first. -/
def encode : Nat → Nat → List UInt8
  | 0, _ => []
  | width + 1, value => UInt8.ofNat value :: encode width (value / 256)

@[simp] theorem length_encode (width value : Nat) : (encode width value).length = width := by
  induction width generalizing value with
  | zero => rfl
  | succ width ih => simp [encode, ih]

theorem encode_decode (bytes : List UInt8) : encode bytes.length (decode bytes) = bytes := by
  induction bytes with
  | nil => rfl
  | cons byte rest ih =>
    have hbyte := byte.toNat_lt
    have hdiv : (byte.toNat + 256 * decode rest) / 256 = decode rest := by omega
    have hhead : UInt8.ofNat (byte.toNat + 256 * decode rest) = byte := by
      apply UInt8.toNat_inj.1
      rw [UInt8.toNat_ofNat']
      omega
    simp only [List.length_cons, encode, decode, hdiv, hhead, ih]

/-! ## Fields of a buffer -/

/-- The `width` bytes of a buffer from `offset` on, fewer where it ends. -/
def slice (bytes : List UInt8) (offset width : Nat) : List UInt8 :=
  (bytes.drop offset).take width

theorem length_slice {bytes : List UInt8} {offset width : Nat}
    (h : offset + width ≤ bytes.length) : (slice bytes offset width).length = width := by
  simp [slice]
  omega

/-- The 16-bit field at `offset`. -/
def word16At (bytes : List UInt8) (offset : Nat) : UInt16 :=
  UInt16.ofNat (decode (slice bytes offset 2))

/-- The 32-bit field at `offset`. -/
def word32At (bytes : List UInt8) (offset : Nat) : UInt32 :=
  UInt32.ofNat (decode (slice bytes offset 4))

/-- The 64-bit field at `offset`. -/
def word64At (bytes : List UInt8) (offset : Nat) : UInt64 :=
  UInt64.ofNat (decode (slice bytes offset 8))

/-- The two bytes of a 16-bit field. -/
def ofWord16 (word : UInt16) : List UInt8 :=
  encode 2 word.toNat

/-- The four bytes of a 32-bit field. -/
def ofWord32 (word : UInt32) : List UInt8 :=
  encode 4 word.toNat

/-- The eight bytes of a 64-bit field. -/
def ofWord64 (word : UInt64) : List UInt8 :=
  encode 8 word.toNat

/-! ## Tables of equal rows -/

/-- The first `count` rows of `width` bytes. -/
def rows (width : Nat) : Nat → List UInt8 → List (List UInt8)
  | 0, _ => []
  | count + 1, bytes => bytes.take width :: rows width count (bytes.drop width)

@[simp] theorem length_rows (width count : Nat) (bytes : List UInt8) :
    (rows width count bytes).length = count := by
  induction count generalizing bytes with
  | zero => rfl
  | succ count ih => simp [rows, ih]

/-- Joined rows are the bytes they were cut from. -/
theorem flatten_rows (width count : Nat) (bytes : List UInt8) :
    (rows width count bytes).flatten = bytes.take (count * width) := by
  induction count generalizing bytes with
  | zero => simp [rows]
  | succ count ih =>
    rw [rows, List.flatten_cons, ih, Nat.succ_mul, Nat.add_comm, List.take_add]

end GuestFirmware.LittleEndian
