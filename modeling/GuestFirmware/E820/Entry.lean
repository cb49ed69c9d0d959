import GuestFirmware.Arithmetic
import GuestFirmware.LittleEndian

/-!
# Entries of the memory map

An entry of the E820 map is a range of guest physical memory and its type.
`Entry.encode` and `Entry.decode` are its 20-byte form, and `Entry.text` is its
form in messages.
-/

namespace GuestFirmware.E820

open LittleEndian

/-- What a range of memory is for. -/
inductive Kind
  | memory
  | reserved
  | acpi
  | nvs
  | unusable
  | other (code : UInt32)
  deriving DecidableEq, Repr

namespace Kind

/-- The meaning of a type code. -/
def ofCode (code : UInt32) : Kind :=
  if code = 1 then memory
  else if code = 2 then reserved
  else if code = 3 then acpi
  else if code = 4 then nvs
  else if code = 5 then unusable
  else other code

/-- The name of a type in messages. -/
def text : Kind → String
  | memory => "Memory"
  | reserved => "Reserved"
  | acpi => "Acpi"
  | nvs => "Nvs"
  | unusable => "Unusable"
  | other code => "Other(" ++ toString code.toNat ++ ")"

end Kind

/-- A range of guest physical memory. -/
structure Entry where
  base : UInt64
  length : UInt64
  typeCode : UInt32
  deriving DecidableEq, Repr

namespace Entry

/-- The first address at or above which memory is high. -/
def fourGiB : UInt64 := 0x100000000

/-- What the range is for. -/
def kind (entry : Entry) : Kind :=
  .ofCode entry.typeCode

/-- The first address past the range, at most the last address there is. -/
def limit (entry : Entry) : UInt64 :=
  saturatingAdd entry.base entry.length.toNat

/-- The range is RAM. -/
def isRam (entry : Entry) : Bool :=
  entry.kind == .memory

/-- The range is a high reserved one, which the hypervisor uses as the 64-bit
aperture of the PCI host. -/
def isAperture (entry : Entry) : Bool :=
  fourGiB ≤ entry.base && entry.kind == .reserved

/-! ## The form in memory -/

/-- Bytes of one entry. -/
def size : Nat := 20

/-- The entry in memory. -/
def encode (entry : Entry) : List UInt8 :=
  ofWord64 entry.base ++ ofWord64 entry.length ++ ofWord32 entry.typeCode

/-- The entry that `size` bytes hold. -/
def decode (bytes : List UInt8) : Entry where
  base := word64At bytes 0
  length := word64At bytes 8
  typeCode := word32At bytes 16

/-! ## The form in messages -/

/-- A number in lower-case hexadecimal digits. -/
def hexText (value : UInt64) : String :=
  "0x" ++ String.ofList (Nat.toDigits 16 value.toNat)

/-- The entry in messages. -/
def text (entry : Entry) : String :=
  "E820Entry \x7b base: " ++ hexText entry.base ++ ", length: " ++ hexText entry.length
    ++ ", type: " ++ entry.kind.text ++ " \x7d"

end Entry

end GuestFirmware.E820
