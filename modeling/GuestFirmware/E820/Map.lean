import GuestFirmware.E820.Entry
import GuestFirmware.Memory
import GuestFirmware.Status

/-!
# The memory map

The hypervisor leaves a map of guest memory at a fixed address: a signature of
which three bytes count, the number of entries, and the entries.  `decode`
reads a map from a buffer and `ofMemory` from guest memory; `encode` writes one.
-/

namespace GuestFirmware.E820

open LittleEndian

/-- Why there is no usable map, or no answer in it. -/
inductive E820Error
  | invalidSignature
  /-- The map has no entries. -/
  | empty
  /-- The map is longer than the bytes at hand. -/
  | truncated
  /-- No entry of the map is what was asked for. -/
  | notFound
  deriving DecidableEq, Repr

/-- The name of a failure in messages. -/
def E820Error.text : E820Error → String
  | invalidSignature => "InvalidSignature"
  | empty => "Empty"
  | truncated => "Truncated"
  | notFound => "NotFound"

/-- The cause that a dispatcher sees. -/
def E820Error.component : E820Error → ComponentError
  | invalidSignature => .unsupported
  | empty => .unsupported
  | truncated => .volumeCorrupted
  | notFound => .notFound

/-- Where the hypervisor leaves the map. -/
def mapAddress : UInt64 := 0xEF000

/-- The text `820`. -/
def signature : List UInt8 := [0x38, 0x32, 0x30]

/-- Bytes in front of the entries. -/
def headerSize : Nat := 8

/-- The number of entries that a header states. -/
def entryCount (header : List UInt8) : Except E820Error Nat :=
  if header.take 3 ≠ signature then .error .invalidSignature
  else
    let count := (word32At header 4).toNat
    if count = 0 then .error .empty else .ok count

/-- The entries of the map in a buffer.  Bytes after the last entry are not
looked at. -/
def decode (bytes : List UInt8) : Except E820Error (List Entry) :=
  if bytes.length < headerSize then .error .truncated
  else match entryCount (bytes.take headerSize) with
    | .error failure => .error failure
    | .ok count =>
      let body := bytes.drop headerSize
      if body.length < count * Entry.size then .error .truncated
      else .ok ((rows Entry.size count body).map Entry.decode)

/-- The map with the given entries.  `mark` is the byte of the signature that
does not count. -/
def encode (mark : UInt8) (entries : List Entry) : List UInt8 :=
  signature ++ [mark] ++ LittleEndian.encode 4 entries.length ++ entries.flatMap Entry.encode

/-- The entries of the map at an address of guest memory. -/
def ofMemory (memory : GuestMemory) (address : UInt64) : Except E820Error (List Entry) :=
  match memory.read address headerSize with
  | none => .error .truncated
  | some header =>
    match entryCount header with
    | .error failure => .error failure
    | .ok count =>
      match memory.read address (headerSize + count * Entry.size) with
      | none => .error .truncated
      | some bytes => decode bytes

end GuestFirmware.E820
