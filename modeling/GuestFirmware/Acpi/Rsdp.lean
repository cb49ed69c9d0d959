import GuestFirmware.Arithmetic
import GuestFirmware.LittleEndian
import GuestFirmware.Memory

/-!
# The root system description pointer

The hypervisor leaves a pointer to its ACPI tables, the RSDP, in the legacy
BIOS area.  `Rsdp.at?` reads the one at an address and checks its signature and
checksums.  `Rsdp.find` searches a range for one.
-/

namespace GuestFirmware.Acpi

open LittleEndian

/-- Start of the legacy BIOS area that is searched for the pointer. -/
def scanStart : UInt64 := 0xE0000

/-- First address past the legacy BIOS area that is searched. -/
def scanEnd : UInt64 := 0x100000

/-- The fields of the pointer that lead to the tables. -/
structure Rsdp where
  revision : UInt8
  rsdtAddress : UInt32
  /-- Length of the whole structure, valid from revision 2 on. -/
  length : UInt32
  /-- Valid from revision 2 on. -/
  xsdtAddress : UInt64
  deriving DecidableEq, Repr

namespace Rsdp

/-- The text `RSD PTR `, blank included. -/
def signature : List UInt8 := [0x52, 0x53, 0x44, 0x20, 0x50, 0x54, 0x52, 0x20]

/-- Length of the first version of the structure, which the first checksum
covers. -/
def shortSize : Nat := 20

/-- Length of the structure from revision 2 on. -/
def size : Nat := 36

/-- The fields of a structure of `size` bytes. -/
def decode (bytes : List UInt8) : Rsdp where
  revision := bytes.getD 15 0
  rsdtAddress := word32At bytes 16
  length := word32At bytes 20
  xsdtAddress := word64At bytes 24

/-- Signature and checksum of the first version of the structure. -/
def shortValid (bytes : List UInt8) : Bool :=
  bytes.take 8 == signature && byteSum bytes == 0

/-- The second checksum, which covers the length that the structure states. -/
def extendedValid (memory : GuestMemory) (address : UInt64) (rsdp : Rsdp) : Bool :=
  size ≤ rsdp.length.toNat &&
    (memory.read address rsdp.length.toNat).any fun bytes => byteSum bytes == 0

/-- The pointer at an address, if there is a valid one.  All `size` bytes must
be readable; the second checksum is checked from revision 2 on. -/
def at? (memory : GuestMemory) (address : UInt64) : Option Rsdp :=
  match memory.read address shortSize with
  | none => none
  | some short =>
    if shortValid short then
      match memory.read address size with
      | none => none
      | some bytes =>
        let rsdp := decode bytes
        if rsdp.revision < 2 || extendedValid memory address rsdp then some rsdp else none
    else none

/-- The first address on a 16-byte boundary of `start` that holds a valid
pointer. -/
def find (memory : GuestMemory) (start stop : UInt64) : Option UInt64 :=
  GuestMemory.firstAligned (fun address => (at? memory address).isSome) start stop

end Rsdp

end GuestFirmware.Acpi
