import GuestFirmware.Arithmetic
import GuestFirmware.LittleEndian
import GuestFirmware.Memory

/-!
# The SMBIOS entry point

The hypervisor leaves its SMBIOS structure table in guest memory and, in the
legacy BIOS area, an entry point that names it.  `EntryPoint.at?` reads the one
at an address and checks its anchors and checksum.  `EntryPoint.find` searches
the area for the first one.
-/

namespace GuestFirmware.Smbios

open LittleEndian

/-- Start of the area that is searched for the entry point. -/
def scanStart : UInt64 := 0xF0000

/-- End of the area; the search stays below it. -/
def scanEnd : UInt64 := 0xFFFFF

/-- The 32-bit entry point of SMBIOS 2.  The anchors are left out. -/
structure EntryPoint where
  checksum : UInt8
  /-- The number of bytes that the checksum covers. -/
  length : UInt8
  majorVersion : UInt8
  minorVersion : UInt8
  maxStructureSize : UInt16
  revision : UInt8
  formattedArea : List UInt8
  intermediateChecksum : UInt8
  tableLength : UInt16
  tableAddress : UInt32
  structureCount : UInt16
  bcdRevision : UInt8
  deriving DecidableEq, Repr

namespace EntryPoint

/-- Bytes of the entry point. -/
def size : Nat := 31

/-- The text `_SM_`. -/
def anchor : List UInt8 := [0x5F, 0x53, 0x4D, 0x5F]

/-- The text `_DMI_`. -/
def intermediateAnchor : List UInt8 := [0x5F, 0x44, 0x4D, 0x49, 0x5F]

/-- The fields of an entry point of `size` bytes. -/
def decode (bytes : List UInt8) : EntryPoint where
  checksum := bytes.getD 4 0
  length := bytes.getD 5 0
  majorVersion := bytes.getD 6 0
  minorVersion := bytes.getD 7 0
  maxStructureSize := word16At bytes 8
  revision := bytes.getD 10 0
  formattedArea := slice bytes 11 5
  intermediateChecksum := bytes.getD 21 0
  tableLength := word16At bytes 22
  tableAddress := word32At bytes 24
  structureCount := word16At bytes 28
  bcdRevision := bytes.getD 30 0

/-- Both anchors are in place. -/
def anchored (bytes : List UInt8) : Bool :=
  slice bytes 0 4 == anchor && slice bytes 16 5 == intermediateAnchor

/-- The entry point at an address, if there is a valid one.  The checksum
covers as many bytes as the entry point states. -/
def at? (memory : GuestMemory) (address : UInt64) : Option EntryPoint :=
  match memory.read address size with
  | none => none
  | some bytes =>
    if anchored bytes then
      let entryPoint := decode bytes
      match memory.read address entryPoint.length.toNat with
      | none => none
      | some covered => if byteSum covered = 0 then some entryPoint else none
    else none

/-- The first valid entry point of the area and its address. -/
def find (memory : GuestMemory) : Option (UInt64 × EntryPoint) :=
  match GuestMemory.firstAligned (fun address => (at? memory address).isSome) scanStart scanEnd with
  | none => none
  | some address => (at? memory address).map fun entryPoint => (address, entryPoint)

end EntryPoint

end GuestFirmware.Smbios
