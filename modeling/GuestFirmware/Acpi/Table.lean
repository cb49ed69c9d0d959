import GuestFirmware.LittleEndian
import GuestFirmware.Memory
import GuestFirmware.Status

/-!
# System description tables

Every ACPI table starts with a signature of four bytes and its length.
`readTable` reads a whole table.  A root table lists the addresses of further
tables, in 4-byte entries (RSDT) or in 8-byte entries (XSDT); `RootKind.listed`
are those addresses.  The FADT points at two tables that no root table lists;
`Fadt.facs` and `Fadt.dsdt` are their addresses.
-/

namespace GuestFirmware.Acpi

open LittleEndian

/-- Why the hypervisor's tables could not be installed. -/
inductive AcpiError
  /-- No valid root pointer in the searched area. -/
  | rsdpNotFound
  /-- The table at this address is not readable or too short. -/
  | invalidTable (address : UInt64)
  /-- The root table lists no tables. -/
  | noTables
  /-- A table was refused with this status. -/
  | refused (status : Status)
  deriving DecidableEq, Repr

/-- The name of a failure in messages. -/
def AcpiError.text : AcpiError → String
  | rsdpNotFound => "RsdpNotFound"
  | invalidTable _ => "InvalidTable"
  | noTables => "NotFound"
  | refused _ => "Install"

/-- The cause that the dispatcher sees. -/
def AcpiError.component : AcpiError → ComponentError
  | rsdpNotFound => .notFound
  | invalidTable _ => .volumeCorrupted
  | noTables => .notFound
  | refused status => .ofStatus status

/-! ## Whole tables -/

/-- Signature and length, which every table starts with. -/
def prologueSize : Nat := 8

/-- The signature of a table. -/
def signatureOf (table : List UInt8) : List UInt8 :=
  table.take 4

/-- The table at an address, as long as its length field says. -/
def readTable (memory : GuestMemory) (address : UInt64) : Except AcpiError (List UInt8) :=
  match memory.read address prologueSize with
  | none => .error (.invalidTable address)
  | some prologue =>
    let length := (word32At prologue 4).toNat
    if length < prologueSize then .error (.invalidTable address)
    else match memory.read address length with
      | none => .error (.invalidTable address)
      | some table => .ok table

/-! ## Root tables -/

/-- The two forms of a root table. -/
inductive RootKind
  | rsdt
  | xsdt
  deriving DecidableEq, Repr

/-- Length of the header in front of the entries. -/
def headerSize : Nat := 36

/-- Bytes of one entry. -/
def RootKind.entryWidth : RootKind → Nat
  | rsdt => 4
  | xsdt => 8

/-- The entries behind the header.  Bytes that do not fill an entry are not
looked at. -/
def RootKind.entries (kind : RootKind) (body : List UInt8) : List UInt64 :=
  (rows kind.entryWidth (body.length / kind.entryWidth) body).map
    fun row => UInt64.ofNat (decode row)

/-- The addresses that a root table lists.  An entry of zero lists nothing. -/
def RootKind.listed (kind : RootKind) (body : List UInt8) : List UInt64 :=
  (kind.entries body).filter (· != 0)

/-! ## The fixed description table -/

/-- The text `FACP`. -/
def fadtSignature : List UInt8 := [0x46, 0x41, 0x43, 0x50]

/-- A table of this signature is the FADT. -/
def isFadt (table : List UInt8) : Bool :=
  signatureOf table == fadtSignature

/-- An address field, absent when it is zero or the table ends before it. -/
def addressAt (width : Nat) (table : List UInt8) (offset : Nat) : Option UInt64 :=
  let address := UInt64.ofNat (decode (slice table offset width))
  if offset + width ≤ table.length ∧ address ≠ 0 then some address else none

/-- The 64-bit field of a pair if it is present, else the 32-bit one. -/
def pointerAt (table : List UInt8) (offset extendedOffset : Nat) : Option UInt64 :=
  (addressAt 8 table extendedOffset).or (addressAt 4 table offset)

/-- The tables that only the FADT points at. -/
structure FadtTargets where
  facs : Option UInt64 := none
  dsdt : Option UInt64 := none
  deriving DecidableEq, Repr

/-- The pointers of an FADT. -/
def FadtTargets.ofFadt (table : List UInt8) : FadtTargets where
  facs := pointerAt table 36 132
  dsdt := pointerAt table 40 140

/-- The addresses that are present, the FACS first. -/
def FadtTargets.addresses (targets : FadtTargets) : List UInt64 :=
  targets.facs.toList ++ targets.dsdt.toList

end GuestFirmware.Acpi
