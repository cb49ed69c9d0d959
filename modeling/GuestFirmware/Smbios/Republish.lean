import GuestFirmware.Platform.Services
import GuestFirmware.Smbios.EntryPoint
import GuestFirmware.Smbios.Record

/-!
# Republishing the hypervisor's SMBIOS table

The records of the hypervisor's structure table are handed to a `Sink` one by
one, up to the first that is refused.  The component hands them to the SMBIOS
service of the firmware, a `Service`, and has it publish its table when none was
refused.  A guest without an SMBIOS table is no error.
-/

namespace GuestFirmware.Smbios

/-- Why the records were not all taken. -/
inductive SmbiosError
  /-- No valid entry point in the searched area. -/
  | entryPointNotFound
  /-- The structure table is not readable. -/
  | tableUnreadable
  /-- A record was refused with this status. -/
  | refused (status : Status)
  deriving DecidableEq, Repr

/-- The name of a failure in messages. -/
def SmbiosError.text : SmbiosError → String
  | entryPointNotFound => "EntryPointNotFound"
  | tableUnreadable => "TableUnreadable"
  | refused _ => "Add"

/-- The cause that the dispatcher sees. -/
def SmbiosError.component : SmbiosError → ComponentError
  | entryPointNotFound => .notFound
  | tableUnreadable => .volumeCorrupted
  | refused status => .ofStatus status

/-- A party that takes records.  It has a state of its own and may refuse any
record. -/
abbrev Sink (σ : Type) : Type :=
  List UInt8 → σ → Except Status Unit × σ

/-- The service, with errors of type `ε`.  It has a state of its own and may
refuse anything. -/
structure Service (σ ε : Type) where
  /-- Takes a record from a producer, which may be unnamed. -/
  add : Option Handle → List UInt8 → σ → Except ε Unit × σ
  /-- Publishes the table of all records taken so far. -/
  publish : σ → Except ε Unit × σ
  /-- The status that the refusal of a record is turned into. -/
  status : ε → Status
  /-- The cause that the rest of the firmware sees when publishing fails. -/
  component : ε → ComponentError

variable {σ ε : Type}

/-- The sink in front of the SMBIOS service.  The records have no producer. -/
def Service.sink (service : Service σ ε) : Sink σ := fun record state =>
  match service.add none record state with
  | (.ok _, state) => (.ok (), state)
  | (.error failure, state) => (.error (service.status failure), state)

/-- The records of the table that an entry point names. -/
def EntryPoint.records (memory : GuestMemory) (entryPoint : EntryPoint) :
    Except SmbiosError (List (List UInt8)) :=
  match memory.read entryPoint.tableAddress.toUInt64 entryPoint.tableLength.toNat with
  | none => .error .tableUnreadable
  | some table => .ok (Smbios.records table)

/-- Hands records over in order, counting on from `added`. -/
def addRecords (sink : Sink σ) : List (List UInt8) → Nat → σ → Except SmbiosError Nat × σ
  | [], added, state => (.ok added, state)
  | record :: rest, added, state =>
    match sink record state with
    | (.error status, state) => (.error (.refused status), state)
    | (.ok _, state) => addRecords sink rest (added + 1) state

/-- Hands over every record of the hypervisor's table and answers how many there
were. -/
def installStructures (memory : GuestMemory) (sink : Sink σ) (state : σ) :
    Except SmbiosError Nat × σ :=
  match EntryPoint.find memory with
  | none => (.error .entryPointNotFound, state)
  | some (_, entryPoint) =>
    match entryPoint.records memory with
    | .error failure => (.error failure, state)
    | .ok records => addRecords sink records 0 state

/-- The component that copies the hypervisor's records into the service and has
it publish them. -/
def republish (memory : GuestMemory) (service : Service σ ε) (state : σ) :
    Except ComponentError Unit × σ :=
  match installStructures memory service.sink state with
  | (.error .entryPointNotFound, state) => (.ok (), state)
  | (.error failure, state) => (.error failure.component, state)
  | (.ok _, state) =>
    match service.publish state with
    | (.error failure, state) => (.error (service.component failure), state)
    | (.ok _, state) => (.ok (), state)

end GuestFirmware.Smbios
