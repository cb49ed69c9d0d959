import GuestFirmware.Acpi.Rsdp
import GuestFirmware.Acpi.Table
import GuestFirmware.Platform.Monad

/-!
# Installing the hypervisor's tables

The hypervisor built all ACPI tables.  The firmware walks them and hands a copy
of each to an `Installer`: first the tables that the root table lists, then the
FACS and the DSDT that the last listed FADT points at.  The walk stops at the
first table that cannot be read or is refused.

`installTables` is the walk.  `installListed` and `installUnlisted` are its two
parts.
-/

namespace GuestFirmware.Acpi

/-- A party that takes copies of tables.  It has a state of its own and may
refuse any table. -/
abbrev Installer (σ : Type) : Type :=
  List UInt8 → σ → Except Status Unit × σ

/-- An installer over a protocol that answers each table with a status. -/
def Installer.ofProtocol {σ : Type} (call : List UInt8 → σ → Status × σ) : Installer σ :=
  fun table state =>
    let (status, state) := call table state
    (status.guard (), state)

/-- An installer over a protocol for which every status but success is a
refusal. -/
def Installer.strict {σ : Type} (call : List UInt8 → σ → Status × σ) : Installer σ :=
  fun table state =>
    let (status, state) := call table state
    (if status = .success then .ok () else .error status, state)

/-- The root table that a pointer names and its address.  The XSDT is preferred
from revision 2 on, if there is one. -/
def Rsdp.root (rsdp : Rsdp) : RootKind × UInt64 :=
  if 2 ≤ rsdp.revision ∧ rsdp.xsdtAddress ≠ 0 then (.xsdt, rsdp.xsdtAddress)
  else (.rsdt, rsdp.rsdtAddress.toUInt64)

variable {σ : Type}

/-- Reads the table at an address and hands it to the installer. -/
def installAt (memory : GuestMemory) (install : Installer σ) (address : UInt64) (state : σ) :
    Except AcpiError (List UInt8) × σ :=
  match readTable memory address with
  | .error failure => (.error failure, state)
  | .ok table =>
    match install table state with
    | (.error status, state) => (.error (.refused status), state)
    | (.ok _, state) => (.ok table, state)

/-- Installs the listed tables in order.  The answer holds how many were
installed and the targets of the last FADT among them. -/
def installListed (memory : GuestMemory) (install : Installer σ) :
    List UInt64 → Nat → FadtTargets → σ → Except AcpiError (Nat × FadtTargets) × σ
  | [], installed, targets, state => (.ok (installed, targets), state)
  | address :: rest, installed, targets, state =>
    match installAt memory install address state with
    | (.error failure, state) => (.error failure, state)
    | (.ok table, state) =>
      let targets := if isFadt table then FadtTargets.ofFadt table else targets
      installListed memory install rest (installed + 1) targets state

/-- Installs tables in order and counts on. -/
def installUnlisted (memory : GuestMemory) (install : Installer σ) :
    List UInt64 → Nat → σ → Except AcpiError Nat × σ
  | [], installed, state => (.ok installed, state)
  | address :: rest, installed, state =>
    match installAt memory install address state with
    | (.error failure, state) => (.error failure, state)
    | (.ok _, state) => installUnlisted memory install rest (installed + 1) state

/-- Installs all tables below the root table at an address. -/
def installRoot (memory : GuestMemory) (install : Installer σ) (kind : RootKind)
    (root : UInt64) (state : σ) : Except AcpiError Nat × σ :=
  match readTable memory root with
  | .error failure => (.error failure, state)
  | .ok table =>
    if table.length < headerSize then (.error (.invalidTable root), state)
    else match installListed memory install (kind.listed (table.drop headerSize)) 0 {} state with
      | (.error failure, state) => (.error failure, state)
      | (.ok (installed, targets), state) =>
        match installUnlisted memory install targets.addresses installed state with
        | (.error failure, state) => (.error failure, state)
        | (.ok installed, state) =>
          (if installed = 0 then .error .noTables else .ok installed, state)

/-- Installs every table that the hypervisor's root pointer leads to and answers
how many there were. -/
def installTables (memory : GuestMemory) (install : Installer σ) (state : σ) :
    Except AcpiError Nat × σ :=
  match (Rsdp.find memory scanStart scanEnd).bind (Rsdp.at? memory) with
  | none => (.error .rsdpNotFound, state)
  | some rsdp =>
    let (kind, root) := rsdp.root
    if root = 0 then (.error .noTables, state)
    else installRoot memory install kind root state

/-- The component that installs the tables through the ACPI table protocol. -/
def runComponent {ε : Type} (memory : GuestMemory) (call : List UInt8 → σ → Status × σ) :
    PlatformM σ ε (Except ComponentError Unit) := do
  match ← PlatformM.call (Services.locateProtocol .acpiTable) with
  | .error status => return .error (.ofStatus status)
  | .ok false => return .error .notFound
  | .ok true =>
    let platform ← get
    let (result, device) := installTables memory (.ofProtocol call) platform.device
    set { platform with device := device }
    return match result with
      | .error failure => .error failure.component
      | .ok _ => .ok ()

end GuestFirmware.Acpi
