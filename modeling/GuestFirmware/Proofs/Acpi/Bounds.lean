import GuestFirmware.Acpi.Install
import GuestFirmware.Proofs.LittleEndian.Slices

/-!
# The walk stays inside its buffers

The walk over the hypervisor's tables looks at single bytes and at ranges of the
buffers that it was given.  This module repeats the walk with a check in front
of every such look.  A look that leaves its buffer ends the checked walk with
nothing, whatever memory holds and whatever the installer answers.

There is one lemma for each function of the walk: the checked function answers,
and it answers what the function answers.  `Checked.installTables_eq` is the
lemma for the whole walk, so no look leaves its buffer.
-/

namespace GuestFirmware.Acpi.Checked

open LittleEndian

variable {σ : Type}

/-- The bytes in a range of a buffer, nothing if the range leaves the buffer. -/
def range (bytes : List UInt8) (offset width : Nat) : Option (List UInt8) :=
  if offset + width ≤ bytes.length then some (slice bytes offset width) else none

theorem range_eq {bytes : List UInt8} {offset width : Nat} (h : offset + width ≤ bytes.length) :
    range bytes offset width = some (slice bytes offset width) :=
  if_pos h

/-! ## The root pointer -/

/-- The fields of a root pointer. -/
def decodeRsdp (bytes : List UInt8) : Option Rsdp := do
  let revision ← bytes[15]?
  let rsdt ← range bytes 16 4
  let length ← range bytes 20 4
  let xsdt ← range bytes 24 8
  return {
    revision := revision
    rsdtAddress := UInt32.ofNat (decode rsdt)
    length := UInt32.ofNat (decode length)
    xsdtAddress := UInt64.ofNat (decode xsdt) }

/-- The root pointer at an address. -/
def rsdpAt (memory : GuestMemory) (address : UInt64) : Option (Option Rsdp) :=
  match memory.read address Rsdp.shortSize with
  | none => some none
  | some short => do
    let signature ← range short 0 8
    if signature == Rsdp.signature && byteSum short == 0 then
      match memory.read address Rsdp.size with
      | none => return none
      | some bytes =>
        let rsdp ← decodeRsdp bytes
        return if rsdp.revision < 2 || rsdp.extendedValid memory address then some rsdp else none
    else return none

/-- The first of `count` addresses, 16 bytes apart, with a root pointer. -/
def findRsdp (memory : GuestMemory) (address : UInt64) : Nat → Option (Option UInt64)
  | 0 => some none
  | count + 1 => do
    let found ← rsdpAt memory address
    if found.isSome then return some address else findRsdp memory (address + 16) count

theorem decodeRsdp_eq {bytes : List UInt8} (h : bytes.length = Rsdp.size) :
    decodeRsdp bytes = some (Rsdp.decode bytes) := by
  have hsize : bytes.length = 36 := h
  have hrevision : bytes[15]? = some (bytes.getD 15 0) := by
    rw [List.getD_eq_getElem?_getD, List.getElem?_eq_getElem (by omega), Option.getD_some]
  rw [decodeRsdp, hrevision, range_eq (by omega), range_eq (by omega), range_eq (by omega)]
  rfl

theorem rsdpAt_eq (memory : GuestMemory) (address : UInt64) :
    rsdpAt memory address = some (Rsdp.at? memory address) := by
  rw [rsdpAt, Rsdp.at?]
  cases hshort : memory.read address Rsdp.shortSize with
  | none => rfl
  | some short =>
    have hlength : short.length = 20 := memory.length_of_read hshort
    have hslice : slice short 0 8 = short.take 8 := rfl
    dsimp only
    rw [range_eq (by omega), hslice, Option.bind_eq_bind, Option.bind_some, Rsdp.shortValid]
    split
    · cases hbytes : memory.read address Rsdp.size with
      | none => rfl
      | some bytes =>
        dsimp only
        rw [decodeRsdp_eq (memory.length_of_read hbytes)]
        rfl
    · rfl

theorem findRsdp_eq (memory : GuestMemory) (address : UInt64) (count : Nat) :
    findRsdp memory address count =
      some (GuestMemory.firstOf (fun address => (Rsdp.at? memory address).isSome) address
        count) := by
  induction count generalizing address with
  | zero => rfl
  | succ count ih =>
    rw [findRsdp, rsdpAt_eq, Option.bind_eq_bind, Option.bind_some, GuestMemory.firstOf, ih]
    split <;> rfl

/-! ## Tables -/

/-- The table at an address. -/
def readTable (memory : GuestMemory) (address : UInt64) :
    Option (Except AcpiError (List UInt8)) :=
  match memory.read address prologueSize with
  | none => some (.error (.invalidTable address))
  | some prologue => do
    let length := (UInt32.ofNat (decode (← range prologue 4 4))).toNat
    if length < prologueSize then return .error (.invalidTable address)
    else return match memory.read address length with
      | none => .error (.invalidTable address)
      | some table => .ok table

theorem readTable_eq (memory : GuestMemory) (address : UInt64) :
    readTable memory address = some (Acpi.readTable memory address) := by
  rw [readTable, Acpi.readTable]
  cases hprologue : memory.read address prologueSize with
  | none => rfl
  | some prologue =>
    have hlength : prologue.length = 8 := memory.length_of_read hprologue
    dsimp only
    rw [range_eq (by omega), Option.bind_eq_bind, Option.bind_some, word32At]
    split <;> rfl

/-- A table that was read holds its signature. -/
theorem four_le_length_of_readTable {memory : GuestMemory} {address : UInt64}
    {table : List UInt8} (h : Acpi.readTable memory address = .ok table) : 0 + 4 ≤ table.length := by
  unfold Acpi.readTable at h
  split at h
  · cases h
  · dsimp only at h
    split at h
    · cases h
    · next hshort =>
      split at h
      · cases h
      · next hread =>
        cases h
        have hprologue : prologueSize = 8 := rfl
        rw [memory.length_of_read hread]
        omega

/-- The addresses that a root table lists. -/
def listed (kind : RootKind) (body : List UInt8) : Option (List UInt64) := do
  let entries ← (rows kind.entryWidth (body.length / kind.entryWidth) body).mapM fun row => do
    return UInt64.ofNat (decode (← range row 0 kind.entryWidth))
  return entries.filter (· != 0)

theorem mapM_eq_of_forall {α β : Type} {f : α → Option β} {g : α → β} {items : List α}
    (h : ∀ item ∈ items, f item = some (g item)) : items.mapM f = some (items.map g) := by
  induction items with
  | nil => rfl
  | cons item rest ih =>
    rw [List.mapM_cons, h item List.mem_cons_self,
      ih fun other hother => h other (List.mem_cons_of_mem _ hother)]
    rfl

theorem listed_eq (kind : RootKind) (body : List UInt8) :
    listed kind body = some (kind.listed body) := by
  have hwhole : body.length / kind.entryWidth * kind.entryWidth ≤ body.length :=
    Nat.div_mul_le_self ..
  have hrow : ∀ row ∈ rows kind.entryWidth (body.length / kind.entryWidth) body,
      (do return UInt64.ofNat (decode (← range row 0 kind.entryWidth)) : Option UInt64) =
        some (UInt64.ofNat (decode row)) := by
    intro row hmem
    have hlength := length_of_mem_rows hwhole hmem
    rw [range_eq (by omega), slice, List.drop_zero, List.take_of_length_le (by omega)]
    rfl
  rw [listed, mapM_eq_of_forall hrow]
  rfl

/-- An address field. -/
def addressAt (width : Nat) (table : List UInt8) (offset : Nat) : Option (Option UInt64) :=
  if offset + width ≤ table.length then do
    let address := UInt64.ofNat (decode (← range table offset width))
    return if address ≠ 0 then some address else none
  else some none

/-- The pointers of an FADT. -/
def targetsOf (table : List UInt8) : Option FadtTargets := do
  return {
    facs := (← addressAt 8 table 132).or (← addressAt 4 table 36)
    dsdt := (← addressAt 8 table 140).or (← addressAt 4 table 40) }

theorem addressAt_eq (width : Nat) (table : List UInt8) (offset : Nat) :
    addressAt width table offset = some (Acpi.addressAt width table offset) := by
  rw [addressAt, Acpi.addressAt]
  by_cases hfits : offset + width ≤ table.length
  · simp only [hfits, if_true, true_and, range_eq hfits]
    rfl
  · simp only [hfits, if_false, false_and]

theorem targetsOf_eq (table : List UInt8) : targetsOf table = some (.ofFadt table) := by
  simp only [targetsOf, addressAt_eq]
  rfl

/-! ## The walk -/

/-- Reads the table at an address and hands it to the installer.  The signature
of the table is looked at for a message. -/
def installAt (memory : GuestMemory) (install : Installer σ) (address : UInt64) (state : σ) :
    Option (Except AcpiError (List UInt8) × σ) := do
  match ← readTable memory address with
  | .error failure => return (.error failure, state)
  | .ok table =>
    let _ ← range table 0 4
    match install table state with
    | (.error status, state) => return (.error (.refused status), state)
    | (.ok _, state) => return (.ok table, state)

/-- Installs the listed tables in order. -/
def installListed (memory : GuestMemory) (install : Installer σ) :
    List UInt64 → Nat → FadtTargets → σ → Option (Except AcpiError (Nat × FadtTargets) × σ)
  | [], installed, targets, state => some (.ok (installed, targets), state)
  | address :: rest, installed, targets, state => do
    match ← installAt memory install address state with
    | (.error failure, state) => return (.error failure, state)
    | (.ok table, state) =>
      let targets ← if (← range table 0 4) == fadtSignature then targetsOf table else some targets
      installListed memory install rest (installed + 1) targets state

/-- Installs tables in order and counts on. -/
def installUnlisted (memory : GuestMemory) (install : Installer σ) :
    List UInt64 → Nat → σ → Option (Except AcpiError Nat × σ)
  | [], installed, state => some (.ok installed, state)
  | address :: rest, installed, state => do
    match ← installAt memory install address state with
    | (.error failure, state) => return (.error failure, state)
    | (.ok _, state) => installUnlisted memory install rest (installed + 1) state

/-- Installs all tables below the root table at an address. -/
def installRoot (memory : GuestMemory) (install : Installer σ) (kind : RootKind)
    (root : UInt64) (state : σ) : Option (Except AcpiError Nat × σ) := do
  match ← readTable memory root with
  | .error failure => return (.error failure, state)
  | .ok table =>
    if table.length < headerSize then return (.error (.invalidTable root), state)
    else
      let addresses ← listed kind (table.drop headerSize)
      match ← installListed memory install addresses 0 {} state with
      | (.error failure, state) => return (.error failure, state)
      | (.ok (installed, targets), state) =>
        match ← installUnlisted memory install targets.addresses installed state with
        | (.error failure, state) => return (.error failure, state)
        | (.ok installed, state) =>
          return (if installed = 0 then .error .noTables else .ok installed, state)

/-- Installs every table that the hypervisor's root pointer leads to. -/
def installTables (memory : GuestMemory) (install : Installer σ) (state : σ) :
    Option (Except AcpiError Nat × σ) := do
  match ← findRsdp memory scanStart ((scanEnd.toNat - scanStart.toNat + 15) / 16) with
  | none => return (.error .rsdpNotFound, state)
  | some address =>
    match ← rsdpAt memory address with
    | none => return (.error .rsdpNotFound, state)
    | some rsdp =>
      if rsdp.root.2 = 0 then return (.error .noTables, state)
      else installRoot memory install rsdp.root.1 rsdp.root.2 state

theorem installAt_eq (memory : GuestMemory) (install : Installer σ) (address : UInt64)
    (state : σ) :
    installAt memory install address state = some (Acpi.installAt memory install address state) := by
  rw [installAt, Acpi.installAt, readTable_eq, Option.bind_eq_bind, Option.bind_some]
  cases hread : Acpi.readTable memory address with
  | error failure => rfl
  | ok table =>
    dsimp only
    rw [range_eq (four_le_length_of_readTable hread)]
    rcases hanswer : install table state with ⟨_ | _, after⟩ <;> rfl

/-- What was installed was read before. -/
theorem readTable_of_installAt {memory : GuestMemory} {install : Installer σ} {address : UInt64}
    {state after : σ} {table : List UInt8}
    (h : Acpi.installAt memory install address state = (.ok table, after)) :
    Acpi.readTable memory address = .ok table := by
  unfold Acpi.installAt at h
  cases hread : Acpi.readTable memory address with
  | error failure =>
    rw [hread] at h
    cases h
  | ok whole =>
    rw [hread] at h
    dsimp only at h
    split at h
    · cases h
    · cases h
      rfl

theorem installListed_eq (memory : GuestMemory) (install : Installer σ) (addresses : List UInt64)
    (installed : Nat) (targets : FadtTargets) (state : σ) :
    installListed memory install addresses installed targets state =
      some (Acpi.installListed memory install addresses installed targets state) := by
  induction addresses generalizing installed targets state with
  | nil => rfl
  | cons address rest ih =>
    rw [installListed, Acpi.installListed, installAt_eq, Option.bind_eq_bind, Option.bind_some]
    rcases hstep : Acpi.installAt memory install address state with ⟨_ | table, after⟩
    · rfl
    · have hsignature : range table 0 4 = some (table.take 4) :=
        range_eq (four_le_length_of_readTable (readTable_of_installAt hstep))
      dsimp only
      rw [hsignature, Option.bind_eq_bind, Option.bind_some, targetsOf_eq, isFadt, signatureOf]
      split
      · rw [Option.bind_eq_bind, Option.bind_some, ih]
      · rw [Option.bind_eq_bind, Option.bind_some, ih]

theorem installUnlisted_eq (memory : GuestMemory) (install : Installer σ)
    (addresses : List UInt64) (installed : Nat) (state : σ) :
    installUnlisted memory install addresses installed state =
      some (Acpi.installUnlisted memory install addresses installed state) := by
  induction addresses generalizing installed state with
  | nil => rfl
  | cons address rest ih =>
    rw [installUnlisted, Acpi.installUnlisted, installAt_eq, Option.bind_eq_bind,
      Option.bind_some]
    rcases Acpi.installAt memory install address state with ⟨_ | table, after⟩
    · rfl
    · exact ih (installed + 1) after

theorem installRoot_eq (memory : GuestMemory) (install : Installer σ) (kind : RootKind)
    (root : UInt64) (state : σ) :
    installRoot memory install kind root state =
      some (Acpi.installRoot memory install kind root state) := by
  rw [installRoot, Acpi.installRoot, readTable_eq, Option.bind_eq_bind, Option.bind_some]
  cases Acpi.readTable memory root with
  | error failure => rfl
  | ok table =>
    dsimp only
    split
    · rfl
    · rw [listed_eq, Option.bind_eq_bind, Option.bind_some, installListed_eq,
        Option.bind_eq_bind, Option.bind_some]
      rcases Acpi.installListed memory install (kind.listed (table.drop headerSize)) 0 {} state with
        ⟨_ | ⟨installed, targets⟩, middle⟩
      · rfl
      · dsimp only
        rw [installUnlisted_eq, Option.bind_eq_bind, Option.bind_some]
        rcases Acpi.installUnlisted memory install targets.addresses installed middle with
          ⟨_ | _, after⟩ <;> rfl

/-- No look of the walk leaves its buffer. -/
theorem installTables_eq (memory : GuestMemory) (install : Installer σ) (state : σ) :
    installTables memory install state = some (Acpi.installTables memory install state) := by
  rw [installTables, Acpi.installTables, findRsdp_eq, Option.bind_eq_bind, Option.bind_some,
    Rsdp.find, GuestMemory.firstAligned]
  cases GuestMemory.firstOf (fun address => (Rsdp.at? memory address).isSome) scanStart
      ((scanEnd.toNat - scanStart.toNat + 15) / 16) with
  | none => rfl
  | some address =>
    dsimp only
    rw [rsdpAt_eq, Option.bind_eq_bind, Option.bind_some, Option.bind_some]
    cases Rsdp.at? memory address with
    | none => rfl
    | some rsdp =>
      dsimp only
      split
      · rfl
      · exact installRoot_eq memory install rsdp.root.1 rsdp.root.2 state

end GuestFirmware.Acpi.Checked
