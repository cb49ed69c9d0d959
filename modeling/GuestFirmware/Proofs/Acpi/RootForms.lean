import GuestFirmware.Proofs.Acpi.Walk

/-!
# Both forms of a root table lead to the same walk

A root table lists addresses of 32 bits in entries of four bytes (RSDT) or of
eight bytes (XSDT).  Two memories whose root tables list the same addresses, one
in each form, give the firmware the same tables in the same order and the same
answer, as long as they agree on the tables themselves.

There are three groups.

* Entries.  `listedAddresses_of_lists` says that the width of the entries does not
  show in the listed addresses.
* Agreement.  Where two memories agree the same tables are read
  (`readTable_congr`), the same worklist results (`worklist_congr`) and the same
  tables are offered (`offer_congr`).
* `installTables_forms` is the result.
-/

namespace GuestFirmware.Acpi

open LittleEndian

variable {σ : Type}

/-! ## Entries -/

/-- The bytes of entries of one form that hold addresses of 32 bits. -/
def RootKind.entriesOf (kind : RootKind) (addresses : List UInt32) : List UInt8 :=
  (addresses.map fun address => encode kind.entryWidth address.toNat).flatten

/-- The root pointer names a root table of one form that lists the addresses.
Behind the entries there may be bytes that do not fill another one. -/
structure Lists (memory : GuestMemory) (kind : RootKind) (addresses : List UInt32)
    (root : UInt64) (table : List UInt8) : Prop where
  named : RootNamed memory kind root
  root_ne_zero : root ≠ 0
  tableAt : TableAt memory root table
  header : headerSize ≤ table.length
  entries : ∃ rest, rest.length < kind.entryWidth ∧
    table.drop headerSize = kind.entriesOf addresses ++ rest

theorem decode_encode_address (kind : RootKind) (address : UInt32) :
    UInt64.ofNat (decode (encode kind.entryWidth address.toNat)) = address.toUInt64 := by
  have hlt : address.toNat < 256 ^ kind.entryWidth := by
    refine Nat.lt_of_lt_of_le address.toNat_lt ?_
    cases kind with
    | rsdt => decide
    | xsdt => decide
  have hword := address.toNat_lt
  apply UInt64.toNat_inj.1
  rw [decode_encode, Nat.mod_eq_of_lt hlt, UInt64.toNat_ofNat', UInt32.toNat_toUInt64,
    Nat.mod_eq_of_lt (by omega)]

theorem entries_entriesOf (kind : RootKind) (addresses : List UInt32) {rest : List UInt8}
    (hrest : rest.length < kind.entryWidth) :
    kind.entries (kind.entriesOf addresses ++ rest) = addresses.map UInt32.toUInt64 := by
  have hparts : ∀ part ∈ addresses.map fun address => encode kind.entryWidth address.toNat,
      part.length = kind.entryWidth := by
    intro part hpart
    obtain ⟨address, -, rfl⟩ := List.mem_map.1 hpart
    exact length_encode _ _
  have hlength : (kind.entriesOf addresses).length = addresses.length * kind.entryWidth := by
    rw [RootKind.entriesOf, List.length_flatten, List.map_congr_left hparts, List.map_const',
      List.sum_replicate_nat, List.length_map]
  have hcount : (kind.entriesOf addresses ++ rest).length / kind.entryWidth = addresses.length := by
    rw [List.length_append, hlength, Nat.mul_comm, Nat.mul_add_div (by omega),
      Nat.div_eq_of_lt hrest, Nat.add_zero]
  have hrows := rows_flatten hparts rest
  rw [List.length_map] at hrows
  rw [RootKind.entries, hcount, RootKind.entriesOf, hrows, List.map_map]
  exact List.map_congr_left fun address _ => decode_encode_address kind address

/-- The listed addresses do not depend on the form. -/
theorem listedAddresses_of_lists {memory : GuestMemory} {kind : RootKind}
    {addresses : List UInt32} {root : UInt64} {table : List UInt8}
    (h : Lists memory kind addresses root table) :
    listedAddresses kind table = (addresses.map UInt32.toUInt64).filter (· != 0) := by
  obtain ⟨rest, hrest, hentries⟩ := h.entries
  rw [← listed_eq, RootKind.listed, hentries, entries_entriesOf kind addresses hrest]

/-! ## Agreement -/

/-- Two memories answer all reads at some addresses alike. -/
def Agree (first second : GuestMemory) (addresses : List UInt64) : Prop :=
  ∀ address ∈ addresses, ∀ length, first.read address length = second.read address length

variable {first second : GuestMemory}

theorem readTable_congr {address : UInt64}
    (h : ∀ length, first.read address length = second.read address length) :
    readTable first address = readTable second address := by
  simp only [readTable, h]

theorem offer_congr {addresses : List UInt64} (h : Agree first second addresses)
    (install : Installer σ) (state : σ) :
    offer first install addresses state = offer second install addresses state := by
  induction addresses generalizing state with
  | nil => rfl
  | cons address rest ih =>
    have hfirst := readTable_congr (h address List.mem_cons_self)
    have hrest : Agree first second rest := fun other hother =>
      h other (List.mem_cons_of_mem address hother)
    simp only [offer, hfirst, ih hrest]

/-- The tables that are listed say which others there are. -/
theorem worklist_congr {kind other : RootKind} {table otherTable : List UInt8}
    (hlisted : listedAddresses kind table = listedAddresses other otherTable)
    (h : Agree first second (listedAddresses other otherTable)) :
    worklist first kind table = worklist second other otherTable := by
  have htables : ((listedAddresses other otherTable).filterMap fun address =>
      (readTable first address).toOption) =
        (listedAddresses other otherTable).filterMap fun address =>
          (readTable second address).toOption := by
    refine List.filterMap_congr fun address haddress => ?_
    rw [readTable_congr (h address haddress)]
  rw [worklist, worklist, hlisted, htables]

/-! ## The walk -/

theorem installTables_of_lists {memory : GuestMemory} {kind : RootKind}
    {addresses : List UInt32} {root : UInt64} {table : List UInt8}
    (h : Lists memory kind addresses root table) (install : Installer σ) (state : σ) :
    installTables memory install state =
      (counted (offer memory install (worklist memory kind table) state).1
          (offer memory install (worklist memory kind table) state).2.1.length,
        (offer memory install (worklist memory kind table) state).2.2) := by
  have hoffered := @offered_offer σ memory install (worklist memory kind table) state
  have hwalk := walk_eq_iff.2 (.offered h.named h.root_ne_zero h.tableAt h.header hoffered)
  rw [installTables_eq_walk, hwalk]

/-- Two memories whose root tables list the same addresses, one in an RSDT and one
in an XSDT, and that agree on the tables below them, are walked alike: every
installer is handed the same tables in the same order, ends in the same state, and
the answer is the same. -/
theorem installTables_forms {short wide : GuestMemory} {addresses : List UInt32}
    {rsdt xsdt : UInt64} {rsdtTable xsdtTable : List UInt8}
    (hshort : Lists short .rsdt addresses rsdt rsdtTable)
    (hwide : Lists wide .xsdt addresses xsdt xsdtTable)
    (hagree : Agree wide short (worklist short .rsdt rsdtTable))
    (install : Installer σ) (state : σ) :
    installTables wide install state = installTables short install state ∧
      installTables wide install.recording (state, []) =
        installTables short install.recording (state, []) := by
  have hlisted : listedAddresses .xsdt xsdtTable = listedAddresses .rsdt rsdtTable := by
    rw [listedAddresses_of_lists hwide, listedAddresses_of_lists hshort]
  have hbelow : Agree wide short (listedAddresses .rsdt rsdtTable) := fun address haddress =>
    hagree address (List.mem_append_left _ haddress)
  have hworklist : worklist wide .xsdt xsdtTable = worklist short .rsdt rsdtTable :=
    worklist_congr hlisted hbelow
  have hwalk : ∀ {τ : Type} (installer : Installer τ) (before : τ),
      installTables wide installer before = installTables short installer before := by
    intro τ installer before
    rw [installTables_of_lists hwide, installTables_of_lists hshort, hworklist,
      offer_congr hagree]
  exact ⟨hwalk install state, hwalk install.recording (state, [])⟩

/-- A root pointer.  The two checks make its sums vanish. -/
def pointerBytes (check revision : UInt8) (rsdt : UInt32) (xsdt : UInt64) (extended : UInt8) :
    List UInt8 :=
  Rsdp.signature ++ [check] ++ List.replicate 6 0 ++ [revision] ++ ofWord32 rsdt ++ ofWord32 36 ++
    ofWord64 xsdt ++ [extended, 0, 0, 0]

/-- A table of the given signature with something behind its prologue. -/
def tableOf (signature body : List UInt8) : List UInt8 :=
  signature ++ ofWord32 (UInt32.ofNat (prologueSize + body.length)) ++ body

/-- A root table with two entries: an FADT and nothing. -/
def rootOf (kind : RootKind) : List UInt8 :=
  tableOf [0x52, 0x4F, 0x4F, 0x54]
    (List.replicate (headerSize - prologueSize) 0 ++ kind.entriesOf [0x2000, 0])

/-- An FADT that names a FACS. -/
def smallFadt : List UInt8 :=
  tableOf fadtSignature (List.replicate 28 0 ++ ofWord32 0x3000 ++ ofWord32 0)

/-- A FACS without fields. -/
def smallFacs : List UInt8 :=
  tableOf [0x46, 0x41, 0x43, 0x53] []

/-- Memory with a root pointer, a root table, and the tables below it. -/
def memoryOf (pointer root : List UInt8) : GuestMemory :=
  .sparse [⟨scanStart, pointer.toArray⟩, ⟨0x1000, root.toArray⟩, ⟨0x2000, smallFadt.toArray⟩,
    ⟨0x3000, smallFacs.toArray⟩]

def rsdtMemory : GuestMemory :=
  memoryOf (pointerBytes 209 0 0x1000 0 220) (rootOf .rsdt)

def xsdtMemory : GuestMemory :=
  memoryOf (pointerBytes 223 2 0 0x1000 204) (rootOf .xsdt)

/-- Takes every table and keeps it. -/
def keeping : Installer (List (List UInt8)) :=
  fun table kept => (.ok (), kept ++ [table])

theorem installTables_forms_fadt :
    Lists rsdtMemory .rsdt [0x2000, 0] 0x1000 (rootOf .rsdt) ∧
    Lists xsdtMemory .xsdt [0x2000, 0] 0x1000 (rootOf .xsdt) ∧
    Agree xsdtMemory rsdtMemory (worklist rsdtMemory .rsdt (rootOf .rsdt)) ∧
    installTables rsdtMemory keeping [] = (.ok 2, [smallFadt, smallFacs]) ∧
    installTables xsdtMemory keeping [] = (.ok 2, [smallFadt, smallFacs]) := by
  have hshort : Lists rsdtMemory .rsdt [0x2000, 0] 0x1000 (rootOf .rsdt) := by
    refine ⟨⟨scanStart, ⟨0, 0x1000, 36, 0⟩, ?_, ?_, .inr ⟨by decide, rfl, rfl⟩⟩, by decide,
      ⟨?_, ?_, ?_⟩, ?_, [], by decide, ?_⟩ <;> decide +kernel
  have hwide : Lists xsdtMemory .xsdt [0x2000, 0] 0x1000 (rootOf .xsdt) := by
    refine ⟨⟨scanStart, ⟨2, 0, 36, 0x1000⟩, ?_, ?_, .inl ⟨by decide, by decide, rfl, rfl⟩⟩,
      by decide, ⟨?_, ?_, ?_⟩, ?_, [], by decide, ?_⟩ <;> decide +kernel
  have hworklist : worklist rsdtMemory .rsdt (rootOf .rsdt) = [0x2000, 0x3000] := by
    decide +kernel
  have hagree : Agree xsdtMemory rsdtMemory (worklist rsdtMemory .rsdt (rootOf .rsdt)) := by
    rw [hworklist]
    intro address haddress length
    rcases List.mem_pair.1 haddress with rfl | rfl <;> rfl
  have hwalk := (installTables_forms hshort hwide hagree keeping []).1
  have hanswer : installTables rsdtMemory keeping [] = (.ok 2, [smallFadt, smallFacs]) := by rfl
  exact ⟨hshort, hwide, hagree, hanswer, hwalk.trans hanswer⟩

end GuestFirmware.Acpi
