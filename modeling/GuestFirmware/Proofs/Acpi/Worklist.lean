import GuestFirmware.Acpi.Install
import GuestFirmware.Proofs.LittleEndian.Slices
import Mathlib.Tactic.SplitIfs

/-!
# The tables that a root pointer leads to

What the walk over the hypervisor's tables has to install, said without the
walk.  `TableAt` says that a table lies at an address, and
`readTable_eq_ok_iff` that exactly such tables are read.  `RootNamed` says which
root table the root pointer names.  `worklist` are the addresses below a root
table: the listed ones in order, then those that the last listed FADT holds.

The lemmas tie these to the functions of the walk: `listed_eq` for the entries
of a root table, `pointerAt_eq` for the pointers of an FADT, and
`unlisted_eq` for the tables that only the FADT points at.
-/

namespace GuestFirmware.Acpi

open LittleEndian

/-! ## Tables in memory -/

/-- A table lies at an address: it is as long as its own length field says, it
has a signature and a length, and all of it is readable. -/
structure TableAt (memory : GuestMemory) (address : UInt64) (table : List UInt8) : Prop where
  readable : memory.read address table.length = some table
  stated : (word32At table 4).toNat = table.length
  prologue : prologueSize ≤ table.length

/-- The length field lies in the bytes that are read first. -/
theorem word32At_take_prologue (table : List UInt8) :
    word32At (table.take prologueSize) 4 = word32At table 4 := by
  rw [word32At, word32At, slice_take (by decide)]

theorem readTable_eq_ok_iff {memory : GuestMemory} {address : UInt64} {table : List UInt8} :
    readTable memory address = .ok table ↔ TableAt memory address table := by
  constructor
  · intro h
    unfold readTable at h
    split at h
    · cases h
    · next prologue hprologue =>
      dsimp only at h
      split_ifs at h with hshort
      split at h
      · cases h
      · next whole hwhole =>
        cases h
        have hlength := memory.length_of_read hwhole
        have htake := memory.read_take hwhole (Nat.le_of_not_lt hshort)
        rw [hprologue] at htake
        have hstated : word32At prologue 4 = word32At table 4 := by
          rw [Option.some.inj htake, word32At_take_prologue]
        exact ⟨by rw [hlength, hwhole], by rw [← hstated, hlength], by omega⟩
  · intro h
    have htake := memory.read_take h.readable h.prologue
    have hshort : ¬ table.length < prologueSize := Nat.not_lt.2 h.prologue
    simp only [readTable, htake, word32At_take_prologue, h.stated, if_neg hshort, h.readable]

/-- A read fails in one way only. -/
theorem eq_invalidTable_of_readTable {memory : GuestMemory} {address : UInt64}
    {failure : AcpiError} (h : readTable memory address = .error failure) :
    failure = .invalidTable address := by
  unfold readTable at h
  split at h
  · cases h
    rfl
  · dsimp only at h
    split_ifs at h with hshort
    · cases h
      rfl
    · split at h
      · cases h
        rfl
      · cases h

theorem readTable_eq_error_iff {memory : GuestMemory} {address : UInt64} :
    readTable memory address = .error (.invalidTable address) ↔
      ∀ table, ¬ TableAt memory address table := by
  constructor
  · intro h table htable
    rw [readTable_eq_ok_iff.2 htable] at h
    cases h
  · intro h
    cases hread : readTable memory address with
    | ok table => exact absurd (readTable_eq_ok_iff.1 hread) (h table)
    | error failure => rw [eq_invalidTable_of_readTable hread]

/-- Only one table lies at an address. -/
theorem TableAt.eq {memory : GuestMemory} {address : UInt64} {left right : List UInt8}
    (hleft : TableAt memory address left) (hright : TableAt memory address right) :
    left = right := by
  have hread := readTable_eq_ok_iff.2 hleft
  rw [readTable_eq_ok_iff.2 hright] at hread
  exact (Except.ok.inj hread).symm

/-! ## The root table -/

/-- The root pointer names a root table: the XSDT from revision 2 on, if it has
the address of one, else the RSDT. -/
def RootNamed (memory : GuestMemory) (kind : RootKind) (root : UInt64) : Prop :=
  ∃ address rsdp, Rsdp.find memory scanStart scanEnd = some address ∧
    Rsdp.at? memory address = some rsdp ∧
    (2 ≤ rsdp.revision ∧ rsdp.xsdtAddress ≠ 0 ∧ kind = .xsdt ∧ root = rsdp.xsdtAddress ∨
      ¬ (2 ≤ rsdp.revision ∧ rsdp.xsdtAddress ≠ 0) ∧ kind = .rsdt ∧
        root = rsdp.rsdtAddress.toUInt64)

/-- The address in entry `index` of a root table. -/
def rootEntry (kind : RootKind) (table : List UInt8) (index : Nat) : UInt64 :=
  UInt64.ofNat (decode (slice table (headerSize + index * kind.entryWidth) kind.entryWidth))

/-- The addresses in the whole entries of a root table that are not zero. -/
def listedAddresses (kind : RootKind) (table : List UInt8) : List UInt64 :=
  ((List.range ((table.length - headerSize) / kind.entryWidth)).map (rootEntry kind table)).filter
    (· ≠ 0)

theorem listed_eq (kind : RootKind) (table : List UInt8) :
    kind.listed (table.drop headerSize) = listedAddresses kind table := by
  have hentries : kind.entries (table.drop headerSize) =
      (List.range ((table.length - headerSize) / kind.entryWidth)).map (rootEntry kind table) := by
    rw [RootKind.entries, rows_eq_map_slice, List.map_map, List.length_drop]
    apply List.map_congr_left
    intro index _
    rw [Function.comp_apply, slice_drop, rootEntry]
  rw [RootKind.listed, hentries, listedAddresses]
  exact List.filter_congr fun address _ => (decide_not ..).symm

/-! ## The tables behind the FADT -/

/-- A pair of pointer fields: the 64-bit one if the table holds it and it is not
zero, else the 32-bit one if the table holds it and it is not zero. -/
def fadtPointer (table : List UInt8) (offset extendedOffset : Nat) : Option UInt64 :=
  if extendedOffset + 8 ≤ table.length ∧ word64At table extendedOffset ≠ 0 then
    some (word64At table extendedOffset)
  else if offset + 4 ≤ table.length ∧ word32At table offset ≠ 0 then
    some (word32At table offset).toUInt64
  else none

theorem toUInt64_word32At (table : List UInt8) (offset : Nat) :
    (word32At table offset).toUInt64 = UInt64.ofNat (decode (slice table offset 4)) := by
  have hlt : decode (slice table offset 4) < 2 ^ 32 :=
    Nat.lt_of_lt_of_le (decode_lt _)
      (Nat.pow_le_pow_right (by decide) (List.length_take_le 4 _))
  apply UInt64.toNat_inj.1
  rw [word32At, UInt32.toNat_toUInt64, UInt32.toNat_ofNat', UInt64.toNat_ofNat',
    Nat.mod_eq_of_lt hlt, Nat.mod_eq_of_lt (by omega)]

theorem pointerAt_eq (table : List UInt8) (offset extendedOffset : Nat) :
    pointerAt table offset extendedOffset = fadtPointer table offset extendedOffset := by
  have hzero : word32At table offset ≠ 0 ↔ (word32At table offset).toUInt64 ≠ 0 := by
    rw [ne_eq, ne_eq, ← UInt32.toNat_inj, ← UInt64.toNat_inj, UInt32.toNat_toUInt64]
    rfl
  rw [pointerAt, addressAt, addressAt, ← toUInt64_word32At, fadtPointer]
  simp only [hzero, word64At]
  split_ifs <;> rfl

/-- The FADT of some tables is the last one with its signature. -/
def lastFadt (tables : List (List UInt8)) : Option (List UInt8) :=
  tables.reverse.find? fun table => table.take 4 == fadtSignature

/-- The addresses of the FACS and of the DSDT, as far as the FADT holds them. -/
def unlistedAddresses (tables : List (List UInt8)) : List UInt64 :=
  match lastFadt tables with
  | none => []
  | some fadt => (fadtPointer fadt 36 132).toList ++ (fadtPointer fadt 40 140).toList

/-- The targets after some more tables were installed. -/
def FadtTargets.after (targets : FadtTargets) (tables : List (List UInt8)) : FadtTargets :=
  tables.foldl (fun targets table => if isFadt table then .ofFadt table else targets) targets

theorem FadtTargets.after_cons (targets : FadtTargets) (table : List UInt8)
    (rest : List (List UInt8)) :
    targets.after (table :: rest) =
      (if isFadt table then FadtTargets.ofFadt table else targets).after rest := rfl

/-- Later FADTs replace earlier ones. -/
theorem FadtTargets.after_eq (targets : FadtTargets) (tables : List (List UInt8)) :
    targets.after tables = ((lastFadt tables).map FadtTargets.ofFadt).getD targets := by
  induction tables generalizing targets with
  | nil => rfl
  | cons table rest ih =>
    rw [after_cons, ih, lastFadt, lastFadt, List.reverse_cons, List.find?_append]
    cases hrest : rest.reverse.find? fun table => table.take 4 == fadtSignature with
    | some fadt => rfl
    | none =>
      rw [isFadt, signatureOf]
      by_cases hfadt : (table.take 4 == fadtSignature) = true
      · simp [hfadt]
      · simp [hfadt]

theorem unlisted_eq (tables : List (List UInt8)) :
    (FadtTargets.after {} tables).addresses = unlistedAddresses tables := by
  rw [FadtTargets.after_eq, unlistedAddresses]
  cases lastFadt tables with
  | none => rfl
  | some fadt =>
    rw [Option.map_some, Option.getD_some, FadtTargets.addresses, FadtTargets.ofFadt, pointerAt_eq,
      pointerAt_eq]

/-! ## The worklist -/

/-- The addresses below a root table, in the order in which their tables are
installed. -/
def worklist (memory : GuestMemory) (kind : RootKind) (root : List UInt8) : List UInt64 :=
  let listed := listedAddresses kind root
  listed ++ unlistedAddresses (listed.filterMap fun address => (readTable memory address).toOption)

end GuestFirmware.Acpi
