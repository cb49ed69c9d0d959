import GuestFirmware.Proofs.Acpi.Bounds
import GuestFirmware.Proofs.Acpi.Worklist
import Mathlib.Data.List.Forall2

/-!
# The walk over the hypervisor's tables

`Walk` is what installing the hypervisor's tables means: which root table it
starts from, which tables the installer is handed and what the answer is.  It
is said in terms of the `worklist`, and `Offered` says what becomes of one: its
tables are handed over in order, up to the first that is not there or that the
installer refuses.

`walk` is the same as a function.  `walk_eq_iff` relates it to `Walk`, by way of
`offer_eq_iff` for the worklist.  `installTables_eq_walk` relates it to the
walk of the firmware, which carries a count and the targets of the last FADT
along instead of a worklist.  `installTables_iff_walk` is the result.
-/

namespace GuestFirmware.Acpi

variable {σ : Type}

/-! ## What an installer is handed -/

/-- The installer takes tables one after the other. -/
inductive Takes (install : Installer σ) : List (List UInt8) → σ → σ → Prop
  | nil {state : σ} : Takes install [] state state
  | cons {table : List UInt8} {rest : List (List UInt8)} {before middle after : σ}
      (hfirst : install table before = (.ok (), middle))
      (hrest : Takes install rest middle after) : Takes install (table :: rest) before after

/-- What becomes of a worklist: the answer, the tables that the installer is
handed, and the state of the installer behind the last of them. -/
inductive Offered (memory : GuestMemory) (install : Installer σ) (addresses : List UInt64)
    (before : σ) : Except AcpiError Unit → List (List UInt8) → σ → Prop
  /-- All tables are taken. -/
  | all {tables : List (List UInt8)} {after : σ}
      (htables : List.Forall₂ (TableAt memory) addresses tables)
      (htakes : Takes install tables before after) :
      Offered memory install addresses before (.ok ()) tables after
  /-- There is no table at an address of the worklist. -/
  | unreadable {front back : List UInt64} {address : UInt64} {tables : List (List UInt8)}
      {after : σ} (hsplit : addresses = front ++ address :: back)
      (htables : List.Forall₂ (TableAt memory) front tables)
      (htakes : Takes install tables before after)
      (hnone : ∀ table, ¬ TableAt memory address table) :
      Offered memory install addresses before (.error (.invalidTable address)) tables after
  /-- A table of the worklist is refused. -/
  | refused {front back : List UInt64} {address : UInt64} {tables : List (List UInt8)}
      {table : List UInt8} {status : Status} {middle after : σ}
      (hsplit : addresses = front ++ address :: back)
      (htables : List.Forall₂ (TableAt memory) front tables)
      (htakes : Takes install tables before middle) (htable : TableAt memory address table)
      (hrefused : install table middle = (.error status, after)) :
      Offered memory install addresses before (.error (.refused status)) (tables ++ [table]) after

/-- A worklist whose first table is taken goes on with the others. -/
theorem Offered.cons {memory : GuestMemory} {install : Installer σ} {address : UInt64}
    {rest : List UInt64} {table : List UInt8} {before middle after : σ}
    {result : Except AcpiError Unit} {handed : List (List UInt8)}
    (htable : TableAt memory address table) (hfirst : install table before = (.ok (), middle))
    (hrest : Offered memory install rest middle result handed after) :
    Offered memory install (address :: rest) before result (table :: handed) after := by
  cases hrest with
  | all htables htakes => exact .all (.cons htable htables) (.cons hfirst htakes)
  | unreadable hsplit htables htakes hnone =>
    exact .unreadable (by rw [hsplit, List.cons_append]) (.cons htable htables)
      (.cons hfirst htakes) hnone
  | refused hsplit htables htakes hlast hrefused =>
    exact .refused (by rw [hsplit, List.cons_append]) (.cons htable htables)
      (.cons hfirst htakes) hlast hrefused

/-- Hands the tables at some addresses to the installer, up to the first that is
not there or is refused.  The second part of the answer are the tables that were
handed over. -/
def offer (memory : GuestMemory) (install : Installer σ) :
    List UInt64 → σ → Except AcpiError Unit × List (List UInt8) × σ
  | [], state => (.ok (), [], state)
  | address :: rest, state =>
    match readTable memory address with
    | .error failure => (.error failure, [], state)
    | .ok table =>
      match install table state with
      | (.error status, state) => (.error (.refused status), [table], state)
      | (.ok _, state) =>
        let (result, handed, state) := offer memory install rest state
        (result, table :: handed, state)

variable {memory : GuestMemory} {install : Installer σ}

theorem offer_nil (state : σ) : offer memory install [] state = (.ok (), [], state) := rfl

theorem offer_cons_of_unreadable {address : UInt64} (rest : List UInt64) (state : σ)
    (hnone : ∀ table, ¬ TableAt memory address table) :
    offer memory install (address :: rest) state = (.error (.invalidTable address), [], state) := by
  rw [offer, readTable_eq_error_iff.2 hnone]

theorem offer_cons_of_refused {address : UInt64} {table : List UInt8} {status : Status}
    {state after : σ} (rest : List UInt64) (htable : TableAt memory address table)
    (hrefused : install table state = (.error status, after)) :
    offer memory install (address :: rest) state = (.error (.refused status), [table], after) := by
  rw [offer, readTable_eq_ok_iff.2 htable]
  simp only [hrefused]

theorem offer_cons_of_taken {address : UInt64} {table : List UInt8} {state middle : σ}
    (rest : List UInt64) (htable : TableAt memory address table)
    (htaken : install table state = (.ok (), middle)) :
    offer memory install (address :: rest) state =
      ((offer memory install rest middle).1, table :: (offer memory install rest middle).2.1,
        (offer memory install rest middle).2.2) := by
  rw [offer, readTable_eq_ok_iff.2 htable]
  simp only [htaken]

/-- Tables that are taken are handed over in front of the rest. -/
theorem offer_append_of_takes {front : List UInt64} {tables : List (List UInt8)}
    {before middle : σ} (back : List UInt64)
    (htables : List.Forall₂ (TableAt memory) front tables)
    (htakes : Takes install tables before middle) :
    offer memory install (front ++ back) before =
      ((offer memory install back middle).1, tables ++ (offer memory install back middle).2.1,
        (offer memory install back middle).2.2) := by
  induction htables generalizing before with
  | nil =>
    cases htakes
    rfl
  | cons htable _ ih =>
    cases htakes with
    | cons hfirst hrest =>
      rw [List.cons_append, offer_cons_of_taken _ htable hfirst, ih hrest]
      rfl

/-- At an address of a worklist there is no table, or one that the installer
refuses, or one that it takes. -/
theorem offer_cases (memory : GuestMemory) (install : Installer σ) (address : UInt64) (state : σ) :
    (∀ table, ¬ TableAt memory address table) ∨
      (∃ table status after, TableAt memory address table ∧
        install table state = (.error status, after)) ∨
      ∃ table after, TableAt memory address table ∧ install table state = (.ok (), after) := by
  by_cases hnone : ∀ table, ¬ TableAt memory address table
  · exact Or.inl hnone
  · obtain ⟨table, htable⟩ := not_forall_not.1 hnone
    rcases hanswer : install table state with ⟨_ | _, after⟩
    · exact Or.inr (Or.inl ⟨table, _, after, htable, hanswer⟩)
    · exact Or.inr (Or.inr ⟨table, after, htable, hanswer⟩)

/-- The function does what becomes of a worklist. -/
theorem offered_offer (addresses : List UInt64) (state : σ) :
    Offered memory install addresses state (offer memory install addresses state).1
      (offer memory install addresses state).2.1 (offer memory install addresses state).2.2 := by
  induction addresses generalizing state with
  | nil => exact .all .nil .nil
  | cons address rest ih =>
    rcases offer_cases memory install address state with
      hnone | ⟨table, status, after, htable, hrefused⟩ | ⟨table, middle, htable, htaken⟩
    · rw [offer_cons_of_unreadable rest state hnone]
      exact .unreadable (List.nil_append _).symm .nil .nil hnone
    · rw [offer_cons_of_refused rest htable hrefused]
      exact .refused (List.nil_append _).symm .nil .nil htable hrefused
    · rw [offer_cons_of_taken rest htable htaken]
      exact .cons htable htaken (ih middle)

theorem offer_eq_iff {addresses : List UInt64} {before after : σ}
    {result : Except AcpiError Unit} {handed : List (List UInt8)} :
    offer memory install addresses before = (result, handed, after) ↔
      Offered memory install addresses before result handed after := by
  constructor
  · intro h
    have hoffered := @offered_offer σ memory install addresses before
    rwa [h] at hoffered
  · intro h
    cases h with
    | all htables htakes =>
      have happend := offer_append_of_takes [] htables htakes
      rwa [List.append_nil, offer_nil, List.append_nil] at happend
    | unreadable hsplit htables htakes hnone =>
      rw [hsplit, offer_append_of_takes _ htables htakes, offer_cons_of_unreadable _ _ hnone,
        List.append_nil]
    | refused hsplit htables htakes htable hrefused =>
      rw [hsplit, offer_append_of_takes _ htables htakes,
        offer_cons_of_refused _ htable hrefused]

/-- A worklist stops in its front part, or goes on with its back part. -/
theorem offer_append (front back : List UInt64) (before : σ) :
    offer memory install (front ++ back) before =
      match offer memory install front before with
      | (.error failure, handed, middle) => (.error failure, handed, middle)
      | (.ok _, handed, middle) =>
        ((offer memory install back middle).1, handed ++ (offer memory install back middle).2.1,
          (offer memory install back middle).2.2) := by
  rcases hfront : offer memory install front before with ⟨result, handed, middle⟩
  cases offer_eq_iff.1 hfront with
  | all htables htakes => exact offer_append_of_takes back htables htakes
  | unreadable hsplit htables htakes hnone =>
    rw [hsplit, List.append_assoc, List.cons_append]
    exact offer_eq_iff.2 (.unreadable rfl htables htakes hnone)
  | refused hsplit htables htakes htable hrefused =>
    rw [hsplit, List.append_assoc, List.cons_append]
    exact offer_eq_iff.2 (.refused rfl htables htakes htable hrefused)

/-! ## The whole walk -/

/-- The answer of a walk that handed over some tables. -/
def counted : Except AcpiError Unit → Nat → Except AcpiError Nat
  | .error failure, _ => .error failure
  | .ok _, 0 => .error .noTables
  | .ok _, count + 1 => .ok (count + 1)

/-- What installing the hypervisor's tables means: the answer, the tables that
the installer is handed, and the state of the installer after it. -/
inductive Walk (memory : GuestMemory) (install : Installer σ) (before : σ) :
    Except AcpiError Nat → List (List UInt8) → σ → Prop
  /-- There is no root pointer. -/
  | noPointer (hfind : Rsdp.find memory scanStart scanEnd = none) :
      Walk memory install before (.error .rsdpNotFound) [] before
  /-- The root pointer names no root table. -/
  | noRoot {kind : RootKind} (hroot : RootNamed memory kind 0) :
      Walk memory install before (.error .noTables) [] before
  /-- There is no table at the address of the root table, or a short one. -/
  | badRoot {kind : RootKind} {root : UInt64} (hroot : RootNamed memory kind root)
      (hzero : root ≠ 0) (hbad : ∀ table, TableAt memory root table → table.length < headerSize) :
      Walk memory install before (.error (.invalidTable root)) [] before
  /-- The worklist of the root table is offered. -/
  | offered {kind : RootKind} {root : UInt64} {table : List UInt8}
      {result : Except AcpiError Unit} {handed : List (List UInt8)} {after : σ}
      (hroot : RootNamed memory kind root) (hzero : root ≠ 0) (htable : TableAt memory root table)
      (hlength : headerSize ≤ table.length)
      (hoffered : Offered memory install (worklist memory kind table) before result handed after) :
      Walk memory install before (counted result handed.length) handed after

/-- The walk as a function. -/
def walk (memory : GuestMemory) (install : Installer σ) (state : σ) :
    Except AcpiError Nat × List (List UInt8) × σ :=
  match (Rsdp.find memory scanStart scanEnd).bind (Rsdp.at? memory) with
  | none => (.error .rsdpNotFound, [], state)
  | some rsdp =>
    if rsdp.root.2 = 0 then (.error .noTables, [], state)
    else match readTable memory rsdp.root.2 with
      | .error failure => (.error failure, [], state)
      | .ok table =>
        if table.length < headerSize then (.error (.invalidTable rsdp.root.2), [], state)
        else
          let (result, handed, state) := offer memory install (worklist memory rsdp.root.1 table) state
          (counted result handed.length, handed, state)

/-- Where a root pointer is found it can be read. -/
theorem at?_of_find {address : UInt64} (h : Rsdp.find memory scanStart scanEnd = some address) :
    ∃ rsdp, Rsdp.at? memory address = some rsdp :=
  Option.isSome_iff_exists.1 (GuestMemory.test_of_firstOf h)

theorem rootNamed_root {address : UInt64} {rsdp : Rsdp}
    (hfind : Rsdp.find memory scanStart scanEnd = some address)
    (hat : Rsdp.at? memory address = some rsdp) : RootNamed memory rsdp.root.1 rsdp.root.2 := by
  refine ⟨address, rsdp, hfind, hat, ?_⟩
  unfold Rsdp.root
  split_ifs with h
  · exact Or.inl ⟨h.1, h.2, rfl, rfl⟩
  · exact Or.inr ⟨h, rfl, rfl⟩

/-- A root pointer names one root table. -/
theorem RootNamed.eq {kind : RootKind} {root : UInt64} (h : RootNamed memory kind root) :
    ∃ rsdp, (Rsdp.find memory scanStart scanEnd).bind (Rsdp.at? memory) = some rsdp ∧
      rsdp.root = (kind, root) := by
  obtain ⟨address, rsdp, hfind, hat, hroot⟩ := h
  refine ⟨rsdp, by rw [hfind, Option.bind_some, hat], ?_⟩
  unfold Rsdp.root
  rcases hroot with ⟨hrevision, hxsdt, rfl, rfl⟩ | ⟨hno, rfl, rfl⟩
  · rw [if_pos ⟨hrevision, hxsdt⟩]
  · rw [if_neg hno]

/-- The function does what the walk means. -/
theorem walk_walk (state : σ) :
    Walk memory install state (walk memory install state).1 (walk memory install state).2.1
      (walk memory install state).2.2 := by
  unfold walk
  cases hfind : Rsdp.find memory scanStart scanEnd with
  | none => exact .noPointer hfind
  | some address =>
    obtain ⟨rsdp, hat⟩ := at?_of_find hfind
    have hroot := rootNamed_root hfind hat
    rw [Option.bind_some, hat]
    dsimp only
    split_ifs with hzero
    · rw [hzero] at hroot
      exact .noRoot hroot
    · by_cases hnone : ∀ table, ¬ TableAt memory rsdp.root.2 table
      · rw [readTable_eq_error_iff.2 hnone]
        exact .badRoot hroot hzero fun table htable => absurd htable (hnone table)
      · obtain ⟨table, htable⟩ := not_forall_not.1 hnone
        rw [readTable_eq_ok_iff.2 htable]
        dsimp only
        split_ifs with hshort
        · exact .badRoot hroot hzero fun other hother => by rwa [hother.eq htable]
        · exact .offered hroot hzero htable (Nat.not_lt.1 hshort) (offered_offer _ state)

theorem walk_eq_iff {before after : σ} {result : Except AcpiError Nat}
    {handed : List (List UInt8)} :
    walk memory install before = (result, handed, after) ↔
      Walk memory install before result handed after := by
  constructor
  · intro h
    have hwalk := @walk_walk σ memory install before
    rwa [h] at hwalk
  · intro h
    unfold walk
    cases h with
    | noPointer hfind => rw [hfind]; rfl
    | noRoot hroot =>
      obtain ⟨rsdp, hrsdp, heq⟩ := hroot.eq
      rw [hrsdp]
      dsimp only
      rw [heq, if_pos rfl]
    | badRoot hroot hzero hbad =>
      obtain ⟨rsdp, hrsdp, heq⟩ := hroot.eq
      rw [hrsdp]
      dsimp only
      rw [heq, if_neg hzero]
      cases hread : readTable memory _ with
      | ok table =>
        dsimp only
        rw [if_pos (hbad table (readTable_eq_ok_iff.1 hread))]
      | error failure => rw [eq_invalidTable_of_readTable hread]
    | offered hroot hzero htable hlength hoffered =>
      obtain ⟨rsdp, hrsdp, heq⟩ := hroot.eq
      rw [hrsdp]
      dsimp only
      rw [heq, if_neg hzero, readTable_eq_ok_iff.2 htable]
      dsimp only
      rw [if_neg (Nat.not_lt.2 hlength), offer_eq_iff.2 hoffered]

/-! ## The walk of the firmware -/

/-- The answer of a part of the walk over the tables that were handed over. -/
def concluded {α : Type} (value : List (List UInt8) → α) :
    Except AcpiError Unit × List (List UInt8) × σ → Except AcpiError α × σ
  | (.error failure, _, state) => (.error failure, state)
  | (.ok _, tables, state) => (.ok (value tables), state)

theorem installAt_of_unreadable {address : UInt64} (state : σ)
    (hnone : ∀ table, ¬ TableAt memory address table) :
    installAt memory install address state = (.error (.invalidTable address), state) := by
  rw [installAt, readTable_eq_error_iff.2 hnone]

theorem installAt_of_refused {address : UInt64} {table : List UInt8} {status : Status}
    {state after : σ} (htable : TableAt memory address table)
    (hrefused : install table state = (.error status, after)) :
    installAt memory install address state = (.error (.refused status), after) := by
  rw [installAt, readTable_eq_ok_iff.2 htable]
  simp only [hrefused]

theorem installAt_of_taken {address : UInt64} {table : List UInt8} {state middle : σ}
    (htable : TableAt memory address table) (htaken : install table state = (.ok (), middle)) :
    installAt memory install address state = (.ok table, middle) := by
  rw [installAt, readTable_eq_ok_iff.2 htable]
  simp only [htaken]

/-- The listed tables are offered.  The count and the targets follow the tables
that were handed over. -/
theorem installListed_eq_offer (addresses : List UInt64) (installed : Nat)
    (targets : FadtTargets) (state : σ) :
    installListed memory install addresses installed targets state =
      concluded (fun tables => (installed + tables.length, targets.after tables))
        (offer memory install addresses state) := by
  induction addresses generalizing installed targets state with
  | nil => rfl
  | cons address rest ih =>
    rw [installListed]
    rcases offer_cases memory install address state with
      hnone | ⟨table, status, after, htable, hrefused⟩ | ⟨table, middle, htable, htaken⟩
    · rw [installAt_of_unreadable state hnone, offer_cons_of_unreadable rest state hnone]
      rfl
    · rw [installAt_of_refused htable hrefused, offer_cons_of_refused rest htable hrefused]
      rfl
    · rw [installAt_of_taken htable htaken, offer_cons_of_taken rest htable htaken]
      dsimp only
      rw [ih]
      rcases offer memory install rest middle with ⟨_ | _, tables, after⟩
      · rfl
      · rw [concluded, concluded, FadtTargets.after_cons, List.length_cons, Nat.add_right_comm,
          Nat.add_assoc]

/-- So are the tables that only the FADT points at. -/
theorem installUnlisted_eq_offer (addresses : List UInt64) (installed : Nat) (state : σ) :
    installUnlisted memory install addresses installed state =
      concluded (fun tables => installed + tables.length)
        (offer memory install addresses state) := by
  induction addresses generalizing installed state with
  | nil => rfl
  | cons address rest ih =>
    rw [installUnlisted]
    rcases offer_cases memory install address state with
      hnone | ⟨table, status, after, htable, hrefused⟩ | ⟨table, middle, htable, htaken⟩
    · rw [installAt_of_unreadable state hnone, offer_cons_of_unreadable rest state hnone]
      rfl
    · rw [installAt_of_refused htable hrefused, offer_cons_of_refused rest htable hrefused]
      rfl
    · rw [installAt_of_taken htable htaken, offer_cons_of_taken rest htable htaken]
      dsimp only
      rw [ih]
      rcases offer memory install rest middle with ⟨_ | _, tables, after⟩
      · rfl
      · rw [concluded, concluded, List.length_cons, Nat.add_right_comm, Nat.add_assoc]

/-- Tables that were all handed over are those that can be read. -/
theorem filterMap_readTable {addresses : List UInt64} {tables : List (List UInt8)}
    (h : List.Forall₂ (TableAt memory) addresses tables) :
    (addresses.filterMap fun address => (readTable memory address).toOption) = tables := by
  induction h with
  | nil => rfl
  | cons htable _ ih =>
    rw [List.filterMap_cons_some (by rw [readTable_eq_ok_iff.2 htable]; rfl), ih]

theorem installRoot_eq_offer {kind : RootKind} {root : UInt64} {table : List UInt8}
    (htable : TableAt memory root table) (hlength : headerSize ≤ table.length) (state : σ) :
    installRoot memory install kind root state =
      (counted (offer memory install (worklist memory kind table) state).1
          (offer memory install (worklist memory kind table) state).2.1.length,
        (offer memory install (worklist memory kind table) state).2.2) := by
  rw [installRoot, readTable_eq_ok_iff.2 htable]
  dsimp only
  rw [if_neg (Nat.not_lt.2 hlength), listed_eq, installListed_eq_offer, worklist, offer_append]
  rcases hlisted : offer memory install (listedAddresses kind table) state with
    ⟨_ | _, tables, middle⟩
  · rfl
  · cases offer_eq_iff.1 hlisted with
    | all htables _ =>
      rw [filterMap_readTable htables]
      dsimp only [concluded]
      rw [unlisted_eq, installUnlisted_eq_offer, Nat.zero_add]
      rcases offer memory install (unlistedAddresses tables) middle with ⟨_ | _, others, after⟩
      · rfl
      · dsimp only [concluded]
        rw [List.length_append]
        cases tables.length + others.length <;> rfl

theorem installTables_eq_walk (state : σ) :
    installTables memory install state =
      ((walk memory install state).1, (walk memory install state).2.2) := by
  unfold installTables walk
  cases (Rsdp.find memory scanStart scanEnd).bind (Rsdp.at? memory) with
  | none => rfl
  | some rsdp =>
    dsimp only
    split_ifs with hzero
    · rfl
    · cases hread : readTable memory rsdp.root.2 with
      | error failure => rw [installRoot, hread]
      | ok table =>
        dsimp only
        split_ifs with hshort
        · rw [installRoot, hread]
          dsimp only
          rw [if_pos hshort]
        · exact installRoot_eq_offer (readTable_eq_ok_iff.1 hread) (Nat.not_lt.1 hshort) state

/-! ## Keeping a record -/

/-- The same installer with a record of the tables that it was handed. -/
def Installer.recording (install : Installer σ) : Installer (σ × List (List UInt8)) :=
  fun table (state, record) =>
    let (answer, state) := install table state
    (answer, state, record ++ [table])

theorem offer_recording (addresses : List UInt64) (state : σ) (record : List (List UInt8)) :
    offer memory install.recording addresses (state, record) =
      ((offer memory install addresses state).1, (offer memory install addresses state).2.1,
        (offer memory install addresses state).2.2,
        record ++ (offer memory install addresses state).2.1) := by
  induction addresses generalizing state record with
  | nil => rw [offer_nil, offer_nil, List.append_nil]
  | cons address rest ih =>
    rcases offer_cases memory install address state with
      hnone | ⟨table, status, after, htable, hrefused⟩ | ⟨table, middle, htable, htaken⟩
    · rw [offer_cons_of_unreadable rest _ hnone, offer_cons_of_unreadable rest _ hnone,
        List.append_nil]
    · have hrecorded : install.recording table (state, record) =
          (.error status, after, record ++ [table]) := by rw [Installer.recording, hrefused]
      rw [offer_cons_of_refused rest htable hrecorded, offer_cons_of_refused rest htable hrefused]
    · have hrecorded : install.recording table (state, record) =
          (.ok (), middle, record ++ [table]) := by rw [Installer.recording, htaken]
      rw [offer_cons_of_taken rest htable hrecorded, offer_cons_of_taken rest htable htaken, ih,
        List.append_assoc, List.singleton_append]

/-- The record holds exactly the tables that the walk hands over. -/
theorem walk_recording (state : σ) (record : List (List UInt8)) :
    walk memory install.recording (state, record) =
      ((walk memory install state).1, (walk memory install state).2.1,
        (walk memory install state).2.2, record ++ (walk memory install state).2.1) := by
  unfold walk
  cases (Rsdp.find memory scanStart scanEnd).bind (Rsdp.at? memory) with
  | none => rw [List.append_nil]
  | some rsdp =>
    dsimp only
    split_ifs with hzero
    · rw [List.append_nil]
    · cases readTable memory rsdp.root.2 with
      | error failure => rw [List.append_nil]
      | ok table =>
        dsimp only
        split_ifs with hshort
        · rw [List.append_nil]
        · rw [offer_recording]

/-- For every memory and every installer the firmware stays inside its buffers
and does exactly what the walk means.  The record of a recording installer shows
the tables that were handed over. -/
theorem installTables_iff_walk (memory : GuestMemory) (install : Installer σ) (before : σ) :
    Checked.installTables memory install before = some (installTables memory install before) ∧
      ∃ result handed after,
        installTables memory install before = (result, after) ∧
        installTables memory install.recording (before, []) = (result, after, handed) ∧
        ∀ result' handed' after', Walk memory install before result' handed' after' ↔
          result' = result ∧ handed' = handed ∧ after' = after := by
  refine ⟨Checked.installTables_eq memory install before, (walk memory install before).1,
    (walk memory install before).2.1, (walk memory install before).2.2,
    installTables_eq_walk before, ?_, ?_⟩
  · rw [installTables_eq_walk, walk_recording, List.nil_append]
  · intro result handed after
    rw [← walk_eq_iff]
    constructor
    · intro h
      rw [h]
      exact ⟨rfl, rfl, rfl⟩
    · rintro ⟨rfl, rfl, rfl⟩
      rfl

end GuestFirmware.Acpi
