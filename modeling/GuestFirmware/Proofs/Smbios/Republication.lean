import GuestFirmware.Proofs.Smbios.EntryPoint
import GuestFirmware.Smbios.Republish

/-!
# What reaches the SMBIOS service

The hypervisor's records reach the service one by one, up to the first that is
refused, and the service is asked to publish when none was.  `Republished` lists
the four ways in which this ends, each with the answer and the calls that the
service receives.

* `Takes` is a row of records that a sink takes, and `takes_or_refused` says how
  far a sink gets with any row.
* `republish_of_republished` runs the firmware along each of the four ends, and
  `republished_total` says that there is always one of them.
* `Service.recording` is a service that keeps a record of its calls.
  `republish_iff` is the result, for any service.
-/

namespace GuestFirmware.Smbios

open LittleEndian

variable {σ ε : Type}

/-! ## Records that a sink takes -/

/-- A sink takes records one after the other. -/
inductive Takes (sink : Sink σ) : List (List UInt8) → σ → σ → Prop
  | nil {state : σ} : Takes sink [] state state
  | cons {record : List UInt8} {rest : List (List UInt8)} {before middle after : σ}
      (hfirst : sink record before = (.ok (), middle))
      (hrest : Takes sink rest middle after) : Takes sink (record :: rest) before after

/-- A sink takes all records, or the ones in front of one that it refuses. -/
theorem takes_or_refused (sink : Sink σ) (records : List (List UInt8)) (before : σ) :
    (∃ after, Takes sink records before after) ∨
      ∃ front record back status middle after, records = front ++ record :: back ∧
        Takes sink front before middle ∧ sink record middle = (.error status, after) := by
  induction records generalizing before with
  | nil => exact Or.inl ⟨before, .nil⟩
  | cons first rest ih =>
    rcases hanswer : sink first before with ⟨status | _, middle⟩
    · exact Or.inr ⟨[], first, rest, status, before, middle, rfl, .nil, hanswer⟩
    · rcases ih middle with ⟨after, htakes⟩ |
        ⟨front, record, back, status, later, after, rfl, htakes, hrefused⟩
      · exact Or.inl ⟨after, .cons hanswer htakes⟩
      · exact Or.inr ⟨first :: front, record, back, status, later, after, rfl,
          .cons hanswer htakes, hrefused⟩

variable {sink : Sink σ} {before middle after : σ}

/-- Records that are taken are counted. -/
theorem addRecords_append {front : List (List UInt8)} (htakes : Takes sink front before middle)
    (back : List (List UInt8)) (added : Nat) :
    addRecords sink (front ++ back) added before =
      addRecords sink back (added + front.length) middle := by
  induction htakes generalizing added with
  | nil => rfl
  | cons hfirst _ ih =>
    rw [List.cons_append, addRecords]
    simp only [hfirst]
    rw [ih, List.length_cons, Nat.add_assoc, Nat.add_comm 1]

theorem addRecords_of_takes {records : List (List UInt8)}
    (htakes : Takes sink records before after) :
    addRecords sink records 0 before = (.ok records.length, after) := by
  have hall := addRecords_append htakes [] 0
  rwa [List.append_nil, Nat.zero_add] at hall

theorem addRecords_of_refused {front back : List (List UInt8)} {record : List UInt8}
    {status : Status} (htakes : Takes sink front before middle)
    (hrefused : sink record middle = (.error status, after)) :
    addRecords sink (front ++ record :: back) 0 before = (.error (.refused status), after) := by
  rw [addRecords_append htakes, addRecords]
  simp only [hrefused]

/-! ## The table of the hypervisor -/

/-- The structure table that an entry point with the given bytes names. -/
def namedTable (memory : GuestMemory) (bytes : List UInt8) : Option (List UInt8) :=
  memory.read (word32At bytes 24).toUInt64 (word16At bytes 22).toNat

variable {memory : GuestMemory}

theorem installStructures_of_none (h : NoEntryPoint memory) :
    installStructures memory sink before = (.error .entryPointNotFound, before) := by
  rw [installStructures, EntryPoint.find_eq_none_iff.2 h]

theorem installStructures_of_first {address : UInt64} {bytes : List UInt8}
    (h : FirstEntryPoint memory address bytes) :
    installStructures memory sink before =
      match namedTable memory bytes with
      | none => (.error .tableUnreadable, before)
      | some table => addRecords sink (records table) 0 before := by
  have hrecords : (EntryPoint.decode bytes).records memory =
      match namedTable memory bytes with
      | none => .error .tableUnreadable
      | some table => .ok (records table) := rfl
  rw [installStructures, EntryPoint.find_eq_some_iff.2 ⟨bytes, h, rfl⟩]
  dsimp only
  rw [hrecords]
  cases namedTable memory bytes <;> rfl

/-- All records of the hypervisor's table are taken, and there are `count` of
them. -/
def AllTaken (memory : GuestMemory) (sink : Sink σ) (before : σ) (count : Nat) : Prop :=
  ∃ address bytes table after, FirstEntryPoint memory address bytes ∧
    namedTable memory bytes = some table ∧ Takes sink (records table) before after ∧
    count = (records table).length

/-- A number is answered exactly when all records were taken, and it is their
number. -/
theorem installStructures_eq_ok_iff {count : Nat} :
    (installStructures memory sink before).1 = .ok count ↔ AllTaken memory sink before count := by
  constructor
  · intro h
    rcases EntryPoint.first_or_none memory with hnone | ⟨address, bytes, hfirst⟩
    · rw [installStructures_of_none hnone] at h
      cases h
    · rw [installStructures_of_first hfirst] at h
      cases htable : namedTable memory bytes with
      | none =>
        rw [htable] at h
        cases h
      | some table =>
        rw [htable] at h
        dsimp only at h
        rcases takes_or_refused sink (records table) before with ⟨after, htakes⟩ |
          ⟨front, record, back, status, middle, after, hsplit, htakes, hrefused⟩
        · rw [addRecords_of_takes htakes] at h
          cases h
          exact ⟨address, bytes, table, after, hfirst, htable, htakes, rfl⟩
        · rw [hsplit, addRecords_of_refused htakes hrefused] at h
          cases h
  · rintro ⟨address, bytes, table, after, hfirst, htable, htakes, rfl⟩
    rw [installStructures_of_first hfirst, htable]
    dsimp only
    rw [addRecords_of_takes htakes]

/-! ## The service -/

/-- A call of the service. -/
inductive ServiceCall
  | add (producer : Option Handle) (record : List UInt8)
  | publish
  deriving DecidableEq, Repr

variable {service : Service σ ε} {record : List UInt8}

/-- The sink in front of a service takes what the service takes without a
producer. -/
theorem sink_eq_ok_iff :
    service.sink record before = (.ok (), after) ↔
      service.add none record before = (.ok (), after) := by
  rcases hadd : service.add none record before with ⟨failure | _, state⟩ <;>
    simp [Service.sink, hadd]

/-- It refuses what the service refuses, with the status of the refusal. -/
theorem sink_eq_error_iff {status : Status} :
    service.sink record before = (.error status, after) ↔
      ∃ failure, service.add none record before = (.error failure, after) ∧
        service.status failure = status := by
  rcases hadd : service.add none record before with ⟨failure | _, state⟩
  · simp [Service.sink, hadd, and_comm]
  · simp [Service.sink, hadd]

/-- The calls by which records are added. -/
def adds (records : List (List UInt8)) : List ServiceCall :=
  records.map (.add none)

/-- How republishing ends: the answer, the calls that the service receives, and
the service after them. -/
inductive Republished (memory : GuestMemory) (service : Service σ ε) (before : σ) :
    Except ComponentError Unit → List ServiceCall → σ → Prop
  /-- There is no entry point. -/
  | absent (hnone : NoEntryPoint memory) : Republished memory service before (.ok ()) [] before
  /-- The table that the entry point names cannot be read. -/
  | unreadable {address : UInt64} {bytes : List UInt8}
      (hfirst : FirstEntryPoint memory address bytes) (htable : namedTable memory bytes = none) :
      Republished memory service before (.error .volumeCorrupted) [] before
  /-- A record is refused, and what follows it is left out. -/
  | refused {address : UInt64} {bytes table record : List UInt8} {front back : List (List UInt8)}
      {failure : ε} {middle after : σ}
      (hfirst : FirstEntryPoint memory address bytes)
      (htable : namedTable memory bytes = some table)
      (hsplit : records table = front ++ record :: back)
      (htakes : Takes service.sink front before middle)
      (hrefused : service.add none record middle = (.error failure, after)) :
      Republished memory service before (.error (.ofStatus (service.status failure)))
        (adds (front ++ [record])) after
  /-- All records are taken, and the service is asked to publish its table. -/
  | published {address : UInt64} {bytes table : List UInt8} {answer : Except ε Unit}
      {middle after : σ} (hfirst : FirstEntryPoint memory address bytes)
      (htable : namedTable memory bytes = some table)
      (htakes : Takes service.sink (records table) before middle)
      (hpublish : service.publish middle = (answer, after)) :
      Republished memory service before (answer.mapError service.component)
        (adds (records table) ++ [.publish]) after

variable {result : Except ComponentError Unit} {calls : List ServiceCall}

/-- The firmware goes along each of the ends. -/
theorem republish_of_republished (h : Republished memory service before result calls after) :
    republish memory service before = (result, after) := by
  unfold republish
  cases h with
  | absent hnone => rw [installStructures_of_none hnone]
  | unreadable hfirst htable =>
    rw [installStructures_of_first hfirst, htable]
    rfl
  | refused hfirst htable hsplit htakes hrefused =>
    rw [installStructures_of_first hfirst, htable]
    dsimp only
    rw [hsplit, addRecords_of_refused htakes (sink_eq_error_iff.2 ⟨_, hrefused, rfl⟩)]
    rfl
  | @published _ _ _ answer _ _ hfirst htable htakes hpublish =>
    rw [installStructures_of_first hfirst, htable]
    dsimp only
    rw [addRecords_of_takes htakes]
    dsimp only
    rw [hpublish]
    cases answer <;> rfl

/-- Every run ends in one of the ways. -/
theorem republished_total (memory : GuestMemory) (service : Service σ ε) (before : σ) :
    ∃ result calls after, Republished memory service before result calls after := by
  rcases EntryPoint.first_or_none memory with hnone | ⟨address, bytes, hfirst⟩
  · exact ⟨_, _, _, .absent hnone⟩
  · cases htable : namedTable memory bytes with
    | none => exact ⟨_, _, _, .unreadable hfirst htable⟩
    | some table =>
      rcases takes_or_refused service.sink (records table) before with ⟨middle, htakes⟩ |
        ⟨front, record, back, status, middle, after, hsplit, htakes, hrefused⟩
      · exact ⟨_, _, _, .published hfirst htable htakes rfl⟩
      · obtain ⟨failure, hadd, -⟩ := sink_eq_error_iff.1 hrefused
        exact ⟨_, _, _, .refused hfirst htable hsplit htakes hadd⟩

/-! ## Keeping a record of the calls -/

/-- The same service with a record of the calls that it received. -/
def Service.recording (service : Service σ ε) : Service (σ × List ServiceCall) ε where
  add producer record := fun (state, earlier) =>
    let (answer, state) := service.add producer record state
    (answer, state, earlier ++ [.add producer record])
  publish := fun (state, earlier) =>
    let (answer, state) := service.publish state
    (answer, state, earlier ++ [.publish])
  status := service.status
  component := service.component

theorem add_recording {answer : Except ε Unit}
    (h : service.add none record before = (answer, after)) (earlier : List ServiceCall) :
    service.recording.add none record (before, earlier) =
      (answer, after, earlier ++ [.add none record]) := by
  simp only [Service.recording, h]

theorem publish_recording {answer : Except ε Unit}
    (h : service.publish before = (answer, after)) (earlier : List ServiceCall) :
    service.recording.publish (before, earlier) = (answer, after, earlier ++ [.publish]) := by
  simp only [Service.recording, h]

theorem takes_recording {records : List (List UInt8)}
    (h : Takes service.sink records before after) (earlier : List ServiceCall) :
    Takes service.recording.sink records (before, earlier) (after, earlier ++ adds records) := by
  induction h generalizing earlier with
  | nil =>
    rw [adds, List.map_nil, List.append_nil]
    exact .nil
  | @cons record rest before middle after hfirst _ ih =>
    have hrest := ih (earlier ++ [.add none record])
    rw [List.append_assoc, List.singleton_append] at hrest
    exact .cons (sink_eq_ok_iff.2 (add_recording (sink_eq_ok_iff.1 hfirst) earlier)) hrest

/-- The record holds exactly the calls of the end that is taken. -/
theorem republished_recording (h : Republished memory service before result calls after)
    (earlier : List ServiceCall) :
    Republished memory service.recording (before, earlier) result calls
      (after, earlier ++ calls) := by
  cases h with
  | absent hnone =>
    rw [List.append_nil]
    exact .absent hnone
  | unreadable hfirst htable =>
    rw [List.append_nil]
    exact .unreadable hfirst htable
  | @refused _ _ _ record front _ _ _ _ hfirst htable hsplit htakes hrefused =>
    have hlast := add_recording hrefused (earlier ++ adds front)
    have hadds : adds front ++ [.add none record] = adds (front ++ [record]) := by
      rw [adds, adds, List.map_append, List.map_singleton]
    rw [List.append_assoc, hadds] at hlast
    exact .refused hfirst htable hsplit (takes_recording htakes earlier) hlast
  | @published _ _ table _ _ _ hfirst htable htakes hpublish =>
    have hlast := publish_recording hpublish (earlier ++ adds (records table))
    rw [List.append_assoc] at hlast
    exact .published hfirst htable (takes_recording htakes earlier) hlast

/-- For every memory and every service there is one end that republishing takes,
and a service that keeps a record shows its calls.  A number of records is
answered to any sink exactly when it took all of them. -/
theorem republish_iff (memory : GuestMemory) (service : Service σ ε) (before : σ) :
    (∃ result calls after,
      republish memory service before = (result, after) ∧
      republish memory service.recording (before, []) = (result, after, calls) ∧
      ∀ result' calls' after', Republished memory service before result' calls' after' ↔
        result' = result ∧ calls' = calls ∧ after' = after) ∧
    ∀ (sink : Sink σ) count, (installStructures memory sink before).1 = .ok count ↔
      AllTaken memory sink before count := by
  refine ⟨?_, fun sink count => installStructures_eq_ok_iff⟩
  obtain ⟨result, calls, after, hend⟩ := republished_total memory service before
  have hrecorded : republish memory service.recording (before, []) = (result, after, calls) :=
    republish_of_republished (republished_recording hend [])
  refine ⟨result, calls, after, republish_of_republished hend, hrecorded, ?_⟩
  intro result' calls' after'
  constructor
  · intro hother
    have hsame := republish_of_republished (republished_recording hother [])
    rw [hrecorded] at hsame
    cases hsame
    exact ⟨rfl, rfl, rfl⟩
  · rintro ⟨rfl, rfl, rfl⟩
    exact hend

end GuestFirmware.Smbios
