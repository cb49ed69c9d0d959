import GuestFirmware.Display.VideoBios
import GuestFirmware.Proofs.Platform.Log

/-!
# The search for the video BIOS table

The volumes of a platform are searched in the order of their handles, and several
things make the search pass over one: its interface is not found or is none, the read
fails, or what was read lies nowhere or is too long.  None of them ends the search.

* `Volume.Usable` says that the interface of a volume is found, and `Volume.Holds` that
  a read of the volume gives a table.
* `upToFirst` is the part of a list in which the search goes on.
* `run_usableVolumes` and `run_findVbt` say what the two passes over the volumes answer
  and what they do to the platform, and `run_locateAmong` says it of the search.
* `locateAmong_first` is the result, for volumes behind any handles.  `locateVbt` is the
  search on the volumes of a platform, whose handles are numbered.
-/

namespace GuestFirmware.Display

open PlatformM

variable {δ ε : Type}

/-! ## Volumes -/

theorem Section.vbt_eq_some_iff (contents : Section) (vbt : Vbt) :
    contents.vbt = some vbt ↔
      contents.address = vbt.address ∧ contents.size.toNat = vbt.size.toNat := by
  unfold Section.vbt
  split
  · next hfits =>
    have hsize : contents.size.toUInt32.toNat = contents.size.toNat := by
      rw [UInt64.toNat_toUInt32, Nat.mod_eq_of_lt hfits]
    cases vbt
    simp only [Option.some.injEq, Vbt.mk.injEq, ← UInt32.toNat_inj, hsize]
  · next hlong =>
    refine iff_of_false (by simp) fun h => hlong ?_
    rw [h.2]
    exact vbt.size.toNat_lt

namespace Volume

/-- The interface of the volume is found, and there is something behind it. -/
def Usable (volume : Volume) : Prop :=
  volume.located.status.isError = false ∧ volume.located.present = true

instance (volume : Volume) : Decidable volume.Usable :=
  inferInstanceAs (Decidable (_ ∧ _))

/-- A read of the volume succeeds and gives a table: what was read lies somewhere, and its
size fits the protocol.  A warning is no failure. -/
structure Holds (volume : Volume) (vbt : Vbt) : Prop where
  read : volume.status.isError = false
  address_ne : volume.contents.address ≠ 0
  address : volume.contents.address = vbt.address
  size : volume.contents.size.toNat = vbt.size.toNat

/-- What a read of the volume answers. -/
def answer (volume : Volume) : Except Status Section :=
  if volume.status.isError then .error volume.status
  else if volume.contents.address = 0 then .error .notFound
  else .ok volume.contents

/-- The table that a read of the volume gives. -/
def table (volume : Volume) : Option Vbt :=
  match volume.answer with
  | .error _ => none
  | .ok contents => contents.vbt

theorem located_answer_iff (volume : Volume) :
    volume.located.answer = .ok true ↔ volume.Usable := by
  unfold Located.answer Status.guard Usable
  split
  · next herror => simp [herror]
  · next hsuccess => simp [hsuccess]

theorem table_eq_some_iff (volume : Volume) (vbt : Vbt) :
    volume.table = some vbt ↔ volume.Holds vbt := by
  unfold table answer
  by_cases herror : volume.status.isError = true
  · rw [if_pos herror]
    exact iff_of_false (by simp) fun h => Bool.false_ne_true (h.read.symm.trans herror)
  by_cases hzero : volume.contents.address = 0
  · rw [if_neg herror, if_pos hzero]
    exact iff_of_false (by simp) fun h => h.address_ne hzero
  · rw [if_neg herror, if_neg hzero, Section.vbt_eq_some_iff]
    exact ⟨fun h => ⟨eq_false_of_ne_true herror, hzero, h.1, h.2⟩,
      fun h => ⟨h.address, h.size⟩⟩

theorem table_eq_none_iff (volume : Volume) :
    volume.table = none ↔ ∀ vbt, ¬ volume.Holds vbt := by
  simp [Option.eq_none_iff_forall_ne_some, table_eq_some_iff]

end Volume

/-! ## The part of a list that is searched -/

section UpToFirst

variable {α β : Type} {find : α → Option β}

/-- The items up to the first one in which something is found, with that one. -/
def upToFirst (find : α → Option β) : List α → List α
  | [] => []
  | item :: rest =>
    match find item with
    | none => item :: upToFirst find rest
    | some _ => [item]

theorem upToFirst_of_none {items : List α} (h : ∀ item ∈ items, find item = none) :
    upToFirst find items = items := by
  induction items with
  | nil => rfl
  | cons item rest ih =>
    rw [List.forall_mem_cons] at h
    rw [upToFirst, h.1, ih h.2]

theorem upToFirst_of_some {before : List α} (hbefore : ∀ item ∈ before, find item = none)
    {first : α} {found : β} (hfirst : find first = some found) (after : List α) :
    upToFirst find (before ++ first :: after) = before ++ [first] := by
  induction before with
  | nil => rw [List.nil_append, upToFirst, hfirst]; rfl
  | cons item rest ih =>
    rw [List.forall_mem_cons] at hbefore
    rw [List.cons_append, upToFirst, hbefore.1, ih hbefore.2, List.cons_append]

end UpToFirst

/-! ## Two passes over the volumes -/

/-- The platform after more events. -/
def noted (events : List (Event ε)) (platform : Platform δ ε) : Platform δ ε :=
  { platform with trace := platform.trace ++ events }

theorem noted_noted (front back : List (Event ε)) (platform : Platform δ ε) :
    noted back (noted front platform) = noted (front ++ back) platform := by
  simp [noted]

@[simp] theorem noted_nil (platform : Platform δ ε) : noted [] platform = platform := by
  simp [noted]

/-- The handle of a volume is looked up. -/
def lookUp (entry : Handle × Volume) : Event ε :=
  .service (.handleProtocol entry.1 .firmwareVolume entry.2.located.status)

/-- The file of the table is read from a volume. -/
def reading (entry : Handle × Volume) : Event ε :=
  .service (.readSection entry.1 .videoBiosFile entry.2.status)

/-- A volume is looked up before the ones after it. -/
theorem run_usableVolumes_cons (entry : Handle × Volume) (rest : List (Handle × Volume))
    (platform : Platform δ ε) :
    (usableVolumes (entry :: rest)).run platform =
      let others := (usableVolumes rest).run (noted [lookUp entry] platform)
      (if entry.2.Usable then entry :: others.1 else others.1, others.2) := by
  rw [usableVolumes, run_bind, run_bind]
  by_cases husable : entry.2.Usable
  · simp only [(Volume.located_answer_iff _).mpr husable, if_pos husable]
    rfl
  · -- The match on the answer needs this to fall to its last case.
    have hanswer := mt (Volume.located_answer_iff _).mp husable
    simp only [if_neg husable]
    rfl

theorem run_usableVolumes (handles : List (Handle × Volume)) (platform : Platform δ ε) :
    (usableVolumes handles).run platform =
      (handles.filter fun entry => entry.2.Usable, noted (handles.map lookUp) platform) := by
  induction handles generalizing platform with
  | nil => rw [List.map_nil, noted_nil]; rfl
  | cons entry rest ih =>
    rw [run_usableVolumes_cons, ih, noted_noted, List.filter_cons]
    simp

theorem run_readSection (entry : Handle × Volume) (platform : Platform δ ε) :
    (readSection entry .videoBiosFile).run platform =
      (entry.2.answer, noted [reading entry] platform) := by
  rw [readSection, run_bind, Volume.answer, Status.guard]
  cases entry.2.status.isError <;> rfl

/-- A volume without a table is passed over. -/
theorem run_findVbt_cons (entry : Handle × Volume) (rest : List (Handle × Volume))
    (platform : Platform δ ε) :
    (findVbt readSection (entry :: rest)).run platform =
      match entry.2.table with
      | none => (findVbt readSection rest).run (noted [reading entry] platform)
      | some vbt => (some vbt, noted [reading entry] platform) := by
  rw [findVbt, run_bind, run_readSection, Volume.table]
  cases entry.2.answer with
  | error status => rfl
  | ok contents =>
    dsimp only
    cases contents.vbt <;> rfl

theorem run_findVbt (volumes : List (Handle × Volume)) (platform : Platform δ ε) :
    (findVbt readSection volumes).run platform =
      (volumes.findSome? fun entry => entry.2.table,
        noted ((upToFirst (fun entry => entry.2.table) volumes).map reading) platform) := by
  induction volumes generalizing platform with
  | nil => rw [upToFirst, List.map_nil, noted_nil]; rfl
  | cons entry rest ih =>
    rw [run_findVbt_cons, List.findSome?_cons, upToFirst]
    cases entry.2.table with
    | some vbt => rfl
    | none => simp only [ih, noted_noted, List.map_cons, List.singleton_append]

/-! ## The first usable volume with a table -/

/-- One of the volumes behind the handles is usable and holds a table, and no usable
volume before it holds one. -/
structure FirstTable (handles before : List (Handle × Volume)) (first : Handle × Volume)
    (after : List (Handle × Volume)) (vbt : Vbt) : Prop where
  split : handles = before ++ first :: after
  usable : first.2.Usable
  holds : first.2.Holds vbt
  passed : ∀ entry ∈ before, entry.2.Usable → ∀ other, ¬ entry.2.Holds other

section FirstTable

variable {handles before after : List (Handle × Volume)} {first : Handle × Volume} {vbt : Vbt}

/-- No usable volume holds a table exactly when no volume that is left holds one. -/
theorem forall_table_eq_none_iff :
    (∀ entry ∈ handles.filter fun entry => entry.2.Usable, entry.2.table = none) ↔
      ∀ entry ∈ handles, entry.2.Usable → ∀ other, ¬ entry.2.Holds other := by
  simp only [List.mem_filter, decide_eq_true_eq, and_imp, Volume.table_eq_none_iff]

namespace FirstTable

/-- The volumes that are left when the unusable ones are gone. -/
theorem filter_split (h : FirstTable handles before first after vbt) :
    handles.filter (fun entry => entry.2.Usable) =
      before.filter (fun entry => entry.2.Usable) ++
        first :: after.filter fun entry => entry.2.Usable := by
  rw [h.split, List.filter_append, List.filter_cons_of_pos (by simpa using h.usable)]

theorem findSome_filter (h : FirstTable handles before first after vbt) :
    (handles.filter fun entry => entry.2.Usable).findSome? (fun entry => entry.2.table) =
      some vbt :=
  List.findSome?_eq_some_iff.mpr ⟨_, first, _, h.filter_split,
    (Volume.table_eq_some_iff _ _).mpr h.holds, forall_table_eq_none_iff.mpr h.passed⟩

theorem upToFirst_filter (h : FirstTable handles before first after vbt) :
    upToFirst (fun entry => entry.2.table) (handles.filter fun entry => entry.2.Usable) =
      before.filter (fun entry => entry.2.Usable) ++ [first] := by
  rw [h.filter_split]
  exact upToFirst_of_some (forall_table_eq_none_iff.mpr h.passed)
    ((Volume.table_eq_some_iff _ _).mpr h.holds) _

end FirstTable

/-- A table that is found comes from the first usable volume with one. -/
theorem exists_firstTable
    (hfound : (handles.filter fun entry => entry.2.Usable).findSome?
      (fun entry => entry.2.table) = some vbt) :
    ∃ before first after, FirstTable handles before first after vbt := by
  obtain ⟨kept, first, rest, hsplit, hfirst, hkept⟩ := List.findSome?_eq_some_iff.mp hfound
  obtain ⟨front, back, rfl, rfl, hback⟩ := List.filter_eq_append_iff.mp hsplit
  -- The unusable volumes that lie directly before the first one belong to what is passed over.
  obtain ⟨skipped, after, rfl, hskipped, husable, -⟩ := List.filter_eq_cons_iff.mp hback
  refine ⟨front ++ skipped, first, after, (List.append_assoc ..).symm, by simpa using husable,
    (Volume.table_eq_some_iff _ _).mp hfirst, fun entry hentry => ?_⟩
  rcases List.mem_append.mp hentry with hfront | hmem
  · exact forall_table_eq_none_iff.mp hkept entry hfront
  · exact fun h => absurd h (by simpa using hskipped entry hmem)

end FirstTable

/-- The table that a search among handles gives. -/
def tableAmong : Except Status (List (Handle × Volume)) → Option Vbt
  | .error _ => none
  | .ok handles =>
    (handles.filter fun entry => entry.2.Usable).findSome? fun entry => entry.2.table

/-- What a search among handles does. -/
def searchEvents : Except Status (List (Handle × Volume)) → List (Event ε)
  | .error status => [.service (.locateHandles .firmwareVolume status)]
  | .ok handles =>
    .service (.locateHandles .firmwareVolume .success) :: handles.map lookUp ++
      (upToFirst (fun entry => entry.2.table) (handles.filter fun entry => entry.2.Usable)).map
        reading

theorem run_locateAmong (handles : Except Status (List (Handle × Volume)))
    (platform : Platform δ ε) :
    (locateAmong handles).run platform =
      (tableAmong handles, noted (searchEvents handles) platform) := by
  cases handles with
  | error status => rfl
  | ok handles =>
    have hrun : (locateAmong (.ok handles)).run platform =
        (usableVolumes handles >>= findVbt readSection).run
          (noted [.service (.locateHandles .firmwareVolume .success)] platform) := rfl
    rw [hrun, run_bind, run_usableVolumes, run_findVbt, noted_noted, noted_noted]
    rfl

section Search

variable (handles : List (Handle × Volume)) (platform : Platform δ ε)

theorem locateAmong_eq_some_iff (vbt : Vbt) :
    ((locateAmong (.ok handles)).run platform).1 = some vbt ↔
      ∃ before first after, FirstTable handles before first after vbt := by
  rw [run_locateAmong]
  refine ⟨exists_firstTable, ?_⟩
  rintro ⟨before, first, after, h⟩
  exact h.findSome_filter

theorem locateAmong_eq_none_iff :
    ((locateAmong (.ok handles)).run platform).1 = none ↔
      ∀ entry ∈ handles, entry.2.Usable → ∀ other, ¬ entry.2.Holds other := by
  rw [run_locateAmong]
  exact List.findSome?_eq_none_iff.trans forall_table_eq_none_iff

end Search

/-- The search gives the table of the first volume, in the order of the handles, whose
interface is found and whose read gives one, and no table exactly when there is no such
volume.  All handles are looked up before the first read, and the volumes that are read
are the usable ones up to the one whose table is given.  Nothing else is done. -/
theorem locateAmong_first :
    (∀ (status : Status) (platform : Platform δ ε),
      (locateAmong (.error status)).run platform =
        (none, noted [.service (.locateHandles .firmwareVolume status)] platform)) ∧
    ∀ (handles : List (Handle × Volume)) (platform : Platform δ ε),
      let ran := (locateAmong (.ok handles)).run platform
      (∀ vbt, ran.1 = some vbt ↔
        ∃ before first after, FirstTable handles before first after vbt) ∧
      (ran.1 = none ↔
        ∀ entry ∈ handles, entry.2.Usable → ∀ other, ¬ entry.2.Holds other) ∧
      ∃ read : List (Handle × Volume),
        ran.2 = noted (.service (.locateHandles .firmwareVolume .success) ::
          handles.map lookUp ++ read.map reading) platform ∧
        (∀ before first after vbt, FirstTable handles before first after vbt →
          read = before.filter (fun entry => entry.2.Usable) ++ [first]) ∧
        (ran.1 = none → read = handles.filter fun entry => entry.2.Usable) := by
  refine ⟨fun _ _ => rfl, fun handles platform => ?_⟩
  refine ⟨locateAmong_eq_some_iff handles platform, locateAmong_eq_none_iff handles platform, ?_⟩
  rw [run_locateAmong]
  refine ⟨_, rfl, ?_, fun hran => ?_⟩
  · intro before first after vbt h
    exact h.upToFirst_filter
  · exact upToFirst_of_none (List.findSome?_eq_none_iff.mp hran)

/-- The table of a platform is that of its first volume, in the order of their numbers,
whose interface is found and whose read gives one.  There is none exactly when there is no
such volume, or the volumes were not found. -/
theorem locateVbt_first (volumes : List Volume) (platform : Platform δ ε) :
    (∀ vbt, ((locateVbt (.ok volumes)).run platform).1 = some vbt ↔
      ∃ before first after, FirstTable (numbered volumes) before first after vbt) ∧
    (((locateVbt (.ok volumes)).run platform).1 = none ↔
      ∀ volume ∈ volumes, volume.Usable → ∀ other, ¬ volume.Holds other) ∧
    ∀ status, ((locateVbt (.error status)).run platform).1 = none := by
  refine ⟨locateAmong_eq_some_iff (numbered volumes) platform, ?_, fun _ => rfl⟩
  refine (locateAmong_eq_none_iff (numbered volumes) platform).trans ?_
  constructor
  · intro h volume hvolume
    obtain ⟨index, hindex, rfl⟩ := List.mem_iff_getElem.mp hvolume
    exact h (UInt64.ofNat (index + 1), volumes[index])
      (List.mem_mapIdx.mpr ⟨index, hindex, rfl⟩)
  · intro h entry hentry
    obtain ⟨index, hindex, rfl⟩ := List.mem_mapIdx.mp hentry
    exact h volumes[index] (List.getElem_mem hindex)

end GuestFirmware.Display
