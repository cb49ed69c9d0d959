import GuestFirmware.Display.Policy
import GuestFirmware.Proofs.Display.TableSearch

/-!
# The kept video BIOS table

A graphics driver may ask for the table many times while volumes come and go.  As long
as no table was found every request searches again, also one that is rejected because it
gives no variables.  The first table that is found is kept, and no later request searches.

* `Stable` says this of a sequence of requests, the searches they led to and the answers.
* `answersFrom` and `lookupsFrom` compute the answers and the searches from what is kept.
* `run_serveAll` and `run_askAll` say that the cache, for any results of its searches,
  and the protocol, for any volumes, do what these compute.  `requests_stable` is the
  result.
-/

namespace GuestFirmware.Display

open PlatformM

variable {α : Type}

/-! ## Requests and their answers -/

/-- A request for the table: which variables the caller gives, and what a search at the
time of the request would go through. -/
structure TableRequest (α : Type) where
  address : Bool
  size : Bool
  source : α

/-- An answer tells of a table and writes it, or it is a failure and writes nothing. -/
def Tells (vbt : Vbt) (answer : Status × Option Vbt) : Prop :=
  answer = (.success, some vbt) ∨ (answer.1 ≠ .success ∧ answer.2 = none)

namespace TableRequest

/-- The caller gives both variables. -/
def hasOutputs (request : TableRequest α) : Bool :=
  request.address && request.size

/-- The answer as long as there is no table. -/
def missing (request : TableRequest α) : Status × Option Vbt :=
  if request.hasOutputs then (.notFound, none) else (.invalidParameter, none)

/-- The answer when there is a table. -/
def told (vbt : Vbt) (request : TableRequest α) : Status × Option Vbt :=
  if request.hasOutputs then (.success, some vbt) else (.invalidParameter, none)

theorem reportVbt_none (request : TableRequest α) :
    reportVbt none request.hasOutputs = request.missing := rfl

theorem reportVbt_some (vbt : Vbt) (request : TableRequest α) :
    reportVbt (some vbt) request.hasOutputs = request.told vbt := rfl

theorem tells_missing (vbt : Vbt) (request : TableRequest α) : Tells vbt request.missing := by
  rw [missing]
  split <;> exact .inr ⟨by decide, rfl⟩

theorem tells_told (vbt : Vbt) (request : TableRequest α) : Tells vbt (request.told vbt) := by
  rw [told]
  split
  · exact .inl rfl
  · exact .inr ⟨by decide, rfl⟩

end TableRequest

/-- The answers to requests do not depend on what happens after the first search that
finds a table.  The second part of an answer is what is written to the variables. -/
structure Stable (finds : α → Option Vbt) (requests lookedUp : List (TableRequest α))
    (answers : List (Status × Option Vbt)) : Prop where
  /-- Without a table every request searches. -/
  missed : (∀ request ∈ requests, finds request.source = none) →
    lookedUp = requests ∧ answers = requests.map TableRequest.missing
  /-- The first table that is found is kept, and there is no other search. -/
  kept : ∀ before hit after vbt, requests = before ++ hit :: after →
    (∀ request ∈ before, finds request.source = none) → finds hit.source = some vbt →
    lookedUp = before ++ [hit] ∧
      answers = before.map TableRequest.missing ++ (hit :: after).map (TableRequest.told vbt)
  /-- The variables are written exactly by the requests that succeed. -/
  written : ∀ answer ∈ answers, answer.2.isSome = true ↔ answer.1 = .success
  /-- Two requests that succeed are told the same. -/
  agree : ∀ first ∈ answers, ∀ second ∈ answers,
    first.1 = .success → second.1 = .success → first = second

/-! ## Answers and searches from what is kept -/

variable (finds : α → Option Vbt)

/-- The answers to requests, from the table that is kept before them. -/
def answersFrom : Option Vbt → List (TableRequest α) → List (Status × Option Vbt)
  | _, [] => []
  | kept, request :: rest =>
    let vbt := kept.or (finds request.source)
    reportVbt vbt request.hasOutputs :: answersFrom vbt rest

/-- The requests that search, from the table that is kept before them. -/
def lookupsFrom (kept : Option Vbt) (requests : List (TableRequest α)) :
    List (TableRequest α) :=
  if kept.isSome then [] else upToFirst (fun request => finds request.source) requests

variable {finds}

theorem answersFrom_some (vbt : Vbt) (requests : List (TableRequest α)) :
    answersFrom finds (some vbt) requests = requests.map (TableRequest.told vbt) := by
  induction requests with
  | nil => rfl
  | cons request rest ih =>
    rw [answersFrom, Option.some_or, ih, TableRequest.reportVbt_some, List.map_cons]

/-- Requests that find nothing leave the ones after them as they were. -/
theorem answersFrom_append {front : List (TableRequest α)}
    (hfront : ∀ request ∈ front, finds request.source = none) (back : List (TableRequest α)) :
    answersFrom finds none (front ++ back) =
      front.map TableRequest.missing ++ answersFrom finds none back := by
  induction front with
  | nil => rfl
  | cons request rest ih =>
    rw [List.forall_mem_cons] at hfront
    rw [List.cons_append, answersFrom, hfront.1, Option.or_none, ih hfront.2,
      TableRequest.reportVbt_none, List.map_cons, List.cons_append]

theorem lookupsFrom_nil (kept : Option Vbt) : lookupsFrom finds kept [] = [] := by
  cases kept <;> rfl

/-- A request searches when nothing is kept, and what it finds is kept for the ones after
it. -/
theorem lookupsFrom_cons (kept : Option Vbt) (request : TableRequest α)
    (rest : List (TableRequest α)) :
    lookupsFrom finds kept (request :: rest) =
      (if kept.isSome then [] else [request]) ++
        lookupsFrom finds (kept.or (finds request.source)) rest := by
  cases kept with
  | some vbt => rfl
  | none =>
    simp only [lookupsFrom, upToFirst, Option.none_or]
    cases finds request.source <;> rfl

/-- The first search that finds a table decides all answers after it. -/
theorem answersFrom_split {before : List (TableRequest α)}
    (hbefore : ∀ request ∈ before, finds request.source = none) {hit : TableRequest α} {vbt : Vbt}
    (hhit : finds hit.source = some vbt) (after : List (TableRequest α)) :
    answersFrom finds none (before ++ hit :: after) =
      before.map TableRequest.missing ++ (hit :: after).map (TableRequest.told vbt) := by
  rw [answersFrom_append hbefore, answersFrom, hhit, Option.none_or, answersFrom_some,
    TableRequest.reportVbt_some, List.map_cons]

variable (finds) in
/-- All answers that tell of a table tell of the same one. -/
theorem exists_tells (kept : Option Vbt) (requests : List (TableRequest α)) :
    ∃ vbt, ∀ answer ∈ answersFrom finds kept requests, Tells vbt answer := by
  induction requests generalizing kept with
  | nil => exact ⟨⟨0, 0⟩, fun answer hanswer => by cases hanswer⟩
  | cons request rest ih =>
    rw [answersFrom]
    cases kept.or (finds request.source) with
    | none =>
      obtain ⟨vbt, hrest⟩ := ih none
      exact ⟨vbt, List.forall_mem_cons.mpr ⟨request.tells_missing vbt, hrest⟩⟩
    | some vbt =>
      refine ⟨vbt, List.forall_mem_cons.mpr ⟨request.tells_told vbt, ?_⟩⟩
      rw [answersFrom_some]
      exact List.forall_mem_map.mpr fun later _ => later.tells_told vbt

/-- Answers and searches that start without a table are stable. -/
theorem stable_answersFrom (requests : List (TableRequest α)) :
    Stable finds requests (lookupsFrom finds none requests) (answersFrom finds none requests) := by
  obtain ⟨vbt, htells⟩ := exists_tells finds none requests
  refine ⟨fun hmissed => ⟨upToFirst_of_none hmissed, ?_⟩, ?_, ?_, ?_⟩
  · simpa [answersFrom] using answersFrom_append hmissed []
  · rintro before hit after vbt rfl hbefore hhit
    exact ⟨upToFirst_of_some hbefore hhit after, answersFrom_split hbefore hhit after⟩
  · intro answer hanswer
    rcases htells answer hanswer with rfl | ⟨hfailed, hnothing⟩
    · simp
    · simp [hfailed, hnothing]
  · intro first hfirst second hsecond hfirstOk hsecondOk
    have heq := (htells first hfirst).resolve_right fun h => h.1 hfirstOk
    rw [heq, (htells second hsecond).resolve_right fun h => h.1 hsecondOk]

/-! ## The cache -/

/-- Answers requests from a cache.  The state is the list of requests that searched, and
what a search finds comes with its request. -/
def serveAll (cache : VbtCache) : List (TableRequest (Option Vbt)) →
    StateM (List (TableRequest (Option Vbt))) (List (Status × Option Vbt))
  | [] => return []
  | request :: rest => do
    let (vbt, cache) ← cache.get do
      modify (· ++ [request])
      return request.source
    return reportVbt vbt request.hasOutputs :: (← serveAll cache rest)

theorem run_serveAll_cons (cache : VbtCache) (request : TableRequest (Option Vbt))
    (rest lookedUp : List (TableRequest (Option Vbt))) :
    (serveAll cache (request :: rest)).run lookedUp =
      let vbt := cache.found.or request.source
      let ran := (serveAll ⟨vbt⟩ rest).run
        (lookedUp ++ if cache.found.isSome then [] else [request])
      (reportVbt vbt request.hasOutputs :: ran.1, ran.2) := by
  obtain ⟨_ | vbt⟩ := cache
  · rfl
  · simp only [Option.isSome_some, if_true, List.append_nil]
    rfl

theorem run_serveAll (cache : VbtCache) (requests lookedUp : List (TableRequest (Option Vbt))) :
    (serveAll cache requests).run lookedUp =
      (answersFrom id cache.found requests, lookedUp ++ lookupsFrom id cache.found requests) := by
  induction requests generalizing cache lookedUp with
  | nil =>
    rw [lookupsFrom_nil, List.append_nil]
    rfl
  | cons request rest ih =>
    simp only [run_serveAll_cons, ih, answersFrom, lookupsFrom_cons, id, List.append_assoc]

/-! ## The protocol -/

/-- Answers a request through the protocol, with the volumes that the platform has by
then. -/
def ask (request : TableRequest Volumes) : PolicyM (Status × Option Vbt) := do
  modify fun platform =>
    { platform with device := { platform.device with volumes := request.source } }
  protocolVbt request.hasOutputs

/-- Answers requests through the protocol. -/
def askAll : List (TableRequest Volumes) → PolicyM (List (Status × Option Vbt))
  | [] => return []
  | request :: rest => do
    let answer ← ask request
    return answer :: (← askAll rest)

/-- The table that a search on volumes finds. -/
def tableOn (volumes : Volumes) : Option Vbt :=
  tableAmong (volumes.map numbered)

/-- What the searches of requests do. -/
def lookupEvents (requests : List (TableRequest Volumes)) : List (Event Empty) :=
  requests.flatMap fun request => searchEvents (request.source.map numbered)

theorem lookupEvents_append (front back : List (TableRequest Volumes)) :
    lookupEvents (front ++ back) = lookupEvents front ++ lookupEvents back :=
  List.flatMap_append

/-- The platform after a request. -/
def afterRequest (request : TableRequest Volumes) (platform : Platform Policy Empty) :
    Platform Policy Empty where
  services := platform.services
  device := ⟨request.source, ⟨platform.device.cache.found.or (tableOn request.source)⟩⟩
  trace := platform.trace ++
    lookupEvents (if platform.device.cache.found.isSome then [] else [request])

theorem run_ask (request : TableRequest Volumes) (platform : Platform Policy Empty) :
    (ask request).run platform =
      (reportVbt (platform.device.cache.found.or (tableOn request.source)) request.hasOutputs,
        afterRequest request platform) := by
  obtain ⟨services, ⟨volumes, ⟨_ | vbt⟩⟩, trace⟩ := platform
  · have hrun : (ask request).run ⟨services, ⟨volumes, ⟨none⟩⟩, trace⟩ =
        let found : Option Vbt × Platform Policy Empty :=
          (locateVbt request.source).run ⟨services, ⟨request.source, ⟨none⟩⟩, trace⟩
        (reportVbt found.1 request.hasOutputs,
          { found.2 with device := { found.2.device with cache := ⟨found.1⟩ } }) := rfl
    rw [hrun, locateVbt, run_locateAmong]
    simp only [afterRequest, lookupEvents, Option.isSome_none, Bool.false_eq_true, if_false,
      List.flatMap_singleton]
    rfl
  · simp only [afterRequest, Option.isSome_some, if_true, lookupEvents, List.flatMap_nil,
      List.append_nil]
    rfl

theorem run_askAll (requests : List (TableRequest Volumes)) (platform : Platform Policy Empty) :
    let kept := platform.device.cache.found
    ∃ device, (askAll requests).run platform =
      (answersFrom tableOn kept requests, ⟨platform.services, device,
        platform.trace ++ lookupEvents (lookupsFrom tableOn kept requests)⟩) := by
  induction requests generalizing platform with
  | nil =>
    refine ⟨platform.device, ?_⟩
    simp only [lookupsFrom_nil, lookupEvents, List.flatMap_nil, List.append_nil]
    rfl
  | cons request rest ih =>
    obtain ⟨device, hrest⟩ := ih (afterRequest request platform)
    refine ⟨device, ?_⟩
    rw [askAll, run_bind, run_ask, run_bind, hrest, lookupsFrom_cons, lookupEvents_append,
      ← List.append_assoc]
    rfl

/-- The answers to requests for the table are stable: those of the cache, whatever each
search would find, and those of the protocol, whatever volumes there are at each request.
The protocol calls the boot services for its searches only. -/
theorem requests_stable :
    (∀ requests : List (TableRequest (Option Vbt)),
      let ran := (serveAll {} requests).run []
      Stable id requests ran.2 ran.1) ∧
    ∀ (requests : List (TableRequest Volumes)) (services : Services) (volumes : Volumes)
      (trace : List (Event Empty)),
      let ran := (askAll requests).run ⟨services, { volumes := volumes }, trace⟩
      ∃ lookedUp, Stable tableOn requests lookedUp ran.1 ∧
        ran.2.services = services ∧
        ran.2.trace = trace ++ lookupEvents lookedUp := by
  refine ⟨fun requests => ?_, fun requests services volumes trace => ?_⟩
  · rw [run_serveAll]
    exact stable_answersFrom requests
  · obtain ⟨device, hrun⟩ := run_askAll requests ⟨services, { volumes := volumes }, trace⟩
    rw [hrun]
    exact ⟨_, stable_answersFrom requests, rfl, rfl⟩

end GuestFirmware.Display
