import GuestFirmware.Proofs.Platform.Log

/-!
# Levels and locks of a stretch of a run

A driver that raises the task priority level has to set it back to the level
that raising it answered, and a driver that takes a lock has to give it up
again.  `Scope` is what was begun and not ended yet, and `Scope.after` follows
it event by event.  It has no answer for an event that breaks the discipline: a
level that is set back to another one than its own raise answered, or while a
lock is held, and a lock that is taken twice or given up by someone who does not
hold it.

`Balanced` is a stretch of a run that breaks nothing and leaves nothing open.
Whether it does so does not depend on what was begun around it (`Balanced.run`).
From this follow the ways to build such stretches: one after the other
(`Balanced.append`), with a lock held (`Balanced.holding`), and inside a level
that is raised for it (`Balanced.raising`).
-/

namespace GuestFirmware

variable {δ ε α : Type}

/-! ## What is open -/

/-- What was begun and not ended yet. -/
structure Scope where
  level : Tpl
  /-- What the raises that were not undone yet answered, the last one first. -/
  raised : List Tpl := []
  held : List Lock := []
  deriving DecidableEq, Repr

namespace Scope

/-- The scope after an event that keeps to the discipline. -/
def after (scope : Scope) : Event ε → Option Scope
  | .service (.raiseTpl level previous) =>
    if previous = scope.level then
      some { scope with level := level, raised := previous :: scope.raised }
    else none
  | .service (.restoreTpl level) =>
    match scope.raised with
    | [] => none
    | previous :: outer =>
      if level = previous ∧ scope.held = [] then
        some { scope with level := level, raised := outer }
      else none
  | .acquire lock =>
    if lock ∈ scope.held then none else some { scope with held := lock :: scope.held }
  | .release lock =>
    if lock ∈ scope.held then some { scope with held := scope.held.erase lock } else none
  | _ => some scope

/-- The scope after a stretch of a run. -/
def afterAll (scope : Scope) (events : List (Event ε)) : Option Scope :=
  events.foldlM after scope

/-- The scope inside raises that were made before it. -/
def inside (outer : List Tpl) (scope : Scope) : Scope :=
  { scope with raised := scope.raised ++ outer }

/-- What keeps to the discipline by itself does so inside other raises, and
undoes none of them. -/
theorem after_inside (outer : List Tpl) {scope next : Scope} {event : Event ε}
    (h : scope.after event = some next) :
    (scope.inside outer).after event = some (next.inside outer) := by
  unfold after at h ⊢
  split at h
  case h_2 level =>
    -- Only here the raises are looked at.
    cases hraised : scope.raised with
    | nil => simp [hraised] at h
    | cons previous rest =>
      simp only [hraised] at h
      simp only [inside, hraised, List.cons_append]
      split at h
      · next hallowed =>
        rw [if_pos hallowed]
        cases h
        rfl
      · cases h
  all_goals grind [inside]

theorem afterAll_inside (outer : List Tpl) {scope last : Scope} {events : List (Event ε)}
    (h : scope.afterAll events = some last) :
    (scope.inside outer).afterAll events = some (last.inside outer) := by
  induction events generalizing scope with
  | nil =>
    cases h
    rfl
  | cons event rest ih =>
    simp only [afterAll, List.foldlM_cons, Option.bind_eq_bind, Option.bind_eq_some_iff] at h ⊢
    obtain ⟨next, hnext, hrest⟩ := h
    exact ⟨next.inside outer, after_inside outer hnext, ih hrest⟩

theorem afterAll_append {scope middle last : Scope} {front back : List (Event ε)}
    (hfront : scope.afterAll front = some middle) (hback : middle.afterAll back = some last) :
    scope.afterAll (front ++ back) = some last := by
  rw [afterAll] at hfront hback ⊢
  rw [List.foldlM_append, hfront]
  exact hback

end Scope

/-! ## Balanced stretches -/

/-- A stretch that begins at a level keeps to the discipline and ends all that it
begins. -/
def Balanced (level : Tpl) (events : List (Event ε)) : Prop :=
  ({ level := level } : Scope).afterAll events = some { level := level }

instance (level : Tpl) (events : List (Event ε)) : Decidable (Balanced level events) :=
  inferInstanceAs (Decidable (_ = _))

/-- The event is about no level and no lock. -/
def Event.plain : Event ε → Bool
  | .service (.raiseTpl _ _) | .service (.restoreTpl _) | .acquire _ | .release _ => false
  | _ => true

theorem Scope.after_of_plain (scope : Scope) {event : Event ε} (h : event.plain = true) :
    scope.after event = some scope := by
  unfold Event.plain at h
  unfold Scope.after
  grind

theorem Scope.afterAll_of_plain (scope : Scope) {events : List (Event ε)}
    (h : events.all Event.plain = true) : scope.afterAll events = some scope := by
  induction events with
  | nil => rfl
  | cons event rest ih =>
    rw [List.all_cons, Bool.and_eq_true] at h
    rw [afterAll, List.foldlM_cons, after_of_plain scope h.1]
    exact ih h.2

/-- The events of an action at a raised level. -/
def raisedTo (level previous : Tpl) (events : List (Event ε)) : List (Event ε) :=
  .service (.raiseTpl level previous) :: events ++ [.service (.restoreTpl previous)]

namespace Balanced

variable {level previous : Tpl} {front back events : List (Event ε)}

theorem nil : Balanced level ([] : List (Event ε)) := rfl

/-- A balanced stretch leaves everything around it as it is. -/
theorem run (h : Balanced level events) (outer : List Tpl) :
    ({ level := level, raised := outer } : Scope).afterAll events =
      some { level := level, raised := outer } :=
  Scope.afterAll_inside outer h

theorem append (hfront : Balanced level front) (hback : Balanced level back) :
    Balanced level (front ++ back) :=
  Scope.afterAll_append hfront hback

theorem of_plain (h : events.all Event.plain = true) : Balanced level events :=
  Scope.afterAll_of_plain _ h

/-- A lock is held while nothing happens that is about levels or locks. -/
theorem holding (lock : Lock) (h : events.all Event.plain = true) :
    Balanced level ([.acquire lock] ++ events ++ [.release lock]) := by
  have hacquire : ({ level := level } : Scope).afterAll [(.acquire lock : Event ε)] =
      some { level := level, held := [lock] } := rfl
  have hrelease : ({ level := level, held := [lock] } : Scope).afterAll
      [(.release lock : Event ε)] = some { level := level } := by
    simp [Scope.afterAll, Scope.after]
  exact Scope.afterAll_append
    (Scope.afterAll_append hacquire (Scope.afterAll_of_plain _ h)) hrelease

/-- What is balanced at a level is balanced around it, if the level is raised for
it and set back. -/
theorem raising (h : Balanced level events) :
    Balanced previous (raisedTo level previous events) := by
  have hraise : ({ level := previous } : Scope).afterAll
      [(.service (.raiseTpl level previous) : Event ε)] =
        some { level := level, raised := [previous] } := by
    simp [Scope.afterAll, Scope.after]
  have hrestore : ({ level := level, raised := [previous] } : Scope).afterAll
      [(.service (.restoreTpl previous) : Event ε)] = some { level := previous } := by
    simp [Scope.afterAll, Scope.after]
  exact Scope.afterAll_append (Scope.afterAll_append hraise (h.run [previous])) hrestore

/-- The level must not be set back before the lock is given up. -/
example : ¬ Balanced .callback ([.service (.raiseTpl .high .callback), .acquire .timerHandler,
    .service (.restoreTpl .callback), .release .timerHandler] : List (Event Unit)) := by
  decide

end Balanced

/-- Between two platforms everything happened at a raised level.  What happened
there is balanced, so it does not undo the raise, and it holds no lock at its
end, where the level is set back to the one before. -/
structure RaisedFor (level : Tpl) (before after : Platform δ ε) (inner : List (Event ε)) :
    Prop where
  trace : after.trace = before.trace ++ raisedTo level before.services.tpl inner
  balanced : Balanced level inner
  tpl : after.services.tpl = before.services.tpl

open PlatformM in
theorem RaisedFor.of_withTpl {level : Tpl} {before : Platform δ ε} {action : PlatformM δ ε α}
    {inner : List (Event ε)}
    (htrace : (action.run (afterCall (Services.raiseTpl level) before)).2.trace =
      (afterCall (Services.raiseTpl level) before).trace ++ inner)
    (hbalanced : Balanced level inner) :
    RaisedFor level before ((withTpl level action).run before).2 inner where
  trace := by
    show (action.run (afterCall (Services.raiseTpl level) before)).2.trace ++ [_] = _
    rw [htrace]
    show before.trace ++ [_] ++ inner ++ [_] = _
    simp [raisedTo, Services.raiseTpl]
  balanced := hbalanced
  tpl := rfl

end GuestFirmware
