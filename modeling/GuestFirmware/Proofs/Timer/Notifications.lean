import GuestFirmware.Proofs.Timer.Consistent

/-!
# Every notification is accounted for

Handlers are notified by ticks and by soft interrupts, and a handler that runs
may itself cause either, or change the handler or the period.  This module says
which notifications a run makes, and what else each call does.

* `Accounted` is about one call: what it answers, and what it writes before a
  handler starts.
* `Unlocked` is about the lock of the handler, over all events of a run.
* `notifications_runCalls` is the result.  The notifications of a run are those
  of its calls, in the order in which the calls were entered.
-/

namespace GuestFirmware.Timer

open PlatformM

variable {config : TimerConfig} {enabled : LocalApic} {timer begun : ApicTimer} {made : TimerCall}
  {own : List (Event TimerEvent)} {answer : Except Status Unit}
  {target : Option (Handler × UInt64)}

/-! ## The notification of a call -/

def TimerEvent.notice : TimerEvent → Option (Handler × UInt64)
  | notified handler period => some (handler, period)
  | _ => none

/-- The handler that was registered when a call was entered, with the period
that was stored then, if the call is a tick or a soft interrupt that succeeds. -/
def Visit.notification (visit : Visit) : Option (Handler × UInt64) :=
  match visit.made, visit.answer with
  | .tick, .ok _ => visit.entered.handler.map fun handler => (handler, visit.entered.period)
  | .softInterrupt, .ok _ => visit.entered.handler.map fun handler => (handler, visit.entered.period)
  | _, _ => none

theorem notice_noticed (timer : ApicTimer) (period : UInt64) :
    (deviceEvents (noticed timer period)).filterMap TimerEvent.notice =
      (timer.handler.map fun handler => (handler, period)).toList := by
  rw [deviceEvents_noticed]
  cases timer.handler <;> rfl

theorem notice_opening (h : Opening config timer made own answer target begun) :
    (deviceEvents own).filterMap TimerEvent.notice =
      (Visit.notification ⟨made, timer, own, answer⟩).toList := by
  cases h with
  | registered hfits => rfl
  | occupied hoccupied => rfl
  | vacant hvacant => rfl
  | disarmed => rfl
  | programmed hperiod hnext => rfl
  | unsupported hmasked => rfl
  | simulated hunmasked => exact notice_noticed timer timer.period
  | idleTick hperiod =>
    rw [deviceEvents_append, List.filterMap_append, notice_noticed]
    rfl
  | tick hperiod hnext =>
    rw [deviceEvents_append, List.filterMap_append, notice_noticed]
    rfl

/-! ## What a call answers and writes -/

/-- The timer wrote a register or the deadline, or notified a handler. -/
def TimerEvent.isOutput : TimerEvent → Bool
  | registerWrite _ _ | deadlineWrite _ | notified _ _ => true
  | _ => false

def Visit.outputs (visit : Visit) : List TimerEvent :=
  (deviceEvents visit.own).filter TimerEvent.isOutput

def notifications (notification : Option (Handler × UInt64)) : List TimerEvent :=
  (notification.map fun target => .notified target.1 target.2).toList

/-- What a call answers, and what it puts out before a handler starts. -/
structure Accounted (visit : Visit) : Prop where
  registered : ∀ handler, visit.made = .register (some handler) →
    visit.answer =
      if visit.entered.handler.isSome then .error .alreadyStarted else .ok ()
  removed : visit.made = .register none →
    visit.answer =
      if visit.entered.handler.isSome then .ok () else .error .invalidParameter
  softInterrupt : visit.made = .softInterrupt →
    visit.answer = (if visit.entered.period = 0 then .error .unsupported else .ok ()) ∧
      visit.outputs = notifications visit.notification
  tick : visit.made = .tick →
    visit.answer = .ok () ∧
      ∃ next, visit.outputs =
        [.registerWrite endOfInterrupt 0, .deadlineWrite next] ++ notifications visit.notification

theorem outputs_noticed (timer : ApicTimer) (period : UInt64) :
    (deviceEvents (noticed timer period)).filter TimerEvent.isOutput =
      notifications (timer.handler.map fun handler => (handler, period)) := by
  rw [deviceEvents_noticed]
  cases timer.handler <;> rfl

theorem accounted_opening (h : Opening config timer made own answer target begun)
    (hkept : Kept enabled timer) : Accounted ⟨made, timer, own, answer⟩ := by
  cases h with
  | @registered handler hfits =>
    cases handler with
    | some handler =>
      have hvacant : timer.handler.isSome = false := by simpa using hfits
      refine ⟨?_, nofun, nofun, nofun⟩
      intro _ _
      exact (if_neg (Bool.eq_false_iff.mp hvacant)).symm
    | none =>
      have hoccupied : timer.handler.isSome = true := by simpa using hfits
      refine ⟨nofun, ?_, nofun, nofun⟩
      intro _
      exact (if_pos hoccupied).symm
  | occupied hoccupied =>
    refine ⟨?_, nofun, nofun, nofun⟩
    intro _ _
    exact (if_pos hoccupied).symm
  | vacant hvacant =>
    refine ⟨nofun, ?_, nofun, nofun⟩
    intro _
    have hnone : timer.handler.isSome = false := by rw [hvacant, Option.isSome_none]
    exact (if_neg (Bool.eq_false_iff.mp hnone)).symm
  | disarmed => exact ⟨nofun, nofun, nofun, nofun⟩
  | programmed hperiod hnext => exact ⟨nofun, nofun, nofun, nofun⟩
  | unsupported hmasked =>
    refine ⟨nofun, nofun, ?_, nofun⟩
    intro _
    exact ⟨(if_pos (hkept.isMasked_iff.mp hmasked)).symm, rfl⟩
  | simulated hunmasked =>
    refine ⟨nofun, nofun, ?_, nofun⟩
    intro _
    have hperiod : timer.period ≠ 0 := by
      intro hzero
      rw [hkept.isMasked_iff.mpr hzero] at hunmasked
      cases hunmasked
    exact ⟨(if_neg hperiod).symm, outputs_noticed timer timer.period⟩
  | idleTick hperiod =>
    refine ⟨nofun, nofun, nofun, ?_⟩
    intro _
    refine ⟨rfl, 0, ?_⟩
    rw [Visit.outputs, deviceEvents_append, List.filter_append, outputs_noticed]
    rfl
  | @tick next hperiod hnext =>
    refine ⟨nofun, nofun, nofun, ?_⟩
    intro _
    refine ⟨rfl, next, ?_⟩
    rw [Visit.outputs, deviceEvents_append, List.filter_append, outputs_noticed]
    rfl

/-! ## The lock of the handler -/

/-- Whether the lock of the handler is held after an event.  It is taken only
while it is free and given up only while it is held.  While it is held, nothing
is asked of the boot services and no handler is notified, so that a handler can
take it. -/
def lockAfter (held : Bool) : Event TimerEvent → Option Bool
  | .acquire _ => if held then none else some true
  | .release _ => if held then some false else none
  | .service _ => if held then none else some held
  | .device (.notified _ _) => if held then none else some held
  | .device _ => some held

/-- The lock is free before the events and after them, and used properly in
between. -/
def Unlocked (events : List (Event TimerEvent)) : Prop :=
  events.foldlM lockAfter false = some false

namespace Unlocked

theorem append {front back : List (Event TimerEvent)} (hfront : Unlocked front)
    (hback : Unlocked back) : Unlocked (front ++ back) := by
  unfold Unlocked at hfront hback ⊢
  rw [List.foldlM_append, hfront]
  exact hback

theorem atHigh {events : List (Event TimerEvent)} (h : Unlocked events) (previous : Tpl) :
    Unlocked (atHigh previous events) := by
  have hraise : Unlocked [.service (.raiseTpl .high previous)] := rfl
  have hrestore : Unlocked [.service (.restoreTpl previous)] := rfl
  exact (hraise.append h).append hrestore

theorem noticed (timer : ApicTimer) (period : UInt64) : Unlocked (noticed timer period) := by
  unfold Timer.noticed
  cases timer.handler <;> rfl

theorem opening (h : Opening config timer made own answer target begun) : Unlocked own := by
  cases h with
  | registered hfits => rfl
  | occupied hoccupied => rfl
  | vacant hvacant => rfl
  | disarmed => rfl
  | programmed hperiod hnext => rfl
  | unsupported hmasked => rfl
  | simulated hunmasked => exact noticed timer timer.period
  | idleTick hperiod => exact append rfl (noticed timer timer.period)
  | tick hperiod hnext => exact append rfl (noticed timer timer.period)

/-- A call inside a call begins when the outer one has notified a handler, and by
then the lock is free again. -/
theorem ran {level : Tpl} {after : ApicTimer} {events : List (Event TimerEvent)}
    {visits : List Visit} (h : Ran config level timer events visits after) : Unlocked events := by
  induction h with
  | idle => rfl
  | reported status => rfl
  | trans hfront hback ihfront ihback => exact ihfront.append ihback
  | quiet hopening => exact (opening hopening).atHigh _
  | notifying hopening hinner ih => exact ((opening hopening).append ih).atHigh _

end Unlocked

/-! ## Runs -/

/-- On a new timer that was enabled, with handlers of any behaviour that call the
timer to any depth, the notifications are those of the calls in the order of
being entered.  A call is entered with the handler and the period of the calls
that were entered before it, and every call is accounted for. -/
theorem notifications_runCalls {config : TimerConfig} {services : Services} {apic : LocalApic}
    (henabled : ((enable config).run (fresh services apic)).1 = .ok ())
    (behaviour : Behaviour) (depth : Nat) (calls : List TimerCall) :
    let first := ((enable config).run (fresh services apic)).2
    let ran := (runCalls config (deliverUpTo config behaviour depth) calls).run first
    ∃ events visits,
      Follows config first ran.2 events visits ∧ Answered calls ran.1 visits ∧
      (deviceEvents events).filterMap TimerEvent.notice = visits.filterMap Visit.notification ∧
      (∀ visit ∈ visits, Accounted visit) ∧
      (∀ earlier visit later, visits = earlier ++ visit :: later →
        visit.entered.handler = lastHandler earlier ∧
          visit.entered.period = lastPeriod earlier) ∧
      ran.2.device.handler = lastHandler visits ∧ Unlocked events := by
  intro first ran
  have hfirst : Enabled config apic first.device := enabled_of_ok henabled
  obtain ⟨events, visits, hfollows, hanswered⟩ :=
    follows_runCalls (delivers_deliverUpTo config behaviour depth) calls first
  obtain ⟨-, hkept⟩ := hfollows.ran.invariant kept_opening hfirst.kept
  obtain ⟨hhandler, hhandlerAt⟩ := handler_visits hfollows.ran hfirst.handler
  obtain ⟨-, hperiodAt⟩ := period_visits hfollows.ran hfirst.period
  refine ⟨events, visits, hfollows, hanswered, ?_, ?_, ?_, hhandler, .ran hfollows.ran⟩
  · exact hfollows.ran.filterMap_deviceEvents TimerEvent.notice Visit.notification
      (fun _ => rfl) notice_opening
  · intro visit hvisit
    obtain ⟨target, begun, hopening⟩ := hfollows.ran.opening_of_mem hvisit
    exact accounted_opening hopening (hkept visit hvisit)
  · intro earlier visit later hvisits
    exact ⟨hhandlerAt earlier visit later hvisits, hperiodAt earlier visit later hvisits⟩

/-- Every handler takes itself out. -/
def leaving : Behaviour :=
  fun _ _ _ => .calling (.register none)

theorem notifications_runCalls_leaving :
    ((enable twoGigahertz).run (fresh {} maskedApic)).1 = .ok () ∧
      let first := ((enable twoGigahertz).run (fresh {} maskedApic)).2
      let ran := (runCalls twoGigahertz (deliverUpTo twoGigahertz leaving 1)
        [.register (some 7), .setPeriod 250, .tick, .tick]).run first
      ∃ events visits,
        Follows twoGigahertz first ran.2 events visits ∧
        (deviceEvents events).filterMap TimerEvent.notice = visits.filterMap Visit.notification ∧
        visits.filterMap Visit.notification = [(7, 250)] := by
  have henabled : ((enable twoGigahertz).run (fresh {} maskedApic)).1 = .ok () := by rfl
  refine ⟨henabled, ?_⟩
  intro first ran
  obtain ⟨events, visits, hfollows, -, hnotices, -⟩ :=
    notifications_runCalls henabled leaving 1 [.register (some 7), .setPeriod 250, .tick, .tick]
  have hevents : events = ran.2.trace.drop first.trace.length := by
    rw [hfollows.trace, List.drop_left]
  refine ⟨events, visits, hfollows, hnotices, ?_⟩
  rw [← hnotices, hevents]
  decide +kernel

end GuestFirmware.Timer
