import GuestFirmware.Proofs.Platform.Log
import GuestFirmware.Timer.ApicTimer

/-!
# Calls of the timer inside calls of the timer

A handler that is notified may call the timer, and these calls may notify a
handler again.  This module says what a run of the timer does, whatever the
handlers do.

* `Opening` is one call up to the point where a handler starts: how the call
  goes, what it does to the timer, and which handler it notifies.
* `Ran` is a stretch of a run.  It consists of calls, and inside a call that
  notifies a handler there is another stretch.  `Visit` is a call as it was
  entered, and a stretch comes with its visits in the order of being entered.
* `follows_runCalls` is the result: the calls that the timer is given, with
  handlers of any behaviour and any depth, are such a stretch.
-/

namespace GuestFirmware.Timer

open PlatformM

/-! ## Changes of the timer -/

namespace ApicTimer

def masking (masked : Bool) (timer : ApicTimer) : ApicTimer :=
  { timer with
    apic := timer.apic.write lvtTimer
      (LvtTimer.setMasked (timer.apic.registers lvtTimer) masked) }

def arming (deadline : UInt64) (timer : ApicTimer) : ApicTimer :=
  { timer with apic := { timer.apic with deadline := some deadline } }

/-- The counter was read. -/
def reading (timer : ApicTimer) : ApicTimer :=
  { timer with apic := { timer.apic with tscReads := timer.apic.tscReads + 1 } }

/-- The interrupt was ended. -/
def ending (timer : ApicTimer) : ApicTimer :=
  { timer with apic := timer.apic.write endOfInterrupt 0 }

def storing (period : UInt64) (timer : ApicTimer) : ApicTimer :=
  { timer with period := period }

/-- What the counter reads next. -/
def nextReading (timer : ApicTimer) : UInt64 :=
  timer.apic.tscAt timer.apic.tscReads

end ApicTimer

/-! ## How a call begins -/

abbrev wrote (offset value : UInt32) : Event TimerEvent :=
  .device (.registerWrite offset value)

abbrev armed (deadline : UInt64) : Event TimerEvent :=
  .device (.deadlineWrite deadline)

/-- The slot of the handler is looked at. -/
abbrev slotVisit : List (Event TimerEvent) :=
  [.acquire .timerHandler, .release .timerHandler]

/-- The registered handler is looked up and notified. -/
def noticed (timer : ApicTimer) (period : UInt64) : List (Event TimerEvent) :=
  slotVisit ++ (timer.handler.map fun handler => .device (.notified handler period)).toList

/-- How a call goes until a handler starts, or until it ends when it notifies
none: the events, the answer, the handler with the period that it is given, and
the timer. -/
inductive Opening (config : TimerConfig) (timer : ApicTimer) :
    TimerCall → List (Event TimerEvent) → Except Status Unit → Option (Handler × UInt64) →
      ApicTimer → Prop
  | registered {handler} (hfits : handler.isSome = !timer.handler.isSome) :
      Opening config timer (.register handler) slotVisit (.ok ()) none
        { timer with handler := handler }
  | occupied {handler} (hoccupied : timer.handler.isSome = true) :
      Opening config timer (.register (some handler)) slotVisit (.error .alreadyStarted) none timer
  | vacant (hvacant : timer.handler = none) :
      Opening config timer (.register none) slotVisit (.error .invalidParameter) none timer
  | disarmed :
      Opening config timer (.setPeriod 0)
        [wrote lvtTimer (LvtTimer.setMasked (timer.apic.registers lvtTimer) true), armed 0,
          .device (.periodStored 0)]
        (.ok ()) none (((timer.masking true).arming 0).storing 0)
  | programmed {period next} (hperiod : period ≠ 0)
      (hnext : next = deadline config.frequency period timer.nextReading) :
      Opening config timer (.setPeriod period)
        [wrote lvtTimer (LvtTimer.setMasked (timer.apic.registers lvtTimer) true), armed 0,
          .device (.tscRead timer.nextReading),
          wrote lvtTimer (LvtTimer.setMasked
            (LvtTimer.setMasked (timer.apic.registers lvtTimer) true) false), armed next,
          .device (.periodStored period)]
        (.ok ()) none
        (((((timer.masking true).arming 0).reading.masking false).arming next).storing period)
  | unsupported (hmasked : LvtTimer.isMasked (timer.apic.registers lvtTimer) = true) :
      Opening config timer .softInterrupt [] (.error .unsupported) none timer
  | simulated (hunmasked : LvtTimer.isMasked (timer.apic.registers lvtTimer) = false) :
      Opening config timer .softInterrupt (noticed timer timer.period) (.ok ())
        (timer.handler.map fun handler => (handler, timer.period)) timer
  | idleTick (hperiod : timer.period = 0) :
      Opening config timer .tick ([wrote endOfInterrupt 0, armed 0] ++ noticed timer timer.period)
        (.ok ()) (timer.handler.map fun handler => (handler, timer.period))
        (timer.ending.arming 0)
  | tick {next} (hperiod : timer.period ≠ 0)
      (hnext : next = deadline config.frequency timer.period timer.nextReading) :
      Opening config timer .tick
        ([wrote endOfInterrupt 0, .device (.tscRead timer.nextReading), armed next] ++
          noticed timer timer.period)
        (.ok ()) (timer.handler.map fun handler => (handler, timer.period))
        (timer.ending.reading.arming next)

/-- The platform in a call, after its opening. -/
def opened (own : List (Event TimerEvent)) (timer : ApicTimer) (before : TimerPlatform) :
    TimerPlatform where
  services := { before.services with tpl := .high }
  device := timer
  trace := before.trace ++ .service (.raiseTpl .high before.services.tpl) :: own

/-- The platform after a call that raised the level. -/
def closed (previous : Tpl) (inside : TimerPlatform) : TimerPlatform where
  services := { inside.services with tpl := previous }
  device := inside.device
  trace := inside.trace ++ [.service (.restoreTpl previous)]

/-- What a call leaves, given what its handler does. -/
def finished (deliver : Handler → UInt64 → TimerM Unit) (before : TimerPlatform)
    (own : List (Event TimerEvent)) (timer : ApicTimer) :
    Option (Handler × UInt64) → TimerPlatform
  | none => closed before.services.tpl (opened own timer before)
  | some (handler, period) =>
    closed before.services.tpl ((deliver handler period).run (opened own timer before)).2

theorem platform_eq {a b : TimerPlatform} (hservices : a.services = b.services)
    (hdevice : a.device = b.device) (htrace : a.trace = b.trace) : a = b := by
  cases a
  cases b
  cases hservices
  cases hdevice
  cases htrace
  rfl

theorem run_withTpl {α : Type} (action : TimerM α) (before : TimerPlatform) :
    (withTpl .high action).run before =
      ((action.run (opened [] before.device before)).1,
        closed before.services.tpl (action.run (opened [] before.device before)).2) := rfl

theorem opened_snoc (own : List (Event TimerEvent)) (event : Event TimerEvent)
    (timer : ApicTimer) (before : TimerPlatform) (inside : TimerPlatform)
    (hservices : inside.services = { before.services with tpl := .high })
    (hdevice : inside.device = timer)
    (htrace : inside.trace = (opened own timer before).trace ++ [event]) :
    inside = opened (own ++ [event]) timer before := by
  refine platform_eq hservices hdevice ?_
  rw [htrace]
  show before.trace ++ _ :: own ++ [event] = before.trace ++ _ :: (own ++ [event])
  simp

section Primitives

variable (own : List (Event TimerEvent)) (timer : ApicTimer) (before : TimerPlatform)

theorem run_writeRegister (offset value : UInt32) :
    (writeRegister offset value).run (opened own timer before) =
      ((), opened (own ++ [wrote offset value])
        { timer with apic := timer.apic.write offset value } before) :=
  Prod.ext rfl (opened_snoc own _ _ before _ rfl rfl rfl)

theorem run_setMasked (masked : Bool) :
    (setMasked masked).run (opened own timer before) =
      ((), opened (own ++ [wrote lvtTimer
        (LvtTimer.setMasked (timer.apic.registers lvtTimer) masked)]) (timer.masking masked)
        before) :=
  Prod.ext rfl (opened_snoc own _ _ before _ rfl rfl rfl)

theorem run_writeDeadline (deadline : UInt64) :
    (writeDeadline deadline).run (opened own timer before) =
      ((), opened (own ++ [armed deadline]) (timer.arming deadline) before) :=
  Prod.ext rfl (opened_snoc own _ _ before _ rfl rfl rfl)

theorem run_nextDeadline (config : TimerConfig) (period : UInt64) :
    (nextDeadline config period).run (opened own timer before) =
      (deadline config.frequency period timer.nextReading,
        opened (own ++ [.device (.tscRead timer.nextReading)]) timer.reading before) :=
  Prod.ext rfl (opened_snoc own _ _ before _ rfl rfl rfl)

theorem run_storePeriod (period : UInt64) :
    (storePeriod period).run (opened own timer before) =
      ((), opened (own ++ [.device (.periodStored period)]) (timer.storing period) before) :=
  Prod.ext rfl (opened_snoc own _ _ before _ rfl rfl rfl)

theorem run_currentHandler :
    currentHandler.run (opened own timer before) =
      (timer.handler, opened (own ++ slotVisit) timer before) := by
  refine Prod.ext rfl (platform_eq rfl rfl ?_)
  show before.trace ++ _ :: own ++ [_] ++ [_] = before.trace ++ _ :: (own ++ slotVisit)
  simp

/-- A notification looks the handler up, and then the handler runs. -/
theorem run_notifyHandler (deliver : Handler → UInt64 → TimerM Unit) (period : UInt64) :
    closed before.services.tpl ((notifyHandler deliver period).run (opened own timer before)).2 =
      finished deliver before (own ++ noticed timer period) timer
        (timer.handler.map fun handler => (handler, period)) := by
  rw [notifyHandler, run_bind, run_currentHandler]
  cases hhandler : timer.handler with
  | none => simp [noticed, hhandler, finished]; rfl
  | some handler =>
    have hnotified : ((recordDevice (.notified handler period) : TimerM Unit).run
        (opened (own ++ slotVisit) timer before)).2 =
          opened (own ++ noticed timer period) timer before := by
      rw [noticed, hhandler, Option.map_some, Option.toList_some, ← List.append_assoc]
      exact opened_snoc (own ++ slotVisit) _ _ before _ rfl rfl rfl
    simp only [run_bind, hnotified, Option.map_some, finished]

end Primitives

/-! ## Every call has an opening -/

/-- A call of the timer goes by one of its openings, and then its handler runs. -/
structure Opened (config : TimerConfig) (deliver : Handler → UInt64 → TimerM Unit)
    (made : TimerCall) (before : TimerPlatform) (own : List (Event TimerEvent))
    (answer : Except Status Unit) (target : Option (Handler × UInt64)) (timer : ApicTimer) :
    Prop where
  opening : Opening config before.device made own answer target timer
  run : (made.run config deliver).run before = (answer, finished deliver before own timer target)

variable (config : TimerConfig) (deliver : Handler → UInt64 → TimerM Unit)
  (before : TimerPlatform)

theorem registers_masking (masked : Bool) (timer : ApicTimer) :
    (timer.masking masked).apic.registers lvtTimer =
      LvtTimer.setMasked (timer.apic.registers lvtTimer) masked :=
  LocalApic.registers_write_self _ _ _

/-- What happens to the slot of the handler happens while it is locked. -/
theorem run_slot {action : TimerM (Except Status Unit)} {answer : Except Status Unit}
    {timer : ApicTimer}
    (haction : action.run (opened [.acquire .timerHandler] before.device before) =
      (answer, opened [.acquire .timerHandler] timer before)) :
    (withTpl .high (withLock .timerHandler action)).run before =
      (answer, closed before.services.tpl (opened slotVisit timer before)) := by
  have hacquire : ((record (.acquire .timerHandler) : TimerM Unit).run
      (opened [] before.device before)).2 =
        opened [.acquire .timerHandler] before.device before :=
    opened_snoc [] _ _ before _ rfl rfl rfl
  have hrelease : ((record (.release .timerHandler) : TimerM Unit).run
      (opened [.acquire .timerHandler] timer before)).2 = opened slotVisit timer before :=
    opened_snoc [.acquire .timerHandler] _ _ before _ rfl rfl rfl
  rw [run_withTpl]
  simp only [withLock, run_bind, hacquire, haction, hrelease]
  rfl

theorem opened_register (handler : Option Handler) :
    ∃ own answer target timer,
      Opened config deliver (.register handler) before own answer target timer := by
  have hget : (get : TimerM TimerPlatform).run (opened [.acquire .timerHandler] before.device before)
      = (opened [.acquire .timerHandler] before.device before,
        opened [.acquire .timerHandler] before.device before) := rfl
  have hdevice : (opened [.acquire .timerHandler] before.device before).device = before.device :=
    rfl
  cases hregistered : before.device.handler with
  | none =>
    cases handler with
    | none =>
      refine ⟨_, _, _, _, .vacant hregistered, run_slot before ?_⟩
      simp only [run_bind, hget, hdevice, hregistered]
      rfl
    | some handler =>
      refine ⟨_, _, _, _, .registered (by simp [hregistered]), run_slot before ?_⟩
      simp only [run_bind, hget, hdevice, hregistered]
      rfl
  | some registered =>
    cases handler with
    | none =>
      refine ⟨_, _, _, _, .registered (by simp [hregistered]), run_slot before ?_⟩
      simp only [run_bind, hget, hdevice, hregistered]
      rfl
    | some handler =>
      refine ⟨_, _, _, _, .occupied (by simp [hregistered]), run_slot before ?_⟩
      simp only [run_bind, hget, hdevice, hregistered]
      rfl

theorem opened_setPeriod (period : UInt64) :
    ∃ own answer target timer,
      Opened config deliver (.setPeriod period) before own answer target timer := by
  by_cases hperiod : period = 0
  · subst hperiod
    refine ⟨_, _, _, _, .disarmed, ?_⟩
    simp only [TimerCall.run, setPeriod, run_bind, run_withTpl, run_setMasked, run_writeDeadline,
      ne_eq, not_true, ↓reduceIte, run_storePeriod]
    rfl
  · refine ⟨_, _, _, _, .programmed hperiod rfl, ?_⟩
    simp only [TimerCall.run, setPeriod, run_bind, run_withTpl, run_setMasked, run_writeDeadline,
      ne_eq, hperiod, not_false_eq_true, ↓reduceIte, run_nextDeadline, run_storePeriod]
    rfl

theorem opened_softInterrupt :
    ∃ own answer target timer,
      Opened config deliver .softInterrupt before own answer target timer := by
  cases hmasked : LvtTimer.isMasked (before.device.apic.registers lvtTimer) with
  | true =>
    refine ⟨_, _, _, _, .unsupported hmasked, ?_⟩
    have hread : (readRegister lvtTimer).run (opened [] before.device before) =
        (before.device.apic.registers lvtTimer, opened [] before.device before) := rfl
    simp only [TimerCall.run, softInterrupt, run_withTpl, run_bind, hread, hmasked, ↓reduceIte]
    rfl
  | false =>
    refine ⟨_, _, _, _, .simulated hmasked, ?_⟩
    have hread : (readRegister lvtTimer).run (opened [] before.device before) =
        (before.device.apic.registers lvtTimer, opened [] before.device before) := rfl
    have hperiod : timerPeriod.run (opened [] before.device before) =
        (before.device.period, opened [] before.device before) := rfl
    have hnotify := run_notifyHandler [] before.device before deliver before.device.period
    rw [← List.nil_append (noticed _ _), ← hnotify]
    simp only [TimerCall.run, softInterrupt, run_withTpl, run_bind, hread, hmasked,
      Bool.false_eq_true, ↓reduceIte, hperiod]
    rfl

theorem opened_tick :
    ∃ own answer target timer, Opened config deliver .tick before own answer target timer := by
  have hend : (writeRegister endOfInterrupt 0).run (opened [] before.device before) =
      ((), opened [wrote endOfInterrupt 0] before.device.ending before) :=
    run_writeRegister [] before.device before endOfInterrupt 0
  have hstored : timerPeriod.run (opened [wrote endOfInterrupt 0] before.device.ending before) =
      (before.device.period, opened [wrote endOfInterrupt 0] before.device.ending before) := rfl
  by_cases hperiod : before.device.period = 0
  · have hzero : (Pure.pure 0 : TimerM UInt64).run
        (opened [wrote endOfInterrupt 0] before.device.ending before) =
          (0, opened [wrote endOfInterrupt 0] before.device.ending before) := rfl
    have hnotify := run_notifyHandler ([wrote endOfInterrupt 0] ++ [armed 0])
      (before.device.ending.arming 0) before deliver before.device.period
    refine ⟨_, _, _, _, .idleTick hperiod, Prod.ext rfl (Eq.trans ?_ hnotify)⟩
    simp only [TimerCall.run, tick, run_withTpl, run_bind, hend, hstored, hperiod, ne_eq,
      not_true, ↓reduceIte, hzero, run_writeDeadline]
    rfl
  · have hnotify := run_notifyHandler ([wrote endOfInterrupt 0] ++
        [.device (.tscRead before.device.nextReading)] ++
        [armed (deadline config.frequency before.device.period before.device.nextReading)])
      (before.device.ending.reading.arming
        (deadline config.frequency before.device.period before.device.nextReading))
      before deliver before.device.period
    refine ⟨_, _, _, _, .tick hperiod rfl, Prod.ext rfl (Eq.trans ?_ hnotify)⟩
    simp only [TimerCall.run, tick, run_withTpl, run_bind, hend, hstored, hperiod, ne_eq,
      not_false_eq_true, ↓reduceIte, run_nextDeadline, run_writeDeadline]
    rfl

theorem opened_call (made : TimerCall) :
    ∃ own answer target timer, Opened config deliver made before own answer target timer := by
  cases made with
  | register handler => exact opened_register config deliver before handler
  | setPeriod period => exact opened_setPeriod config deliver before period
  | softInterrupt => exact opened_softInterrupt config deliver before
  | tick => exact opened_tick config deliver before

/-! ## Stretches of a run -/

/-- A call of the timer: on which timer it was entered, what it did itself, and
how it answered. -/
structure Visit where
  made : TimerCall
  entered : ApicTimer
  own : List (Event TimerEvent)
  answer : Except Status Unit

/-- The events between raising the level and setting it back. -/
def atHigh (previous : Tpl) (events : List (Event TimerEvent)) : List (Event TimerEvent) :=
  .service (.raiseTpl .high previous) :: events ++ [.service (.restoreTpl previous)]

/-- A stretch of a run that begins at a level: the timer at its begin, the
events, the calls in the order in which they were entered, and the timer at its
end. -/
inductive Ran (config : TimerConfig) :
    Tpl → ApicTimer → List (Event TimerEvent) → List Visit → ApicTimer → Prop
  /-- Nothing happens. -/
  | idle {level timer} : Ran config level timer [] [] timer
  /-- A handler reports a status. -/
  | reported {level timer} (status : Status) :
      Ran config level timer [.device (.reported status)] [] timer
  /-- One stretch follows another. -/
  | trans {level first middle last front back earlier later}
      (hfront : Ran config level first front earlier middle)
      (hback : Ran config level middle back later last) :
      Ran config level first (front ++ back) (earlier ++ later) last
  /-- A call notifies no handler. -/
  | quiet {level timer made own answer after}
      (hopening : Opening config timer made own answer none after) :
      Ran config level timer (atHigh level own) [⟨made, timer, own, answer⟩] after
  /-- A call notifies a handler, and what the handler does lies inside the call. -/
  | notifying {level timer made own answer target begun inner visits after}
      (hopening : Opening config timer made own answer (some target) begun)
      (hinner : Ran config .high begun inner visits after) :
      Ran config level timer (atHigh level (own ++ inner)) (⟨made, timer, own, answer⟩ :: visits)
        after

/-- What happened between two platforms is a stretch of a run. -/
structure Follows (config : TimerConfig) (before after : TimerPlatform)
    (events : List (Event TimerEvent)) (visits : List Visit) : Prop where
  ran : Ran config before.services.tpl before.device events visits after.device
  trace : after.trace = before.trace ++ events
  services : after.services = before.services

namespace Follows

variable {config : TimerConfig} {first middle last : TimerPlatform}
  {front back : List (Event TimerEvent)} {earlier later : List Visit}

theorem refl (platform : TimerPlatform) : Follows config platform platform [] [] where
  ran := .idle
  trace := (List.append_nil _).symm
  services := rfl

theorem trans (hfront : Follows config first middle front earlier)
    (hback : Follows config middle last back later) :
    Follows config first last (front ++ back) (earlier ++ later) where
  ran := by
    have hlater := hback.ran
    rw [hfront.services] at hlater
    exact hfront.ran.trans hlater
  trace := by rw [hback.trace, hfront.trace, List.append_assoc]
  services := hback.services.trans hfront.services

end Follows

/-- A handler that is notified does nothing but a stretch of a run. -/
def Delivers (config : TimerConfig) (deliver : Handler → UInt64 → TimerM Unit) : Prop :=
  ∀ handler period before, ∃ events visits,
    Follows config before ((deliver handler period).run before).2 events visits

variable {config deliver}

theorem follows_call (hdeliver : Delivers config deliver) (made : TimerCall)
    (before : TimerPlatform) :
    ∃ events visit visits,
      Follows config before ((made.run config deliver).run before).2 events (visit :: visits) ∧
        visit.made = made ∧ visit.answer = ((made.run config deliver).run before).1 := by
  obtain ⟨own, answer, target, timer, hopening, hrun⟩ := opened_call config deliver before made
  rw [hrun]
  cases target with
  | none =>
    refine ⟨_, _, [], ⟨.quiet hopening, ?_, rfl⟩, rfl, rfl⟩
    show before.trace ++ _ :: own ++ [_] = before.trace ++ atHigh _ own
    simp [atHigh]
  | some target =>
    obtain ⟨handler, period⟩ := target
    obtain ⟨inner, visits, hinner⟩ := hdeliver handler period (opened own timer before)
    refine ⟨_, _, visits, ⟨.notifying hopening hinner.ran, ?_, ?_⟩, rfl, rfl⟩
    · show ((deliver handler period).run (opened own timer before)).2.trace ++ [_] = _
      rw [hinner.trace]
      show before.trace ++ _ :: own ++ inner ++ [_] = before.trace ++ atHigh _ (own ++ inner)
      simp [atHigh]
    · show { ((deliver handler period).run (opened own timer before)).2.services with
        tpl := before.services.tpl } = before.services
      rw [hinner.services]
      rfl

theorem follows_reaction (hdeliver : Delivers config deliver) (reaction : Reaction)
    (before : TimerPlatform) :
    ∃ events visits,
      Follows config before ((reaction.run (TimerCall.run config deliver)).run before).2 events
        visits := by
  induction reaction generalizing before with
  | done => exact ⟨[], [], .refl before⟩
  | call made next ih =>
    obtain ⟨front, visit, visits, hcall, -, -⟩ := follows_call hdeliver made before
    let called := (made.run config deliver).run before
    obtain ⟨back, later, hrest⟩ := ih called.1 called.2 called.2
    exact ⟨front ++ back, visit :: visits ++ later, hcall.trans hrest⟩
  | report status next ih =>
    let reported := ((recordDevice (.reported status) : TimerM Unit).run before).2
    have hreported : Follows config before reported [.device (.reported status)] [] :=
      ⟨.reported status, rfl, rfl⟩
    obtain ⟨back, later, hrest⟩ := ih reported
    exact ⟨_, _, hreported.trans hrest⟩

/-- Handlers of any behaviour do nothing but stretches of a run, to any depth. -/
theorem delivers_deliverUpTo (config : TimerConfig) (behaviour : Behaviour) (depth : Nat) :
    Delivers config (deliverUpTo config behaviour depth) := by
  induction depth with
  | zero =>
    intro handler period before
    exact ⟨[], [], .refl before⟩
  | succ depth ih =>
    intro handler period before
    exact follows_reaction ih (behaviour handler period before) before

/-- Calls with their answers are visits, in their order.  The other visits are
calls of handlers. -/
def Answered (calls : List TimerCall) (answers : List (Except Status Unit))
    (visits : List Visit) : Prop :=
  (calls.zip answers).Sublist (visits.map fun visit => (visit.made, visit.answer))

/-- Calls of the timer are a stretch of a run, and each of them is a visit. -/
theorem follows_runCalls (hdeliver : Delivers config deliver) (calls : List TimerCall)
    (before : TimerPlatform) :
    ∃ events visits,
      Follows config before ((runCalls config deliver calls).run before).2 events visits ∧
        Answered calls ((runCalls config deliver calls).run before).1 visits := by
  induction calls generalizing before with
  | nil => exact ⟨[], [], .refl before, List.Sublist.slnil⟩
  | cons made rest ih =>
    obtain ⟨front, visit, visits, hcall, hmade, hanswer⟩ := follows_call hdeliver made before
    obtain ⟨back, later, hrest, hanswered⟩ := ih ((made.run config deliver).run before).2
    refine ⟨front ++ back, visit :: visits ++ later, hcall.trans hrest, ?_⟩
    show ((made, _) :: rest.zip _).Sublist ((visit.made, visit.answer) :: _)
    rw [hmade, hanswer]
    refine List.Sublist.cons_cons _ (List.Sublist.trans hanswered ?_)
    exact (List.sublist_append_right visits later).map _

/-! ## What a stretch keeps

What every opening keeps, a stretch keeps, and every call in it is entered with
it. -/

/-- An item of a list that was put together of two lies in one of them. -/
theorem append_eq_split {α : Type} {first second front back : List α} {item : α}
    (h : first ++ second = front ++ item :: back) :
    (∃ between, first = front ++ item :: between ∧ back = between ++ second) ∨
      ∃ between, front = first ++ between ∧ second = between ++ item :: back := by
  rcases List.append_eq_append_iff.mp h with ⟨between, hfront, hsecond⟩ | ⟨between, hfirst, hback⟩
  · exact .inr ⟨between, hfront, hsecond⟩
  · cases between with
    | nil => exact .inr ⟨[], by simpa using hfirst.symm, hback.symm⟩
    | cons other rest =>
      injection hback with hother hrest
      exact .inl ⟨rest, by rw [hfirst, hother], hrest⟩

namespace Ran

variable {level : Tpl} {timer after : ApicTimer} {events : List (Event TimerEvent)}
  {visits : List Visit}

theorem opening_of_mem (h : Ran config level timer events visits after) {visit : Visit}
    (hvisit : visit ∈ visits) :
    ∃ target begun, Opening config visit.entered visit.made visit.own visit.answer target begun := by
  induction h with
  | idle => cases hvisit
  | reported status => cases hvisit
  | trans hfront hback ihfront ihback =>
    rcases List.mem_append.mp hvisit with hmem | hmem
    · exact ihfront hmem
    · exact ihback hmem
  | quiet hopening =>
    cases List.mem_singleton.mp hvisit
    exact ⟨_, _, hopening⟩
  | notifying hopening hinner ih =>
    rcases List.mem_cons.mp hvisit with rfl | hmem
    · exact ⟨_, _, hopening⟩
    · exact ih hmem

theorem invariant {P : ApicTimer → Prop}
    (hkeeps : ∀ {timer made own answer target begun},
      Opening config timer made own answer target begun → P timer → P begun)
    (h : Ran config level timer events visits after) (htimer : P timer) :
    P after ∧ ∀ visit ∈ visits, P visit.entered := by
  induction h with
  | idle => exact ⟨htimer, by simp⟩
  | reported status => exact ⟨htimer, by simp⟩
  | trans hfront hback ihfront ihback =>
    obtain ⟨hmiddle, hearlier⟩ := ihfront htimer
    obtain ⟨hlast, hlater⟩ := ihback hmiddle
    refine ⟨hlast, ?_⟩
    intro visit hvisit
    rcases List.mem_append.mp hvisit with hmem | hmem
    · exact hearlier visit hmem
    · exact hlater visit hmem
  | quiet hopening =>
    refine ⟨hkeeps hopening htimer, ?_⟩
    intro visit hvisit
    cases List.mem_singleton.mp hvisit
    exact htimer
  | notifying hopening hinner ih =>
    obtain ⟨hlast, hvisits⟩ := ih (hkeeps hopening htimer)
    refine ⟨hlast, ?_⟩
    intro visit hvisit
    rcases List.mem_cons.mp hvisit with rfl | hmem
    · exact htimer
    · exact hvisits visit hmem

/-- A part of the timer that each call changes by itself is found by going
through the visits. -/
theorem foldl_visits {σ : Type} (view : ApicTimer → σ) (step : σ → Visit → σ)
    (hstep : ∀ {timer made own answer target begun},
      Opening config timer made own answer target begun →
        view begun = step (view timer) ⟨made, timer, own, answer⟩)
    (h : Ran config level timer events visits after) :
    view after = visits.foldl step (view timer) ∧
      ∀ earlier visit later, visits = earlier ++ visit :: later →
        view visit.entered = earlier.foldl step (view timer) := by
  induction h with
  | idle => exact ⟨rfl, by simp⟩
  | reported status => exact ⟨rfl, by simp⟩
  | @trans level first middle last front back visits visits' hfront hback ihfront ihback =>
    refine ⟨?_, ?_⟩
    · rw [List.foldl_append, ihback.1, ihfront.1]
    · intro earlier visit later hvisits
      rcases append_eq_split hvisits with ⟨between, hfirst, -⟩ | ⟨between, rfl, hrest⟩
      · exact ihfront.2 earlier visit between hfirst
      · rw [ihback.2 between visit later hrest, List.foldl_append, ihfront.1]
  | quiet hopening =>
    refine ⟨hstep hopening, ?_⟩
    intro earlier visit later hvisits
    cases earlier with
    | nil =>
      injection hvisits with hvisit
      rw [← hvisit]
      rfl
    | cons first rest =>
      injection hvisits with _ hrest
      cases rest <;> cases hrest
  | notifying hopening hinner ih =>
    refine ⟨?_, ?_⟩
    · rw [List.foldl_cons, ← hstep hopening]
      exact ih.1
    · intro earlier visit later hvisits
      cases earlier with
      | nil =>
        injection hvisits with hvisit
        rw [← hvisit]
        rfl
      | cons first rest =>
        injection hvisits with hfirst hrest
        rw [List.foldl_cons, ← hfirst, ← hstep hopening]
        exact ih.2 rest visit later hrest

theorem foldl_getD {σ : Type} (change : Visit → Option σ) (visits : List Visit) (first : σ) :
    visits.foldl (fun value visit => (change visit).getD value) first =
      (visits.filterMap change).getLastD first := by
  induction visits generalizing first with
  | nil => rfl
  | cons visit rest ih =>
    rw [List.foldl_cons, ih]
    cases hchange : change visit with
    | none => rw [List.filterMap_cons_none hchange, Option.getD_none]
    | some value =>
      rw [List.filterMap_cons_some hchange, Option.getD_some, List.getLastD_cons]

end Ran

/-! ## What the events tell of the calls -/

/-- What happened at the device. -/
def deviceEvents (events : List (Event TimerEvent)) : List TimerEvent :=
  events.filterMap fun event =>
    match event with
    | .device event => some event
    | _ => none

theorem deviceEvents_append (front back : List (Event TimerEvent)) :
    deviceEvents (front ++ back) = deviceEvents front ++ deviceEvents back :=
  List.filterMap_append

theorem deviceEvents_atHigh (previous : Tpl) (events : List (Event TimerEvent)) :
    deviceEvents (atHigh previous events) = deviceEvents events := by
  show deviceEvents (events ++ _) = deviceEvents events
  rw [deviceEvents_append]
  exact List.append_nil _

theorem deviceEvents_noticed (timer : ApicTimer) (period : UInt64) :
    deviceEvents (noticed timer period) =
      (timer.handler.map fun handler => .notified handler period).toList := by
  rw [noticed]
  cases timer.handler <;> rfl

theorem filterMap_cons_toList {α β : Type} (pick : α → Option β) (first : α) (rest : List α) :
    (first :: rest).filterMap pick = (pick first).toList ++ rest.filterMap pick := by
  rw [List.filterMap_cons]
  cases pick first <;> rfl

/-- What is picked from the events of every call is picked from the events of a
stretch, call by call. -/
theorem Ran.filterMap_deviceEvents {level : Tpl} {timer after : ApicTimer}
    {events : List (Event TimerEvent)} {visits : List Visit} {σ : Type}
    (pick : TimerEvent → Option σ) (summary : Visit → Option σ)
    (hreported : ∀ status, pick (.reported status) = none)
    (hopening : ∀ {timer made own answer target begun},
      Opening config timer made own answer target begun →
        (deviceEvents own).filterMap pick = (summary ⟨made, timer, own, answer⟩).toList)
    (h : Ran config level timer events visits after) :
    (deviceEvents events).filterMap pick = visits.filterMap summary := by
  induction h with
  | idle => rfl
  | reported status => exact List.filterMap_cons_none (hreported status)
  | trans hfront hback ihfront ihback =>
    rw [deviceEvents_append, List.filterMap_append, List.filterMap_append, ihfront, ihback]
  | quiet hcall =>
    rw [deviceEvents_atHigh, hopening hcall, filterMap_cons_toList]
    exact (List.append_nil _).symm
  | notifying hcall hinner ih =>
    rw [deviceEvents_atHigh, deviceEvents_append, List.filterMap_append, hopening hcall, ih,
      filterMap_cons_toList]

/-- The period that a call sets. -/
def Visit.setting (visit : Visit) : Option UInt64 :=
  match visit.made with
  | .setPeriod period => some period
  | _ => none

/-- The period whose storing ends a call. -/
def TimerEvent.stored : TimerEvent → Option UInt64
  | periodStored period => some period
  | _ => none

/-- The deadline that is written. -/
def TimerEvent.deadline : TimerEvent → Option UInt64
  | deadlineWrite value => some value
  | _ => none

/-- The deadlines that are written, in order. -/
def deadlines (events : List (Event TimerEvent)) : List UInt64 :=
  (deviceEvents events).filterMap TimerEvent.deadline

theorem deadlines_append (front back : List (Event TimerEvent)) :
    deadlines (front ++ back) = deadlines front ++ deadlines back := by
  rw [deadlines, deviceEvents_append, List.filterMap_append]
  rfl

theorem deadlines_noticed (timer : ApicTimer) (period : UInt64) :
    deadlines (noticed timer period) = [] := by
  rw [deadlines, deviceEvents_noticed]
  cases timer.handler <;> rfl

/-- What a call puts into the slot of the handler. -/
def Visit.registration (visit : Visit) : Option (Option Handler) :=
  match visit.made, visit.answer with
  | .register handler, .ok _ => some handler
  | _, _ => none

/-- The period of the last call that set one, zero if there is none. -/
def lastPeriod (visits : List Visit) : UInt64 :=
  (visits.filterMap Visit.setting).getLastD 0

/-- The handler of the last registration that succeeded. -/
def lastHandler (visits : List Visit) : Option Handler :=
  (visits.filterMap Visit.registration).getLastD none

section Last

variable {level : Tpl} {timer after : ApicTimer} {events : List (Event TimerEvent)}
  {visits : List Visit}

theorem period_visits (h : Ran config level timer events visits after) (htimer : timer.period = 0) :
    after.period = lastPeriod visits ∧
      ∀ earlier visit later, visits = earlier ++ visit :: later →
        visit.entered.period = lastPeriod earlier := by
  have hstep : ∀ {timer made own answer target begun},
      Opening config timer made own answer target begun →
        begun.period = (Visit.setting ⟨made, timer, own, answer⟩).getD timer.period := by
    intro timer made own answer target begun hopening
    cases hopening <;> rfl
  obtain ⟨hafter, hentered⟩ := h.foldl_visits ApicTimer.period
    (fun period visit => visit.setting.getD period) hstep
  simp only [Ran.foldl_getD, htimer] at hafter hentered
  exact ⟨hafter, hentered⟩

/-- A period is stored at the end of a call.  The calls that set a period end in
the order in which they were entered. -/
theorem stored_visits (h : Ran config level timer events visits after) :
    (deviceEvents events).filterMap TimerEvent.stored = visits.filterMap Visit.setting := by
  have hnotice : ∀ (timer : ApicTimer) period,
      (deviceEvents (noticed timer period)).filterMap TimerEvent.stored = [] := by
    intro timer period
    rw [deviceEvents_noticed]
    cases timer.handler <;> rfl
  refine h.filterMap_deviceEvents TimerEvent.stored Visit.setting (fun _ => rfl) ?_
  intro timer made own answer target begun hopening
  cases hopening with
  | registered hfits => rfl
  | occupied hoccupied => rfl
  | vacant hvacant => rfl
  | disarmed => rfl
  | programmed hperiod hnext => rfl
  | unsupported hmasked => rfl
  | simulated hunmasked => exact hnotice timer timer.period
  | idleTick hperiod =>
    rw [deviceEvents_append, List.filterMap_append, hnotice]
    rfl
  | tick hperiod hnext =>
    rw [deviceEvents_append, List.filterMap_append, hnotice]
    rfl

theorem handler_visits (h : Ran config level timer events visits after)
    (htimer : timer.handler = none) :
    after.handler = lastHandler visits ∧
      ∀ earlier visit later, visits = earlier ++ visit :: later →
        visit.entered.handler = lastHandler earlier := by
  have hstep : ∀ {timer made own answer target begun},
      Opening config timer made own answer target begun →
        begun.handler = (Visit.registration ⟨made, timer, own, answer⟩).getD timer.handler := by
    intro timer made own answer target begun hopening
    cases hopening <;> rfl
  obtain ⟨hafter, hentered⟩ := h.foldl_visits ApicTimer.handler
    (fun handler visit => visit.registration.getD handler) hstep
  simp only [Ran.foldl_getD, htimer] at hafter hentered
  exact ⟨hafter, hentered⟩

end Last

end GuestFirmware.Timer
