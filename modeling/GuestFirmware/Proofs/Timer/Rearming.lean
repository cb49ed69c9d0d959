import GuestFirmware.Proofs.Timer.Fields
import GuestFirmware.Proofs.Timer.Visits
import Mathlib.Data.List.Basic

/-!
# No stale deadline

The deadline of an earlier period must not be in force when the timer is let through
for a new one, for its interrupt would come too early or at once.  Therefore setting a
period masks the timer and disarms it, reads the counter, lets the timer through, and
arms it.  The period is stored last.

Only setting a period writes the timer register or stores a period, and it notifies no
handler.  So each such event of a run lies in one call, and what that call does around it
is not interrupted, however deep in the calls of handlers it was made.

* `Within` places an event of a run in a call, and `Ran.exists_within` finds the call.
* `Rearms` is about the write that lets the timer through: what its call did before it
  and what it does after it.  `Reprograms` is about the storing of the period.
* `rearmed_runCalls` is the result for runs.
-/

namespace GuestFirmware.Timer

variable {config : TimerConfig} {timer begun : ApicTimer} {made : TimerCall}
  {own : List (Event TimerEvent)} {answer : Except Status Unit}
  {target : Option (Handler × UInt64)}

/-! ## The call that an event lies in -/

/-- An event by which the timer is set for a period: a write of the timer register, or
the storing of the period. -/
def programs : Event TimerEvent → Bool
  | .device (.registerWrite offset _) => offset == lvtTimer
  | .device (.periodStored _) => true
  | _ => false

theorem not_programs_noticed (timer : ApicTimer) (period : UInt64) :
    ∀ event ∈ noticed timer period, programs event = false := by
  rw [noticed]
  cases timer.handler <;> simp [programs]

/-- Only a call that sets a period makes such an event. -/
theorem exists_setPeriod (h : Opening config timer made own answer target begun)
    {event : Event TimerEvent} (hmem : event ∈ own) (hprograms : programs event = true) :
    ∃ period, made = .setPeriod period := by
  have hend : endOfInterrupt ≠ lvtTimer := by decide
  have hnotice := not_programs_noticed timer timer.period
  by_contra hmade
  have hquiet : ∀ event ∈ own, programs event = false := by
    cases h with
    | disarmed => exact absurd ⟨0, rfl⟩ hmade
    | programmed hperiod hnext => exact absurd ⟨_, rfl⟩ hmade
    | registered | occupied | vacant | unsupported => simp [programs]
    | simulated hunmasked => exact hnotice
    | idleTick hperiod => simpa [List.forall_mem_append, programs, hend] using hnotice
    | tick hperiod hnext => simpa [List.forall_mem_append, programs, hend] using hnotice
  rw [hquiet event hmem] at hprograms
  cases hprograms

/-- An event of a run was made by a call: between `front` and `back` it stands where it
stands between `earlier` and `later` in the call.  Around these the call raises the level
and sets it back. -/
structure Within (visits : List Visit) (front : List (Event TimerEvent))
    (event : Event TimerEvent) (back : List (Event TimerEvent)) (visit : Visit)
    (earlier later : List (Event TimerEvent)) : Prop where
  visited : visit ∈ visits
  own : visit.own = earlier ++ event :: later
  around : ∃ level outer rest, front = outer ++ .service (.raiseTpl .high level) :: earlier ∧
    back = later ++ .service (.restoreTpl level) :: rest

variable {visits : List Visit} {front back earlier later : List (Event TimerEvent)}
  {event : Event TimerEvent} {visit : Visit}

/-- A call keeps its place in a longer run. -/
theorem Within.extend (h : Within visits front event back visit earlier later)
    {all : List Visit} (hall : visits ⊆ all) (before after : List (Event TimerEvent)) :
    Within all (before ++ front) event (back ++ after) visit earlier later := by
  obtain ⟨level, outer, rest, rfl, rfl⟩ := h.around
  exact ⟨hall h.visited, h.own, level, before ++ outer, rest ++ after, by simp, by simp⟩

/-- An event that stands alone is the one that it is split at. -/
theorem programs_singleton {alone : Event TimerEvent} (hsplit : [alone] = front ++ event :: back) :
    programs event = programs alone := by
  have hmem : event ∈ [alone] := by
    rw [hsplit]
    simp
  rw [List.mem_singleton.mp hmem]

/-- What sets the timer for a period is not the raising of the level around it, nor the
setting back. -/
theorem split_atHigh {level : Tpl} {events : List (Event TimerEvent)}
    (hsplit : atHigh level events = front ++ event :: back) (hprograms : programs event = true) :
    ∃ earlier later, events = earlier ++ event :: later ∧
      front = .service (.raiseTpl .high level) :: earlier ∧
      back = later ++ [.service (.restoreTpl level)] := by
  cases front with
  | nil =>
    injection hsplit with hraise
    rw [← hraise] at hprograms
    cases hprograms
  | cons raise earlier =>
    injection hsplit with hraise hrest
    rcases append_eq_split hrest with ⟨later, hevents, hback⟩ | ⟨between, -, hrestore⟩
    · exact ⟨earlier, later, hevents, by rw [hraise], hback⟩
    · rw [programs_singleton hrestore] at hprograms
      cases hprograms

/-- An event that sets the timer for a period lies in a call.  Calls that notify a handler
make no such event themselves, so it is in what their handler does or in a quiet call. -/
theorem Ran.exists_within {level : Tpl} {after : ApicTimer} {events : List (Event TimerEvent)}
    (h : Ran config level timer events visits after) (hsplit : events = front ++ event :: back)
    (hprograms : programs event = true) :
    ∃ visit earlier later, Within visits front event back visit earlier later := by
  induction h generalizing front back with
  | idle => simp at hsplit
  | reported status =>
    rw [programs_singleton hsplit] at hprograms
    cases hprograms
  | @trans _ _ _ _ first second _ _ hfront hback ihfront ihback =>
    rcases append_eq_split hsplit with ⟨between, hfirst, rfl⟩ | ⟨between, rfl, hsecond⟩
    · obtain ⟨visit, earlier, later, hwithin⟩ := ihfront hfirst
      refine ⟨visit, earlier, later, ?_⟩
      exact hwithin.extend (List.subset_append_left _ _) [] second
    · obtain ⟨visit, earlier, later, hwithin⟩ := ihback hsecond
      refine ⟨visit, earlier, later, ?_⟩
      rw [← List.append_nil back]
      exact hwithin.extend (List.subset_append_right _ _) first []
  | @quiet level timer made own answer after hopening =>
    obtain ⟨earlier, later, hown, hfront, hback⟩ := split_atHigh hsplit hprograms
    exact ⟨_, earlier, later, List.mem_singleton_self _, hown, level, [], [], hfront, hback⟩
  | @notifying level timer made own answer target begun inner visits after hopening hinner ih =>
    obtain ⟨outer, rest, hevents, hfront, hback⟩ := split_atHigh hsplit hprograms
    rcases append_eq_split hevents with ⟨between, hown, -⟩ | ⟨between, houter, hlast⟩
    · have hmem : event ∈ own := by
        rw [hown]
        simp
      obtain ⟨period, rfl⟩ := exists_setPeriod hopening hmem hprograms
      cases hopening
    · obtain ⟨visit, earlier, later, hwithin⟩ := ih hlast
      refine ⟨visit, earlier, later, ?_⟩
      rw [hfront, hback, houter, ← List.cons_append]
      exact hwithin.extend (List.subset_cons_self _ visits) (_ :: own) [_]

/-! ## What the call does -/

/-- The timer register as it is written. -/
def TimerEvent.lvtValue : TimerEvent → Option UInt32
  | registerWrite offset value => if offset = lvtTimer then some value else none
  | _ => none

/-- The values that are written to the timer register, in order. -/
def lvtWrites (events : List (Event TimerEvent)) : List UInt32 :=
  (deviceEvents events).filterMap TimerEvent.lvtValue

/-- A call that lets the timer through sets a period.  Before it does so it disarmed the
timer, which was masked by then, and read the counter after that.  The deadline that it
writes next is one period after the reading. -/
structure Rearms (config : TimerConfig) (made : TimerCall)
    (earlier later : List (Event TimerEvent)) (period reading : UInt64) : Prop where
  sets : made = .setPeriod period
  isOn : period ≠ 0
  disarmed : ∃ start fresh, earlier = start ++ armed 0 :: fresh ∧
    (∃ masked, (lvtWrites start).getLast? = some masked ∧ LvtTimer.isMasked masked = true) ∧
    lvtWrites fresh = [] ∧ deadlines fresh = [] ∧ .device (.tscRead reading) ∈ fresh
  rearmed : ∃ gap rest, later = gap ++ armed (deadline config.frequency period reading) :: rest ∧
    deadlines gap = []

/-- When a call stores a period, the timer is masked exactly if that is zero, and the
deadline is zero for a period of zero, and for any other one period after a reading that
the call made. -/
structure Reprograms (config : TimerConfig) (period : UInt64)
    (earlier : List (Event TimerEvent)) : Prop where
  mask : ∃ value, (lvtWrites earlier).getLast? = some value ∧
    (LvtTimer.isMasked value = true ↔ period = 0)
  off : period = 0 → (deadlines earlier).getLast? = some 0
  on : period ≠ 0 → ∃ reading, .device (.tscRead reading) ∈ earlier ∧
    (deadlines earlier).getLast? = some (deadline config.frequency period reading)

theorem ne_setMasked {value : UInt32} (hunmasked : LvtTimer.isMasked value = false)
    (bits : UInt32) : value ≠ LvtTimer.setMasked bits true := by
  rintro rfl
  rw [LvtTimer.isMasked_setMasked] at hunmasked
  cases hunmasked

theorem rearms_opening (h : Opening config timer made own answer target begun) {value : UInt32}
    (hown : own = earlier ++ wrote lvtTimer value :: later)
    (hunmasked : LvtTimer.isMasked value = false) :
    ∃ period reading, Rearms config made earlier later period reading := by
  have hmem : wrote lvtTimer value ∈ own := by
    rw [hown]
    simp
  have hmasking := ne_setMasked hunmasked
  obtain ⟨period, rfl⟩ := exists_setPeriod h hmem (by simp [programs])
  cases h with
  | disarmed => simp [hmasking] at hmem
  | @programmed _ next hperiod hnext =>
    let masked := LvtTimer.setMasked (timer.apic.registers lvtTimer) true
    let read : Event TimerEvent := .device (.tscRead timer.nextReading)
    -- The write is the fourth of six events, and differs from all others.
    have hfourth : [wrote lvtTimer masked, armed 0, read] ++
        wrote lvtTimer (LvtTimer.setMasked masked false) ::
          [armed next, .device (.periodStored period)] =
        earlier ++ wrote lvtTimer value :: later := hown
    obtain ⟨rfl, -, rfl⟩ := (List.append_cons_inj_of_notMem
      (by simp [masked, read, hmasking]) (by simp)).mp hfourth
    refine ⟨period, timer.nextReading, rfl, hperiod, ?_, ?_⟩
    · exact ⟨[wrote lvtTimer masked], [read], rfl, ⟨masked, rfl, LvtTimer.isMasked_setMasked _ true⟩,
        rfl, rfl, List.mem_singleton_self _⟩
    · exact ⟨[], [.device (.periodStored period)], by rw [hnext]; rfl, rfl⟩

theorem reprograms_opening (h : Opening config timer made own answer target begun)
    {period : UInt64} (hown : own = earlier ++ .device (.periodStored period) :: later) :
    made = .setPeriod period ∧ later = [] ∧ Reprograms config period earlier := by
  have hmem : .device (.periodStored period) ∈ own := by
    rw [hown]
    simp
  obtain ⟨argument, rfl⟩ := exists_setPeriod h hmem rfl
  let masked := LvtTimer.setMasked (timer.apic.registers lvtTimer) true
  cases h with
  | disarmed =>
    have hlast : [wrote lvtTimer masked, armed 0] ++ .device (.periodStored 0) :: [] =
        earlier ++ .device (.periodStored period) :: later := hown
    obtain ⟨rfl, hstored, rfl⟩ :=
      (List.append_cons_inj_of_notMem (by simp) (by simp)).mp hlast
    cases hstored
    refine ⟨rfl, rfl, ⟨masked, rfl, ?_⟩, fun _ => rfl, fun h => absurd rfl h⟩
    exact iff_of_true (LvtTimer.isMasked_setMasked _ true) rfl
  | @programmed _ next hperiod hnext =>
    let unmasked := LvtTimer.setMasked masked false
    let read : Event TimerEvent := .device (.tscRead timer.nextReading)
    have hlast : [wrote lvtTimer masked, armed 0, read, wrote lvtTimer unmasked, armed next] ++
        .device (.periodStored argument) :: [] =
        earlier ++ .device (.periodStored period) :: later := hown
    obtain ⟨rfl, hstored, rfl⟩ :=
      (List.append_cons_inj_of_notMem (by simp [read]) (by simp)).mp hlast
    cases hstored
    refine ⟨rfl, rfl, ⟨unmasked, rfl, ?_⟩, fun h => absurd h hperiod, fun _ => ?_⟩
    · refine iff_of_false ?_ hperiod
      rw [LvtTimer.isMasked_setMasked]
      exact Bool.false_ne_true
    · exact ⟨timer.nextReading, by simp [read], by rw [hnext]; rfl⟩

/-! ## Runs -/

/-- The last deadline that is written before a deadline-free rest is the last one of the
whole. -/
theorem getLast?_deadlines {fresh : List (Event TimerEvent)} (hfresh : deadlines fresh = [])
    (start : List (Event TimerEvent)) (value : UInt64) :
    (deadlines (start ++ armed value :: fresh)).getLast? = some value := by
  have hlast : deadlines (armed value :: fresh) = [value] := by
    rw [← List.singleton_append, deadlines_append, hfresh]
    rfl
  rw [deadlines_append, hlast, List.getLast?_concat]

theorem head?_deadlines {gap : List (Event TimerEvent)} (hgap : deadlines gap = [])
    (value : UInt64) (rest : List (Event TimerEvent)) :
    (deadlines (gap ++ armed value :: rest)).head? = some value := by
  rw [deadlines_append, hgap]
  rfl

/-- In a run of any calls, with handlers of any behaviour that call the timer to any depth,
the timer is let through only while the deadline written last is zero.  The deadline written
next is that of the same call, from a reading that the call made after it wrote the zero.  A
call that sets a period of zero never lets the timer through, and a period is stored when
nothing else is left to do.  The run may begin with any timer, as with one that was just
enabled. -/
theorem rearmed_runCalls (config : TimerConfig) (behaviour : Behaviour) (depth : Nat)
    (calls : List TimerCall) (before : TimerPlatform) :
    let ran := (runCalls config (deliverUpTo config behaviour depth) calls).run before
    ∃ events visits,
      Follows config before ran.2 events visits ∧ Answered calls ran.1 visits ∧
      (∀ front value back, events = front ++ wrote lvtTimer value :: back →
        LvtTimer.isMasked value = false →
        ∃ visit earlier later period reading,
          Within visits front (wrote lvtTimer value) back visit earlier later ∧
          Rearms config visit.made earlier later period reading ∧
          (deadlines front).getLast? = some 0 ∧
          (deadlines back).head? = some (deadline config.frequency period reading)) ∧
      (∀ visit ∈ visits, visit.made = .setPeriod 0 →
        ∀ value, wrote lvtTimer value ∈ visit.own → LvtTimer.isMasked value = true) ∧
      (∀ front period back, events = front ++ .device (.periodStored period) :: back →
        ∃ visit earlier,
          Within visits front (.device (.periodStored period)) back visit earlier [] ∧
          visit.made = .setPeriod period ∧ Reprograms config period earlier) ∧
      (deviceEvents events).filterMap TimerEvent.stored = visits.filterMap Visit.setting := by
  intro ran
  obtain ⟨events, visits, hfollows, hanswered⟩ :=
    follows_runCalls (delivers_deliverUpTo config behaviour depth) calls before
  refine ⟨events, visits, hfollows, hanswered, ?_, ?_, ?_, stored_visits hfollows.ran⟩
  · intro front value back hsplit hunmasked
    obtain ⟨visit, earlier, later, hwithin⟩ :=
      hfollows.ran.exists_within hsplit (by simp [programs])
    obtain ⟨target, begun, hopening⟩ := hfollows.ran.opening_of_mem hwithin.visited
    obtain ⟨period, reading, hrearms⟩ := rearms_opening hopening hwithin.own hunmasked
    obtain ⟨level, outer, rest, hfront, hback⟩ := hwithin.around
    obtain ⟨start, fresh, hearlier, -, -, hfresh, -⟩ := hrearms.disarmed
    obtain ⟨gap, ended, hlater, hgap⟩ := hrearms.rearmed
    refine ⟨visit, earlier, later, period, reading, hwithin, hrearms, ?_, ?_⟩
    · rw [hfront, hearlier, ← List.cons_append, ← List.append_assoc]
      exact getLast?_deadlines hfresh _ 0
    · rw [hback, hlater, List.append_assoc]
      exact head?_deadlines hgap _ _
  · intro visit hvisit hmade value hmem
    obtain ⟨target, begun, hopening⟩ := hfollows.ran.opening_of_mem hvisit
    obtain ⟨earlier, later, hown⟩ := List.append_of_mem hmem
    by_contra hunmasked
    obtain ⟨period, reading, hrearms⟩ :=
      rearms_opening hopening hown (Bool.not_eq_true _ ▸ hunmasked)
    have hzero : TimerCall.setPeriod period = .setPeriod 0 := hrearms.sets.symm.trans hmade
    cases hzero
    exact hrearms.isOn rfl
  · intro front period back hsplit
    obtain ⟨visit, earlier, later, hwithin⟩ := hfollows.ran.exists_within hsplit rfl
    obtain ⟨target, begun, hopening⟩ := hfollows.ran.opening_of_mem hwithin.visited
    obtain ⟨hmade, rfl, hreprograms⟩ := reprograms_opening hopening hwithin.own
    exact ⟨visit, earlier, hwithin, hmade, hreprograms⟩

end GuestFirmware.Timer
