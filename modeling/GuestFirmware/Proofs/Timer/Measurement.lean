import GuestFirmware.Timer.Calibration
import Mathlib.Algebra.Group.Nat.Defs
import Mathlib.Tactic.Common

/-!
# The course of a measurement

`measureFrequency` gives up after a number of readings.  This module says what
the measurement means without such a limit.  `Clock.PollsUntil` is a wait: the
PM timer is read until a reading passes a test.  `Measurement` are the readings
of a whole measurement, with its two waits.

`measureFrequency_of_measurement` says that a measurement that comes to its end
is made whenever the limit is high enough, and `exists_measurement` that nothing
else is answered.
-/

namespace GuestFirmware.Timer

variable {κ : Type} {clock : Clock κ}

/-! ## Waiting -/

/-- The PM timer is read from a state on until a reading stops the wait.  That
reading and the state behind it follow. -/
inductive Clock.PollsUntil (clock : Clock κ) (stops : UInt32 → Prop) : κ → UInt32 → κ → Prop
  | stop {state next : κ} {reading : UInt32} : clock.readPmTimer state = some (reading, next) →
      stops reading → clock.PollsUntil stops state reading next
  | again {state middle next : κ} {reading last : UInt32} :
      clock.readPmTimer state = some (reading, middle) → ¬ stops reading →
      clock.PollsUntil stops middle last next → clock.PollsUntil stops state last next

/-- Reads the PM timer, `limit` times at most, until a reading passes a test. -/
def await (clock : Clock κ) (stops : UInt32 → Prop) [DecidablePred stops] :
    Nat → κ → Option (UInt32 × κ)
  | 0, _ => none
  | limit + 1, state =>
    match clock.readPmTimer state with
    | none => none
    | some (reading, next) =>
      if stops reading then some (reading, next) else await clock stops limit next

variable {stops : UInt32 → Prop} [DecidablePred stops] {state next : κ} {reading : UInt32}

theorem await_of_pollsUntil (h : clock.PollsUntil stops state reading next) :
    ∃ enough, ∀ limit, enough ≤ limit → await clock stops limit state = some (reading, next) := by
  induction h with
  | stop hread hstops =>
    refine ⟨1, fun limit hlimit => ?_⟩
    obtain ⟨limit, rfl⟩ := Nat.exists_eq_add_of_le' hlimit
    rw [await, hread]
    exact if_pos hstops
  | again hread hgoes _ ih =>
    obtain ⟨enough, henough⟩ := ih
    refine ⟨enough + 1, fun limit hlimit => ?_⟩
    obtain ⟨limit, rfl⟩ := Nat.exists_eq_add_of_le' (Nat.le_of_add_left_le hlimit)
    rw [await, hread]
    dsimp only
    rw [if_neg hgoes, henough limit (by omega)]

theorem pollsUntil_of_await {limit : Nat}
    (h : await clock stops limit state = some (reading, next)) :
    clock.PollsUntil stops state reading next := by
  induction limit generalizing state with
  | zero => cases h
  | succ limit ih =>
    rw [await] at h
    split at h
    · cases h
    · next hread =>
      split at h
      · next hstops =>
        cases h
        exact .stop hread hstops
      · next hgoes => exact .again hread hgoes (ih h)

theorem awaitEdge_eq (first : UInt32) (limit : Nat) (state : κ) :
    awaitEdge clock first limit state = await clock (· ≠ first) limit state := by
  induction limit generalizing state with
  | zero => rfl
  | succ limit ih =>
    rw [awaitEdge, await]
    cases clock.readPmTimer state with
    | none => rfl
    | some read => simp only [ih, ite_not]

theorem awaitTicks_eq (start : UInt32) (limit : Nat) (state : κ) :
    awaitTicks clock start limit state =
      (await clock (calibrationTicks ≤ pmElapsed start ·) limit state).map
        fun (reading, next) => (pmElapsed start reading, next) := by
  induction limit generalizing state with
  | zero => rfl
  | succ limit ih =>
    rw [awaitTicks, await]
    cases clock.readPmTimer state with
    | none => rfl
    | some read =>
      dsimp only
      by_cases hshort : pmElapsed start read.1 < calibrationTicks
      · rw [if_pos hshort, if_neg (Nat.not_le.2 hshort), ih]
      · rw [if_neg hshort, if_pos (Nat.le_of_not_lt hshort), Option.map_some]

/-! ## The measurement -/

theorem toNat_frequencyOf {tscTicks : UInt64} {pmTicks : Nat}
    (h : tscTicks.toNat * pmTimerFrequency / pmTicks < 2 ^ 64) :
    (frequencyOf tscTicks pmTicks).toNat = tscTicks.toNat * pmTimerFrequency / pmTicks := by
  rw [frequencyOf, UInt64.toNat_ofNat', Nat.mod_eq_of_lt h]

/-- The readings of a measurement, and the states of the clock between them. -/
structure Measurement (clock : Clock κ) (before : κ) where
  first : UInt32
  polled : κ
  startPm : UInt32
  edge : κ
  startTsc : UInt64
  started : κ
  endPm : UInt32
  reached : κ
  endTsc : UInt64
  after : κ
  reads_first : clock.readPmTimer before = some (first, polled)
  awaits_edge : clock.PollsUntil (· ≠ first) polled startPm edge
  reads_start : clock.readTsc edge = some (startTsc, started)
  awaits_ticks : clock.PollsUntil (calibrationTicks ≤ pmElapsed startPm ·) started endPm reached
  reads_end : clock.readTsc reached = some (endTsc, after)

namespace Measurement

variable {before after : κ} {answer : UInt64} {limit : Nat}

/-- The PM timer ticks that the TSC ticks are divided by. -/
def divisor (m : Measurement clock before) : Nat :=
  pmElapsed m.startPm m.endPm

/-- What the measurement answers. -/
def frequency (m : Measurement clock before) : UInt64 :=
  frequencyOf (m.endTsc - m.startTsc) m.divisor

theorem measureFrequency_of_measurement (m : Measurement clock before) :
    ∃ enough, ∀ limit, enough ≤ limit →
      measureFrequency clock limit before = some (m.frequency, m.after) := by
  obtain ⟨first, hfirst⟩ := await_of_pollsUntil m.awaits_edge
  obtain ⟨second, hsecond⟩ := await_of_pollsUntil m.awaits_ticks
  refine ⟨max first second, fun limit hlimit => ?_⟩
  have hedge := hfirst limit (Nat.le_trans (Nat.le_max_left ..) hlimit)
  have hticks := hsecond limit (Nat.le_trans (Nat.le_max_right ..) hlimit)
  simp only [measureFrequency, m.reads_first, awaitEdge_eq, hedge, m.reads_start, awaitTicks_eq,
    hticks, m.reads_end, Option.bind_eq_bind, Option.bind_some, Option.map_some]
  rfl

theorem exists_measurement
    (h : measureFrequency clock limit before = some (answer, after)) :
    ∃ m : Measurement clock before, m.frequency = answer ∧ m.after = after := by
  simp only [measureFrequency, Option.bind_eq_bind, Option.bind_eq_some_iff, awaitEdge_eq,
    awaitTicks_eq, Option.map_eq_some_iff] at h
  obtain ⟨⟨first, polled⟩, hfirst, ⟨startPm, edge⟩, hedge, ⟨startTsc, started⟩, hstart, _,
    ⟨⟨endPm, reached⟩, hticks, rfl⟩, ⟨endTsc, last⟩, hend, hanswer⟩ := h
  cases hanswer
  exact ⟨⟨first, polled, startPm, edge, startTsc, started, endPm, reached, endTsc, last, hfirst,
    pollsUntil_of_await hedge, hstart, pollsUntil_of_await hticks, hend⟩, rfl, rfl⟩

end Measurement

end GuestFirmware.Timer
