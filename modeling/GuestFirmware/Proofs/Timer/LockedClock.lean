import GuestFirmware.Proofs.Timer.Counts
import GuestFirmware.Timer.SimulatedClock
import Mathlib.Tactic.Linarith
import Mathlib.Tactic.Ring

/-!
# A measurement on a locked clock

The TSC of a locked clock makes a fixed number of ticks in each tick of the PM
timer.  On such a clock the measurement ends and its answer is exact, wherever
one of the counters wraps and however often a value of the PM timer is read.

There are four groups.

* `Clock.Locked` says what a locked clock is.
* The waits end.  `exists_pollsUntil` is the argument: a wait that does not stop
  sees a count that stays below a goal, and the count grows past every goal.
* `measureFrequency_of_locked` is the result.
* Every steady clock whose steps are not too wide is locked
  (`locked_steadyClock`).
-/

namespace GuestFirmware.Timer

variable {κ : Type} {clock : Clock κ} {count : κ → Int} {width rate : Nat} {origin : Int}

/-- The state after some readings of the PM timer. -/
def Clock.poll (clock : Clock κ) : Nat → κ → Option κ
  | 0, state => some state
  | reads + 1, state => (clock.readPmTimer state).bind fun (_, next) => clock.poll reads next

/-- Both counters always answer.  The TSC stands at `rate` for each tick of the count,
from some origin on.  The count does not move between a reading of the PM timer and
one of the TSC right behind it, and it grows past every number when the PM timer is
read again and again. -/
structure Clock.Locked (clock : Clock κ) (count : κ → Int) (width : Nat) (origin : Int)
    (rate : Nat) : Prop extends clock.Counts count width where
  pm_answers : ∀ state, ∃ reading next, clock.readPmTimer state = some (reading, next)
  tsc_answers : ∀ state, ∃ reading next, clock.readTsc state = some (reading, next)
  tsc_shown : ∀ {state next reading}, clock.readTsc state = some (reading, next) →
    reading = UInt64.ofInt (origin + rate * count next)
  tsc_still : ∀ {state next reading}, clock.AfterPm state →
    clock.readTsc state = some (reading, next) → count next = count state
  grows : ∀ state goal, ∃ reads after, clock.poll reads state = some after ∧ goal ≤ count after

namespace Clock.Locked

/-! ## The waits end -/

/-- A wait ends if it sees only counts below a goal as long as it goes on. -/
theorem exists_pollsUntil (h : clock.Locked count width origin rate) {stops : UInt32 → Prop}
    (Waits : κ → Prop) (goal : Int) (hbelow : ∀ state, Waits state → count state < goal)
    (hgoes : ∀ {state next reading}, Waits state →
      clock.readPmTimer state = some (reading, next) → ¬ stops reading → Waits next)
    {state : κ} (hwaits : Waits state) :
    ∃ reading next, clock.PollsUntil stops state reading next := by
  obtain ⟨reads, after, hpoll, hgoal⟩ := h.grows state goal
  induction reads generalizing state with
  | zero =>
    obtain rfl : state = after := Option.some.inj hpoll
    exact absurd (hbelow state hwaits) (Int.not_lt.2 hgoal)
  | succ reads ih =>
    obtain ⟨reading, next, hread⟩ := h.pm_answers state
    rw [Clock.poll, hread, Option.bind_some] at hpoll
    by_cases hstops : stops reading
    · exact ⟨reading, next, .stop hread hstops⟩
    · obtain ⟨last, final, hpolls⟩ := ih (hgoes hwaits hread hstops) hpoll
      exact ⟨last, final, .again hread hstops hpolls⟩

/-- As long as the PM timer shows the same value the count has not moved. -/
theorem exists_edge (h : clock.Locked count width origin rate) (hwidth : width = 24 ∨ width = 32)
    {state : κ} (hafter : clock.AfterPm state) {first : UInt32}
    (hfirst : first = UInt32.ofInt (count state % 2 ^ width)) :
    ∃ reading next, clock.PollsUntil (· ≠ first) state reading next := by
  refine h.exists_pollsUntil (fun here => clock.AfterPm here ∧ count here = count state)
    (count state + 1) (fun here hhere => by omega) ?_ ⟨hafter, rfl⟩
  rintro here next reading ⟨hhere, hcount⟩ hread hsame
  obtain ⟨hle, hlt⟩ := h.paced_of_afterPm hhere hread
  refine ⟨Clock.afterPm_of_read hread, ?_⟩
  have hmoved := pmElapsed_ofInt hwidth hle (by omega)
  rw [← h.shown hread, hcount, ← hfirst, not_not.1 hsame, pmElapsed_self] at hmoved
  omega

/-- As long as the masked difference is short of the target the true one is, too. -/
theorem exists_ticks (h : clock.Locked count width origin rate) (hwidth : width = 24 ∨ width = 32)
    {state : κ} (hpaced : clock.Paced count state) {start : UInt32}
    (hstart : start = UInt32.ofInt (count state % 2 ^ width)) :
    ∃ reading next, clock.PollsUntil (calibrationTicks ≤ pmElapsed start ·) state reading next := by
  refine h.exists_pollsUntil (fun here => clock.Paced count here ∧ count state ≤ count here ∧
      count here < count state + 178977) (count state + 178977)
    (fun here hhere => hhere.2.2) ?_ ⟨hpaced, by omega, by omega⟩
  rintro here next reading ⟨hhere, hlow, hshort⟩ hread hgoes
  obtain ⟨hle, hlt⟩ := hhere hread
  have helapsed := h.pmElapsed_of_read hwidth hhere hlow hshort hread
  rw [← hstart] at helapsed
  rw [Clock.Counts.calibrationTicks_eq] at hgoes
  exact ⟨h.paced_of_afterPm (Clock.afterPm_of_read hread), by omega, by omega⟩

/-- Every measurement on a locked clock comes to its end. -/
theorem exists_measurement (h : clock.Locked count width origin rate)
    (hwidth : width = 24 ∨ width = 32) (before : κ) : Nonempty (Measurement clock before) := by
  obtain ⟨first, polled, hfirst⟩ := h.pm_answers before
  have hpolled : clock.AfterPm polled := Clock.afterPm_of_read hfirst
  obtain ⟨startPm, edge, hedge⟩ := h.exists_edge hwidth hpolled (h.shown hfirst)
  obtain ⟨startTsc, started, hstart⟩ := h.tsc_answers edge
  have hstill := h.tsc_still hedge.afterPm hstart
  have hpaced : clock.Paced count started :=
    h.paced_of_readTsc hedge.afterPm hstart hstill
  have hshown : startPm = UInt32.ofInt (count started % 2 ^ width) := by
    rw [hstill]
    exact h.shown_of_pollsUntil hedge
  obtain ⟨endPm, reached, hticks⟩ := h.exists_ticks hwidth hpaced hshown
  obtain ⟨endTsc, after, hend⟩ := h.tsc_answers reached
  exact ⟨⟨first, polled, startPm, edge, startTsc, started, endPm, reached, endTsc, after, hfirst,
    hedge, hstart, hticks, hend⟩⟩

/-! ## The answer -/

/-- In a measurement the TSC makes its ticks for each tick of the divisor. -/
theorem toNat_tscTicks (h : clock.Locked count width origin rate)
    (hwidth : width = 24 ∨ width = 32) (hrate : rate < 2 ^ 40) {before : κ}
    (m : Measurement clock before) :
    (m.endTsc - m.startTsc).toNat = rate * m.divisor := by
  have hstart : count m.started = count m.edge := h.tsc_still m.awaits_edge.afterPm m.reads_start
  have hend : count m.after = count m.reached := h.tsc_still m.awaits_ticks.afterPm m.reads_end
  obtain ⟨hdivisor, -, hbound⟩ := h.divisor_eq hwidth m hstart
  have hticks : rate * m.divisor < 2 ^ 40 * 2 ^ 24 := Nat.mul_lt_mul'' hrate hbound
  have hmoved : origin + rate * count m.after =
      origin + rate * count m.started + (rate * m.divisor : Nat) := by
    rw [hend, hstart, Nat.cast_mul, hdivisor]
    ring
  rw [h.tsc_shown m.reads_end, h.tsc_shown m.reads_start, hmoved]
  exact toNat_ofInt_sub _ (by omega)

theorem toNat_frequency (h : clock.Locked count width origin rate)
    (hwidth : width = 24 ∨ width = 32) (hrate : rate < 2 ^ 40) {before : κ}
    (m : Measurement clock before) (hdivisor : 0 < m.divisor) :
    m.frequency.toNat = rate * 3579545 := by
  have hquotient : rate * m.divisor * pmTimerFrequency / m.divisor = rate * pmTimerFrequency := by
    rw [Nat.mul_right_comm, Nat.mul_div_cancel _ hdivisor]
  have hfits : rate * pmTimerFrequency < 2 ^ 64 := by
    rw [pmTimerFrequency]
    omega
  rw [Measurement.frequency, toNat_frequencyOf, h.toNat_tscTicks hwidth hrate m, hquotient]
  · rfl
  · rw [h.toNat_tscTicks hwidth hrate m, hquotient]
    exact hfits

end Clock.Locked

/-- On a locked clock the measurement ends, it divides by the target at least, and it
answers exactly the ticks that the TSC makes in a second. -/
theorem measureFrequency_of_locked (hwidth : width = 24 ∨ width = 32)
    (hlocked : clock.Locked count width origin rate) (hrate : rate < 2 ^ 40) (before : κ) :
    ∃ m : Measurement clock before, 178977 ≤ m.divisor ∧ m.frequency.toNat = rate * 3579545 ∧
      ∃ enough, ∀ limit, enough ≤ limit →
        measureFrequency clock limit before = some (m.frequency, m.after) := by
  obtain ⟨m⟩ := hlocked.exists_measurement hwidth before
  have hstill : count m.started = count m.edge :=
    hlocked.tsc_still m.awaits_edge.afterPm m.reads_start
  obtain ⟨-, hdivisor, -⟩ := hlocked.divisor_eq hwidth m hstill
  exact ⟨m, hdivisor, hlocked.toNat_frequency hwidth hrate m (by omega),
    m.measureFrequency_of_measurement⟩

/-! ## Steady clocks -/

section Steady

variable {pace : Pace}

/-- The true count of a steady clock. -/
def Pace.total (pace : Pace) (reads : Nat) : Int :=
  (pace.origin.toNat + reads * pace.step.toNat : Nat)

theorem nextPm_steadyClock {reads next : Nat} (h : (steadyClock pace).NextPm reads next) :
    next = reads + 1 :=
  h.eq_succ (fun hread => (congrArg Prod.snd (Option.some.inj hread)).symm)
    (fun hread => (congrArg Prod.snd (Option.some.inj hread)).symm)

theorem poll_steadyClock (reads before : Nat) :
    (steadyClock pace).poll reads before = some (before + reads) := by
  induction reads generalizing before with
  | zero => rfl
  | succ reads ih =>
    have hread := ih (before + 1)
    rw [Nat.add_assoc, Nat.add_comm 1] at hread
    exact hread

/-- The counter of the PM timer wraps at 2⁶⁴, and the mask does not show it. -/
theorem toNat_shown (hwidth : width = 24 ∨ width = 32) (hmask : pace.mask.toNat = 2 ^ width - 1)
    (reads : Nat) :
    ((pace.origin + UInt64.ofNat reads * pace.step) &&& pace.mask).toUInt32 =
      UInt32.ofInt (pace.total reads % 2 ^ width) := by
  have hcounter : (pace.origin + UInt64.ofNat reads * pace.step).toNat =
      (pace.origin.toNat + reads * pace.step.toNat) % 2 ^ 64 := by
    rw [UInt64.toNat_add, UInt64.toNat_mul, UInt64.toNat_ofNat', Nat.mod_mul_mod, Nat.add_mod_mod]
  apply UInt32.toNat_inj.1
  rw [UInt64.toNat_toUInt32, UInt64.toNat_and, hmask, Nat.and_two_pow_sub_one_eq_mod, hcounter,
    toNat_ofInt, Pace.total]
  generalize pace.origin.toNat + reads * pace.step.toNat = total
  rcases hwidth with rfl | rfl
  · omega
  · omega

theorem ofInt_natCast (value : Nat) : UInt64.ofInt value = UInt64.ofNat value := by
  apply UInt64.toNat_inj.1
  rw [UInt64.ofInt, UInt64.toNat_ofNat', UInt64.toNat_ofNat']
  omega

theorem tsc_shown_steadyClock (reads : Nat) :
    UInt64.ofNat reads * pace.step * pace.tscPerTick =
      UInt64.ofInt (-(pace.origin.toNat * pace.tscPerTick.toNat : Nat) +
        pace.tscPerTick.toNat * pace.total reads) := by
  have hticks : -((pace.origin.toNat * pace.tscPerTick.toNat : Nat) : Int) +
      pace.tscPerTick.toNat * pace.total reads =
        (reads * pace.step.toNat * pace.tscPerTick.toNat : Nat) := by
    rw [Pace.total]
    push_cast
    ring
  rw [hticks, ofInt_natCast, UInt64.ofNat_mul, UInt64.ofNat_mul, UInt64.ofNat_toNat,
    UInt64.ofNat_toNat]

theorem locked_steadyClock (pace : Pace) (hwidth : width = 24 ∨ width = 32)
    (hmask : pace.mask.toNat = 2 ^ width - 1) (hmoves : 0 < pace.step.toNat)
    (hslow : pace.step.toNat < 2 ^ 24 - 178977) :
    (steadyClock pace).Locked pace.total width
      (-(pace.origin.toNat * pace.tscPerTick.toNat : Nat)) pace.tscPerTick.toNat where
  shown := by
    intro reads next reading hread
    cases hread
    exact toNat_shown hwidth hmask (reads + 1)
  advances := by
    intro reads next _ hnext
    rw [nextPm_steadyClock hnext, Pace.total, Pace.total, Nat.succ_mul]
    omega
  pm_answers reads := ⟨_, _, rfl⟩
  tsc_answers reads := ⟨_, _, rfl⟩
  tsc_shown := by
    intro reads next reading hread
    cases hread
    exact tsc_shown_steadyClock reads
  tsc_still := by
    intro reads next reading _ hread
    cases hread
    rfl
  grows := by
    intro before goal
    refine ⟨goal.toNat, before + goal.toNat, poll_steadyClock _ _, ?_⟩
    have hsteps : before + goal.toNat ≤ (before + goal.toNat) * pace.step.toNat :=
      Nat.le_mul_of_pos_right _ hmoves
    rw [Pace.total]
    omega

/-- A PM timer of 24 bits that wraps right away. -/
def wrapping : Pace where
  origin := 0xFFFFFF - 100
  step := 3
  tscPerTick := 500
  mask := 0xFFFFFF

theorem measureFrequency_of_locked_wrapping :
    (steadyClock wrapping).Locked wrapping.total 24
      (-(wrapping.origin.toNat * 500 : Nat)) 500 ∧ 500 < 2 ^ 40 ∧
    ∃ m : Measurement (steadyClock wrapping) 0, 178977 ≤ m.divisor ∧
      m.frequency.toNat = 500 * 3579545 ∧
      ∃ enough, ∀ limit, enough ≤ limit →
        measureFrequency (steadyClock wrapping) limit 0 = some (m.frequency, m.after) := by
  have hlocked : (steadyClock wrapping).Locked wrapping.total 24
      (-(wrapping.origin.toNat * 500 : Nat)) 500 :=
    locked_steadyClock wrapping (.inl rfl) (by decide) (by decide) (by decide)
  exact ⟨hlocked, by decide, measureFrequency_of_locked (.inl rfl) hlocked (by decide) 0⟩

end Steady

end GuestFirmware.Timer
