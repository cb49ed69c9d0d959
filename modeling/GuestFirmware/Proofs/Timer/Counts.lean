import GuestFirmware.Proofs.Timer.Measurement
import Mathlib.Algebra.Group.Int.Defs
import Mathlib.Algebra.Group.Nat.Defs
import Mathlib.Data.Int.Order.Basic

/-!
# The PM timer shows the end of a count

A PM timer shows the lowest 24 or 32 bits of a count that goes on forever.
`Clock.Counts` says so of a clock, together with how far the count moves between
two readings at most.

There are three groups.

* Readings.  `pmElapsed_ofInt` says that the masked difference of two readings is
  the true one if that is less than what the mask can show, and `toNat_ofInt_sub`
  says the like of the TSC.
* Consecutive readings.  `Clock.Paced` says that the count has not moved far at the
  next reading.  Each reading leads to such a state, and so does a reading of the
  TSC behind it.
* The divisor.  While a measurement waits the true difference stays below the
  target, so the first masked difference that reaches the target is the true one
  (`Counts.of_pollsUntil`).  `Counts.divisor_eq` says this of a measurement.
-/

namespace GuestFirmware.Timer

variable {κ : Type} {clock : Clock κ} {count : κ → Int} {width : Nat}

/-! ## Readings -/

theorem toNat_ofInt (value : Int) : (UInt32.ofInt value).toNat = (value % 2 ^ 32).toNat := by
  rw [UInt32.ofInt, UInt32.toNat_ofNat']
  omega

/-- The PM timer counts at least as far as the mask. -/
theorem pmElapsed_eq (start reading : UInt32) :
    pmElapsed start reading = (2 ^ 32 - start.toNat + reading.toNat) % 2 ^ 24 := by
  have hmask : pmTimerMask.toNat = 2 ^ 24 - 1 := rfl
  rw [pmElapsed, UInt32.toNat_and, hmask, Nat.and_two_pow_sub_one_eq_mod, UInt32.toNat_sub]
  omega

theorem pmElapsed_self (reading : UInt32) : pmElapsed reading reading = 0 := by
  have hlt := reading.toNat_lt
  rw [pmElapsed_eq]
  omega

theorem pmElapsed_ofInt {start last : Int} (hwidth : width = 24 ∨ width = 32)
    (hle : start ≤ last) (hlt : last < start + 2 ^ 24) :
    (pmElapsed (UInt32.ofInt (start % 2 ^ width)) (UInt32.ofInt (last % 2 ^ width)) : Int) =
      last - start := by
  rw [pmElapsed_eq, toNat_ofInt, toNat_ofInt]
  rcases hwidth with rfl | rfl
  · omega
  · omega

/-- The difference of two readings of the TSC is the true one if that fits. -/
theorem toNat_ofInt_sub (start : Int) {ticks : Nat} (hticks : ticks < 2 ^ 64) :
    (UInt64.ofInt (start + ticks) - UInt64.ofInt start).toNat = ticks := by
  rw [UInt64.toNat_sub, UInt64.ofInt, UInt64.ofInt, UInt64.toNat_ofNat', UInt64.toNat_ofNat']
  omega

/-! ## Consecutive readings -/

/-- The clock is in this state right after a reading of the PM timer. -/
def Clock.AfterPm (clock : Clock κ) (state : κ) : Prop :=
  ∃ before reading, clock.readPmTimer before = some (reading, state)

/-- The clock goes from the first state to the second at the next reading of the PM
timer.  The TSC may be read before it. -/
inductive Clock.NextPm (clock : Clock κ) : κ → κ → Prop
  | pm {state next : κ} {reading : UInt32} : clock.readPmTimer state = some (reading, next) →
      clock.NextPm state next
  | tsc {state middle next : κ} {reading : UInt64} : clock.readTsc state = some (reading, middle) →
      clock.NextPm middle next → clock.NextPm state next

/-- Of a clock whose state is the number of readings of the PM timer. -/
theorem Clock.NextPm.eq_succ {clock : Clock Nat} {reads next : Nat}
    (hpm : ∀ {before after reading}, clock.readPmTimer before = some (reading, after) →
      after = before + 1)
    (htsc : ∀ {before after reading}, clock.readTsc before = some (reading, after) →
      after = before)
    (h : clock.NextPm reads next) : next = reads + 1 := by
  induction h with
  | pm hread => exact hpm hread
  | tsc hread _ ih => rw [ih, htsc hread]

/-- The PM timer shows the lowest bits of a count.  From one reading of it to the
next the count does not go back, and it moves on by less than what the mask can
show above the target of the wait.  The count of a state is the one at the last
reading of a counter. -/
structure Clock.Counts (clock : Clock κ) (count : κ → Int) (width : Nat) : Prop where
  shown : ∀ {state next reading}, clock.readPmTimer state = some (reading, next) →
    reading = UInt32.ofInt (count next % 2 ^ width)
  advances : ∀ {state next}, clock.AfterPm state → clock.NextPm state next →
    count state ≤ count next ∧ count next < count state + (2 ^ 24 - 178977)

/-- At the next reading of the PM timer the count has not moved far from here. -/
def Clock.Paced (clock : Clock κ) (count : κ → Int) (state : κ) : Prop :=
  ∀ {next reading}, clock.readPmTimer state = some (reading, next) →
    count state ≤ count next ∧ count next < count state + (2 ^ 24 - 178977)

variable {state next : κ}

theorem Clock.afterPm_of_read {reading : UInt32}
    (h : clock.readPmTimer state = some (reading, next)) : clock.AfterPm next :=
  ⟨state, reading, h⟩

theorem Clock.PollsUntil.afterPm {stops : UInt32 → Prop} {reading : UInt32}
    (h : clock.PollsUntil stops state reading next) : clock.AfterPm next := by
  induction h with
  | stop hread _ => exact Clock.afterPm_of_read hread
  | again _ _ _ ih => exact ih

namespace Clock.Counts

theorem paced_of_afterPm (h : clock.Counts count width) (hafter : clock.AfterPm state) :
    clock.Paced count state :=
  fun hread => h.advances hafter (.pm hread)

/-- The TSC is read while the count stands still. -/
theorem paced_of_readTsc (h : clock.Counts count width) (hafter : clock.AfterPm state)
    {reading : UInt64} (hread : clock.readTsc state = some (reading, next))
    (hstill : count next = count state) : clock.Paced count next := by
  intro _ _ hpm
  rw [hstill]
  exact h.advances hafter (.tsc hread (.pm hpm))

/-! ## The divisor -/

/-- The reading shows how far the count has moved since the start of the wait. -/
theorem pmElapsed_of_read (h : clock.Counts count width) (hwidth : width = 24 ∨ width = 32)
    {start : Int} {reading : UInt32} (hpaced : clock.Paced count state)
    (hlow : start ≤ count state) (hshort : count state < start + 178977)
    (hread : clock.readPmTimer state = some (reading, next)) :
    (pmElapsed (UInt32.ofInt (start % 2 ^ width)) reading : Int) = count next - start := by
  obtain ⟨hle, hlt⟩ := hpaced hread
  rw [h.shown hread, pmElapsed_ofInt hwidth (by omega) (by omega)]

theorem calibrationTicks_eq : calibrationTicks = 178977 := rfl

/-- A wait that begins less than the target behind its start ends with the true
difference. -/
theorem of_pollsUntil (h : clock.Counts count width) (hwidth : width = 24 ∨ width = 32)
    {start : Int} {startPm reading : UInt32} (hstart : startPm = UInt32.ofInt (start % 2 ^ width))
    (hpolls : clock.PollsUntil (calibrationTicks ≤ pmElapsed startPm ·) state reading next)
    (hpaced : clock.Paced count state) (hlow : start ≤ count state)
    (hshort : count state < start + 178977) :
    (pmElapsed startPm reading : Int) = count next - start ∧
      178977 ≤ pmElapsed startPm reading ∧ pmElapsed startPm reading < 2 ^ 24 := by
  induction hpolls with
  | @stop state next reading hread hstops =>
    have helapsed := h.pmElapsed_of_read hwidth hpaced hlow hshort hread
    obtain ⟨hle, hlt⟩ := hpaced hread
    rw [← hstart] at helapsed
    rw [calibrationTicks_eq] at hstops
    omega
  | @again state middle next reading last hread hgoes _ ih =>
    have helapsed := h.pmElapsed_of_read hwidth hpaced hlow hshort hread
    obtain ⟨hle, -⟩ := hpaced hread
    rw [← hstart] at helapsed
    rw [calibrationTicks_eq] at hgoes
    exact ih (h.paced_of_afterPm (Clock.afterPm_of_read hread)) (by omega) (by omega)

/-- The reading that stops a wait shows the count behind it. -/
theorem shown_of_pollsUntil (h : clock.Counts count width) {stops : UInt32 → Prop}
    {reading : UInt32} (hpolls : clock.PollsUntil stops state reading next) :
    reading = UInt32.ofInt (count next % 2 ^ width) := by
  induction hpolls with
  | stop hread _ => exact h.shown hread
  | again _ _ _ ih => exact ih

/-- The divisor of a measurement is how far the count moved between the readings of
the TSC. -/
theorem divisor_eq (h : clock.Counts count width) (hwidth : width = 24 ∨ width = 32)
    {before : κ} (m : Measurement clock before) (hstill : count m.started = count m.edge) :
    (m.divisor : Int) = count m.reached - count m.edge ∧ 178977 ≤ m.divisor ∧
      m.divisor < 2 ^ 24 := by
  have hpaced : clock.Paced count m.started :=
    h.paced_of_readTsc m.awaits_edge.afterPm m.reads_start hstill
  have hstart := h.shown_of_pollsUntil m.awaits_edge
  exact h.of_pollsUntil hwidth hstart m.awaits_ticks hpaced (by omega) (by omega)

end Clock.Counts

end GuestFirmware.Timer
