import GuestFirmware.Proofs.Timer.Visits
import Mathlib.Algebra.Group.Nat.Defs

/-!
# The arithmetic of deadlines

A deadline is a reading of the counter and the ticks of a period, which are a product
of two words divided by the units in a second.  The product and the division cut off no
bits, and the sum stops at the last word.

* `Checked.deadline` computes the deadline once more, in words.  It ends with nothing at
  the first product that is no word, and `Checked.deadline_eq` says that there is none.
* `deadline_le_deadline` says that it grows with all three of its arguments,
  `lt_deadline` that it is later than the reading, and `deadline_split` what it loses when
  a period is cut in two.
* `Timed` says which deadlines a call writes, and `deadlines_exact` is the result.
-/

namespace GuestFirmware.Timer

/-! ## In words -/

namespace Checked

/-- A number of some bits, nothing if it has more. -/
def word (bits value : Nat) : Option Nat :=
  if value < 2 ^ bits then some value else none

/-- The deadline in words: the product in 128 bits, the ticks and the sum in 64.  Ticks and
sums of more bits stop at the last word. -/
def deadline (frequency period tsc : UInt64) : Option UInt64 := do
  let product ← word 128 (frequency.toNat * period.toNat)
  let ticks := (word 64 (product / unitsPerSecond)).getD lastWord
  return UInt64.ofNat ((word 64 (tsc.toNat + ticks)).getD lastWord)

theorem getD_word (value : Nat) : (word 64 value).getD lastWord = min value lastWord := by
  have hlast : lastWord = 2 ^ 64 - 1 := rfl
  unfold word
  split
  · rw [Option.getD_some]
    omega
  · rw [Option.getD_none]
    omega

theorem word_product (frequency period : UInt64) :
    word 128 (frequency.toNat * period.toNat) = some (frequency.toNat * period.toNat) := by
  apply if_pos
  calc frequency.toNat * period.toNat
    _ < 2 ^ 64 * 2 ^ 64 := Nat.mul_lt_mul'' frequency.toNat_lt period.toNat_lt
    _ = 2 ^ 128 := by decide

theorem deadline_eq (frequency period tsc : UInt64) :
    deadline frequency period tsc = some (Timer.deadline frequency period tsc) := by
  have hsum : min (tsc.toNat + min (ticksIn frequency period) lastWord) lastWord =
      min (tsc.toNat + ticksIn frequency period) lastWord := by omega
  rw [deadline, word_product, Option.bind_eq_bind, Option.bind_some]
  dsimp only
  rw [getD_word, getD_word]
  show some (UInt64.ofNat (min (tsc.toNat + min (ticksIn frequency period) lastWord) lastWord)) = _
  rw [hsum]
  rfl

end Checked

/-! ## Laws -/

theorem deadline_le_deadline {frequency frequency' period period' tsc tsc' : UInt64}
    (hfrequency : frequency ≤ frequency') (hperiod : period ≤ period') (htsc : tsc ≤ tsc') :
    deadline frequency period tsc ≤ deadline frequency' period' tsc' := by
  rw [UInt64.le_iff_toNat_le] at hfrequency hperiod htsc ⊢
  have hticks : frequency.toNat * period.toNat / unitsPerSecond ≤
      frequency'.toNat * period'.toNat / unitsPerSecond :=
    Nat.div_le_div_right (Nat.mul_le_mul hfrequency hperiod)
  rw [toNat_deadline, toNat_deadline]
  omega

/-- In a period of one tick or more the counter moves on, as far as it can. -/
theorem lt_deadline {frequency period tsc : UInt64}
    (hticks : unitsPerSecond ≤ frequency.toNat * period.toNat) (htsc : tsc.toNat < lastWord) :
    tsc < deadline frequency period tsc := by
  have hone : 1 ≤ frequency.toNat * period.toNat / unitsPerSecond := one_le_ticksIn hticks
  rw [UInt64.lt_iff_toNat_lt, toNat_deadline]
  omega

/-- Two parts of a period have the ticks of the whole, or one less. -/
theorem ticksIn_split {first second whole : UInt64}
    (hwhole : first.toNat + second.toNat = whole.toNat) (frequency : UInt64) :
    ticksIn frequency first + ticksIn frequency second ≤ ticksIn frequency whole ∧
      ticksIn frequency whole ≤ ticksIn frequency first + ticksIn frequency second + 1 := by
  unfold ticksIn unitsPerSecond
  rw [← hwhole, Nat.mul_add]
  omega

theorem deadline_split {first second whole : UInt64}
    (hwhole : first.toNat + second.toNat = whole.toNat) (frequency tsc : UInt64) :
    let split := deadline frequency second (deadline frequency first tsc)
    split ≤ deadline frequency whole tsc ∧
      (deadline frequency whole tsc).toNat ≤ split.toNat + 1 := by
  intro split
  obtain ⟨hle, hge⟩ := ticksIn_split hwhole frequency
  have hsplit : split.toNat =
      min (min (tsc.toNat + ticksIn frequency first) lastWord + ticksIn frequency second)
        lastWord := by
    rw [← toNat_saturatingAdd, ← toNat_saturatingAdd]
    rfl
  have htotal : (deadline frequency whole tsc).toNat =
      min (tsc.toNat + ticksIn frequency whole) lastWord := toNat_saturatingAdd _ _
  rw [UInt64.le_iff_toNat_le, hsplit, htotal]
  omega

/-! ## Deadlines of a run -/

/-- The deadlines that a call writes, from the reading of the counter that it makes. -/
structure Timed (config : TimerConfig) (visit : Visit) : Prop where
  setPeriod : ∀ period, visit.made = .setPeriod period → period ≠ 0 →
    .device (.tscRead visit.entered.nextReading) ∈ visit.own ∧
    deadlines visit.own = [0, deadline config.frequency period visit.entered.nextReading]
  tick : visit.made = .tick → visit.entered.period ≠ 0 →
    .device (.tscRead visit.entered.nextReading) ∈ visit.own ∧
    deadlines visit.own =
      [deadline config.frequency visit.entered.period visit.entered.nextReading]

variable {config : TimerConfig} {timer begun : ApicTimer} {made : TimerCall}
  {own : List (Event TimerEvent)} {answer : Except Status Unit}
  {target : Option (Handler × UInt64)}

theorem timed_opening (h : Opening config timer made own answer target begun) :
    Timed config ⟨made, timer, own, answer⟩ := by
  cases h with
  | registered | occupied | vacant | unsupported | simulated => exact ⟨nofun, nofun⟩
  | disarmed =>
    refine ⟨?_, nofun⟩
    rintro period ⟨⟩ hperiod
    exact absurd rfl hperiod
  | programmed hperiod hnext =>
    refine ⟨?_, nofun⟩
    rintro period ⟨⟩ -
    exact ⟨by simp, by rw [hnext]; rfl⟩
  | idleTick hperiod => exact ⟨nofun, fun _ hother => absurd hperiod hother⟩
  | tick hperiod hnext =>
    refine ⟨nofun, fun _ _ => ⟨by simp, ?_⟩⟩
    rw [deadlines_append, deadlines_noticed, hnext]
    rfl

/-- Whatever the timer and its handlers do, setting a period and a tick write the deadline
one period after the counter.  A deadline is the exact sum, at most the last word, and no
step to it leaves its words.  It grows with the frequency, the period and the reading.  Once
a period has a tick it is later than the reading, unless that is the last word.  A period
that is cut in two loses one tick at most, even where the sum stops at the last word. -/
theorem deadlines_exact :
    (∀ config behaviour depth calls before,
      let ran := (runCalls config (deliverUpTo config behaviour depth) calls).run before
      ∃ events visits, Follows config before ran.2 events visits ∧ Answered calls ran.1 visits ∧
        ∀ visit ∈ visits, Timed config visit) ∧
    (∀ frequency period tsc,
      (deadline frequency period tsc).toNat =
        min (2 ^ 64 - 1) (tsc.toNat + frequency.toNat * period.toNat / 10 ^ 7) ∧
      Checked.deadline frequency period tsc = some (deadline frequency period tsc)) ∧
    (∀ frequency frequency' period period' tsc tsc',
      frequency ≤ frequency' → period ≤ period' → tsc ≤ tsc' →
        deadline frequency period tsc ≤ deadline frequency' period' tsc') ∧
    (∀ frequency period tsc,
      10 ^ 7 ≤ frequency.toNat * period.toNat → tsc.toNat < 2 ^ 64 - 1 →
        tsc < deadline frequency period tsc ∧ deadline frequency period tsc ≠ 0) ∧
    (∀ frequency first second whole tsc : UInt64, first.toNat + second.toNat = whole.toNat →
      let split := deadline frequency second (deadline frequency first tsc)
      split ≤ deadline frequency whole tsc ∧
        (deadline frequency whole tsc).toNat ≤ split.toNat + 1) := by
  refine ⟨?_, ?_, ?_, ?_, ?_⟩
  · intro config behaviour depth calls before ran
    obtain ⟨events, visits, hfollows, hanswered⟩ :=
      follows_runCalls (delivers_deliverUpTo config behaviour depth) calls before
    refine ⟨events, visits, hfollows, hanswered, fun visit hvisit => ?_⟩
    obtain ⟨target, begun, hopening⟩ := hfollows.ran.opening_of_mem hvisit
    exact timed_opening hopening
  · intro frequency period tsc
    refine ⟨?_, Checked.deadline_eq frequency period tsc⟩
    rw [toNat_deadline, Nat.min_comm]
    rfl
  · intro frequency frequency' period period' tsc tsc' hfrequency hperiod htsc
    exact deadline_le_deadline hfrequency hperiod htsc
  · intro frequency period tsc hticks htsc
    have hlater := lt_deadline hticks htsc
    refine ⟨hlater, fun hzero => ?_⟩
    rw [hzero] at hlater
    exact absurd hlater (by simp)
  · intro frequency first second whole tsc hwhole
    exact deadline_split hwhole frequency tsc

end GuestFirmware.Timer
