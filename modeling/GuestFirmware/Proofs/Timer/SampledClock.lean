import GuestFirmware.Proofs.Timer.Counts
import Mathlib.Algebra.Order.Floor.Ring
import Mathlib.Data.Nat.Cast.Order.Field
import Mathlib.Data.Rat.Floor
import Mathlib.Tactic.FieldSimp
import Mathlib.Tactic.Linarith
import Mathlib.Tactic.NormNum
import Mathlib.Tactic.Positivity
import Mathlib.Tactic.Ring

/-!
# How far a measurement is off

The counters of a real clock are not locked: each shows the whole ticks that have
passed at the time of a reading.  `Clock.Sampled` says so for a TSC of any
rational frequency.

There are three groups.

* Whole ticks.  Between two times a counter makes one tick more or less than its
  frequency says (`abs_floor_sub_floor`).  `quotient_error` says what this does to
  the quotient of two counters.
* A sampled clock.  `Clock.Sampled.counts` is the count of its PM timer.
* `frequency_error` is the result.
-/

namespace GuestFirmware.Timer

variable {κ : Type} {clock : Clock κ} {time : κ → ℚ} {frequency : ℚ}

/-! ## Whole ticks -/

theorem abs_floor_sub_floor (start last : ℚ) :
    |((⌊last⌋ - ⌊start⌋ : ℤ) : ℚ) - (last - start)| < 1 := by
  have hstart := Int.floor_le start
  have hstart' := Int.lt_floor_add_one start
  have hlast := Int.floor_le last
  have hlast' := Int.lt_floor_add_one last
  rw [Int.cast_sub, abs_lt]
  constructor
  · linarith
  · linarith

/-- The ticks of two counters, each off by one at most, compared crosswise. -/
theorem abs_cross_lt {pmTicks tscTicks elapsed : ℚ} (hpos : 0 < frequency)
    (hpm : |pmTicks - 3579545 * elapsed| < 1) (htsc : |tscTicks - frequency * elapsed| < 1) :
    |tscTicks * 3579545 - frequency * pmTicks| < frequency + 3579545 := by
  obtain ⟨hpm, hpm'⟩ := abs_lt.1 hpm
  obtain ⟨htsc, htsc'⟩ := abs_lt.1 htsc
  have hlow : frequency * (pmTicks - 3579545 * elapsed) < frequency * 1 :=
    mul_lt_mul_of_pos_left hpm' hpos
  have hhigh : frequency * -1 < frequency * (pmTicks - 3579545 * elapsed) :=
    mul_lt_mul_of_pos_left hpm hpos
  rw [abs_lt]
  constructor
  · linarith
  · linarith

/-- The division of whole numbers drops less than one. -/
theorem natDiv_bounds {divisor : ℕ} (hdivisor : 0 < divisor) (ticks : ℕ) :
    ((ticks / divisor : ℕ) : ℚ) ≤ (ticks : ℚ) / divisor ∧
      (ticks : ℚ) / divisor < ((ticks / divisor : ℕ) : ℚ) + 1 := by
  refine ⟨Nat.cast_div_le, ?_⟩
  rw [div_lt_iff₀' (by exact_mod_cast hdivisor)]
  exact_mod_cast Nat.lt_mul_div_succ ticks hdivisor

/-- The whole quotient of the ticks of two counters is close to the frequency. -/
theorem quotient_error {pmTicks tscTicks : ℕ} {elapsed : ℚ} (hpos : 0 < frequency)
    (henough : 178977 ≤ pmTicks) (hpm : |(pmTicks : ℚ) - 3579545 * elapsed| < 1)
    (htsc : |(tscTicks : ℚ) - frequency * elapsed| < 1) :
    |((tscTicks * 3579545 / pmTicks : ℕ) : ℚ) - frequency| ≤ frequency / 178977 + 22 := by
  have hticks : (178977 : ℚ) ≤ pmTicks := by exact_mod_cast henough
  have hdivisor : (0 : ℚ) < pmTicks := by linarith
  have hcross : (tscTicks : ℚ) * 3579545 / pmTicks - frequency =
      (tscTicks * 3579545 - frequency * pmTicks) / pmTicks := by
    field_simp
  have hquotient : |(tscTicks : ℚ) * 3579545 / pmTicks - frequency| <
      frequency / 178977 + 21 := by
    calc |(tscTicks : ℚ) * 3579545 / pmTicks - frequency|
        = |tscTicks * 3579545 - frequency * pmTicks| / pmTicks := by
          rw [hcross, abs_div, abs_of_pos hdivisor]
      _ < (frequency + 3579545) / pmTicks :=
          div_lt_div_of_pos_right (abs_cross_lt hpos hpm htsc) hdivisor
      _ ≤ (frequency + 3579545) / 178977 :=
          div_le_div_of_nonneg_left (by linarith) (by norm_num) hticks
      _ < frequency / 178977 + 21 := by
          rw [add_div]
          norm_num
  have hdown := natDiv_bounds (by omega : 0 < pmTicks) (tscTicks * 3579545)
  rw [Nat.cast_mul, Nat.cast_ofNat] at hdown
  obtain ⟨hlow, hhigh⟩ := abs_lt.1 hquotient
  rw [abs_le]
  constructor
  · linarith [hdown.2]
  · linarith [hdown.1]

/-! ## A sampled clock -/

/-- The counters show the whole ticks at the time of a reading, which is the time of the
state behind it.  The TSC is read at the time of the reading of the PM timer right
before it.  From one reading of the PM timer to the next time does not go back, and
the timer makes fewer ticks than the mask can show above the target of the wait. -/
structure Clock.Sampled (clock : Clock κ) (time : κ → ℚ) (frequency : ℚ) : Prop where
  pm_shown : ∀ {state next reading}, clock.readPmTimer state = some (reading, next) →
    reading = UInt32.ofInt (⌊3579545 * time next⌋ % 2 ^ 24)
  tsc_shown : ∀ {state next reading}, clock.readTsc state = some (reading, next) →
    reading = UInt64.ofInt ⌊frequency * time next⌋
  tsc_still : ∀ {state next reading}, clock.AfterPm state →
    clock.readTsc state = some (reading, next) → time next = time state
  ordered : ∀ {state next}, clock.AfterPm state → clock.NextPm state next →
    time state ≤ time next
  close : ∀ {state next}, clock.AfterPm state → clock.NextPm state next →
    ⌊3579545 * time next⌋ < ⌊3579545 * time state⌋ + (2 ^ 24 - 178977)

namespace Clock.Sampled

variable {before : κ}

theorem counts (h : clock.Sampled time frequency) :
    clock.Counts (fun state => ⌊3579545 * time state⌋) 24 where
  shown := h.pm_shown
  advances hafter hnext :=
    ⟨Int.floor_le_floor (mul_le_mul_of_nonneg_left (h.ordered hafter hnext) (by norm_num)),
      h.close hafter hnext⟩

/-- The ticks of the PM timer between the readings of the TSC. -/
theorem divisor_eq (h : clock.Sampled time frequency) (m : Measurement clock before) :
    (m.divisor : ℤ) = ⌊3579545 * time m.after⌋ - ⌊3579545 * time m.started⌋ ∧
      178977 ≤ m.divisor ∧ m.divisor < 2 ^ 24 := by
  have hstart := h.tsc_still m.awaits_edge.afterPm m.reads_start
  have hend := h.tsc_still m.awaits_ticks.afterPm m.reads_end
  have hdivisor := h.counts.divisor_eq (.inl rfl) m (by rw [hstart])
  rw [hend, hstart]
  exact hdivisor

/-- The PM timer moved, so time did. -/
theorem started_lt_after (h : clock.Sampled time frequency) (m : Measurement clock before) :
    time m.started < time m.after := by
  obtain ⟨hdivisor, henough, -⟩ := h.divisor_eq m
  by_contra hback
  have hfloor : ⌊3579545 * time m.after⌋ ≤ ⌊3579545 * time m.started⌋ :=
    Int.floor_le_floor (mul_le_mul_of_nonneg_left (not_lt.1 hback) (by norm_num))
  omega

/-- The measurement takes less than five seconds. -/
theorem after_lt (h : clock.Sampled time frequency) (m : Measurement clock before) :
    time m.after - time m.started < 5 := by
  obtain ⟨hdivisor, -, hbound⟩ := h.divisor_eq m
  have hticks : (m.divisor : ℚ) < 2 ^ 24 := by exact_mod_cast hbound
  have hwhole := abs_floor_sub_floor (3579545 * time m.started) (3579545 * time m.after)
  rw [← hdivisor, Int.cast_natCast, ← mul_sub, abs_lt] at hwhole
  linarith [hwhole.1]

/-- The ticks of the TSC fit its reading, so their difference is the true one. -/
theorem toNat_tscTicks (h : clock.Sampled time frequency) (hpos : 0 < frequency)
    (hlt : frequency < 2 ^ 60) (m : Measurement clock before) :
    ((m.endTsc - m.startTsc).toNat : ℤ) =
      ⌊frequency * time m.after⌋ - ⌊frequency * time m.started⌋ := by
  have hmoved := h.started_lt_after m
  have hfloor : ⌊frequency * time m.started⌋ ≤ ⌊frequency * time m.after⌋ :=
    Int.floor_le_floor (mul_le_mul_of_nonneg_left hmoved.le hpos.le)
  obtain ⟨ticks, hticks⟩ := Int.le.dest hfloor
  have hwhole := abs_floor_sub_floor (frequency * time m.started) (frequency * time m.after)
  have htotal : frequency * (time m.after - time m.started) < 2 ^ 60 * 5 :=
    mul_lt_mul'' hlt (h.after_lt m) hpos.le (by linarith)
  have hfits : (ticks : ℚ) < 2 ^ 64 := by
    rw [← hticks, add_sub_cancel_left, Int.cast_natCast, ← mul_sub, abs_lt] at hwhole
    linarith [hwhole.2]
  rw [h.tsc_shown m.reads_end, h.tsc_shown m.reads_start, ← hticks, toNat_ofInt_sub]
  · omega
  · exact_mod_cast hfits

end Clock.Sampled

/-- Whatever a measurement on a sampled clock answers is close to the frequency of its
TSC: it is off by no more than one part in 178977, and by 22. -/
theorem frequency_error (hsampled : clock.Sampled time frequency) (hpos : 0 < frequency)
    (hlt : frequency < 2 ^ 60) {limit : ℕ} {before after : κ} {answer : UInt64}
    (h : measureFrequency clock limit before = some (answer, after)) :
    |(answer.toNat : ℚ) - frequency| ≤ frequency / 178977 + 22 := by
  obtain ⟨m, rfl, -⟩ := Measurement.exists_measurement h
  obtain ⟨hdivisor, henough, -⟩ := hsampled.divisor_eq m
  have hpm := abs_floor_sub_floor (3579545 * time m.started) (3579545 * time m.after)
  have htsc := abs_floor_sub_floor (frequency * time m.started) (frequency * time m.after)
  rw [← hdivisor, Int.cast_natCast, ← mul_sub] at hpm
  rw [← hsampled.toNat_tscTicks hpos hlt m, Int.cast_natCast, ← mul_sub] at htsc
  have herror := quotient_error hpos henough hpm htsc
  have hfits : (m.endTsc - m.startTsc).toNat * pmTimerFrequency / m.divisor < 2 ^ 64 := by
    have hanswer : (((m.endTsc - m.startTsc).toNat * 3579545 / m.divisor : ℕ) : ℚ) < 2 ^ 64 := by
      linarith [(abs_le.1 herror).2]
    exact_mod_cast hanswer
  rw [Measurement.frequency, toNat_frequencyOf hfits]
  exact herror

/-! ## Clocks with listed times -/

/-- The clock whose PM timer is read for the `n`-th time at a given time.  Its state is
the number of these readings. -/
def sampledClock (time : ℕ → ℚ) (frequency : ℚ) : Clock ℕ where
  readPmTimer reads :=
    some (UInt32.ofInt (⌊3579545 * time (reads + 1)⌋ % 2 ^ 24), reads + 1)
  readTsc reads := some (UInt64.ofInt ⌊frequency * time reads⌋, reads)

/-- Four seconds between two readings are not too many. -/
theorem sampled_sampledClock {time : ℕ → ℚ} (hordered : ∀ reads, time reads ≤ time (reads + 1))
    (hclose : ∀ reads, time (reads + 1) - time reads < 4) (frequency : ℚ) :
    (sampledClock time frequency).Sampled time frequency := by
  have hnext : ∀ {reads next}, (sampledClock time frequency).NextPm reads next →
      next = reads + 1 := fun h =>
    h.eq_succ (fun hread => (congrArg Prod.snd (Option.some.inj hread)).symm)
      (fun hread => (congrArg Prod.snd (Option.some.inj hread)).symm)
  refine ⟨?_, ?_, ?_, ?_, ?_⟩
  · intro reads next reading hread
    cases hread
    rfl
  · intro reads next reading hread
    cases hread
    rfl
  · intro reads next reading _ hread
    cases hread
    rfl
  · intro reads next _ h
    rw [hnext h]
    exact hordered reads
  · intro reads next _ h
    rw [hnext h]
    have hwhole := abs_floor_sub_floor (3579545 * time reads) (3579545 * time (reads + 1))
    rw [← mul_sub, abs_lt] at hwhole
    have hticks : ((⌊3579545 * time (reads + 1)⌋ - ⌊3579545 * time reads⌋ : ℤ) : ℚ) <
        2 ^ 24 - 178977 := by
      linarith [hwhole.2, hclose reads]
    have hticks : ⌊3579545 * time (reads + 1)⌋ - ⌊3579545 * time reads⌋ < 2 ^ 24 - 178977 := by
      exact_mod_cast hticks
    omega

/-- Readings a tenth of a second apart.  The PM timer wraps in front of the third. -/
def tenths (reads : ℕ) : ℚ :=
  22 / 5 + reads / 10

theorem frequency_error_wrapping :
    (sampledClock tenths (10 ^ 9 + 1 / 7)).Sampled tenths (10 ^ 9 + 1 / 7) ∧
    (0 : ℚ) < 10 ^ 9 + 1 / 7 ∧ (10 ^ 9 + 1 / 7 : ℚ) < 2 ^ 60 ∧
    measureFrequency (sampledClock tenths (10 ^ 9 + 1 / 7)) 3 0 = some (1000001396, 3) ∧
    |((1000001396 : UInt64).toNat : ℚ) - (10 ^ 9 + 1 / 7)| ≤ (10 ^ 9 + 1 / 7) / 178977 + 22 := by
  have hstep : ∀ reads, tenths (reads + 1) - tenths reads = 1 / 10 := by
    intro reads
    rw [tenths, tenths]
    push_cast
    ring
  have hsampled : (sampledClock tenths (10 ^ 9 + 1 / 7)).Sampled tenths (10 ^ 9 + 1 / 7) :=
    sampled_sampledClock (fun reads => by linarith [hstep reads])
      (fun reads => by linarith [hstep reads]) _
  have hpos : (0 : ℚ) < 10 ^ 9 + 1 / 7 := by norm_num
  have hlt : (10 ^ 9 + 1 / 7 : ℚ) < 2 ^ 60 := by norm_num
  have hanswer : measureFrequency (sampledClock tenths (10 ^ 9 + 1 / 7)) 3 0 =
      some (1000001396, 3) := by decide +kernel
  exact ⟨hsampled, hpos, hlt, hanswer, frequency_error hsampled hpos hlt hanswer⟩

end GuestFirmware.Timer
