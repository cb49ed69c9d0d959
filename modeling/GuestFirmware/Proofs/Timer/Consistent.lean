import GuestFirmware.Proofs.Timer.Fields
import GuestFirmware.Proofs.Timer.Visits

/-!
# The timer agrees with its hardware

The timer has its period in one place, the mask of its interrupt in another and
its deadline in a third.  `Consistent` says that the three agree whenever a call
is entered or has ended, and that of the rest of the APIC nothing changes after
it was enabled.

There are three groups.

* Enabling the APIC: `enabled_of_ok` says what it leaves in the registers.
* The two parts of the invariant.  `Kept` is about the registers and `Armed` about
  the deadline, and each is kept by every opening of a call.
* `consistent_runCalls` is the result for runs with handlers that call the timer.
-/

namespace GuestFirmware.Timer

open PlatformM

/-! ## Enabling the APIC -/

/-- A timer that was just made, on an APIC in any state.  No deadline was written
through it yet. -/
def fresh (services : Services) (apic : LocalApic) : TimerPlatform where
  services := services
  device := { apic := { apic with deadline := none } }

/-- What enabling the APIC leaves in a new timer. -/
structure Enabled (config : TimerConfig) (apic : LocalApic) (timer : ApicTimer) : Prop where
  lvt : timer.apic.registers lvtTimer =
    LvtTimer.configure (apic.registers lvtTimer) config.vector
  spurious : timer.apic.registers spuriousVector =
    if SpuriousVector.isEnabled (apic.registers spuriousVector) then
      apic.registers spuriousVector
    else SpuriousVector.enable (apic.registers spuriousVector)
  others : ∀ register, register ≠ lvtTimer → register ≠ spuriousVector →
    timer.apic.registers register = apic.registers register
  deadline : timer.apic.deadline = none
  period : timer.period = 0
  handler : timer.handler = none

theorem lvtTimer_ne_spuriousVector : lvtTimer ≠ spuriousVector := by decide

theorem enabled_of_ok {config : TimerConfig} {services : Services} {apic : LocalApic}
    (henabled : ((enable config).run (fresh services apic)).1 = .ok ()) :
    Enabled config apic ((enable config).run (fresh services apic)).2.device := by
  have hget : (get : TimerM TimerPlatform).run (fresh services apic) =
      (fresh services apic, fresh services apic) := rfl
  have hmode : (fresh services apic).device.apic.hasDeadlineMode = apic.hasDeadlineMode := rfl
  have hspurious : (readRegister spuriousVector).run (fresh services apic) =
      (apic.registers spuriousVector, fresh services apic) := rfl
  cases hoffered : apic.hasDeadlineMode with
  | false =>
    simp only [enable, run_bind, hget, hmode, hoffered, Bool.false_eq_true, ↓reduceIte] at henabled
    cases henabled
  | true =>
    cases hon : SpuriousVector.isEnabled (apic.registers spuriousVector) with
    | true =>
      simp only [enable, run_bind, hget, hmode, hspurious, hoffered, hon, Bool.not_true,
        Bool.false_eq_true, ↓reduceIte]
      refine ⟨?_, ?_, ?_, rfl, rfl, rfl⟩
      · exact LocalApic.registers_write_self _ _ _
      · rw [if_pos hon]
        exact LocalApic.registers_write_of_ne _ _ lvtTimer_ne_spuriousVector.symm
      · intro register hlvt _
        exact LocalApic.registers_write_of_ne _ _ hlvt
    | false =>
      simp only [enable, run_bind, hget, hmode, hspurious, hoffered, hon, Bool.not_false,
        ↓reduceIte]
      refine ⟨?_, ?_, ?_, rfl, rfl, rfl⟩
      · exact LocalApic.registers_write_self _ _ _
      · rw [if_neg (by simp [hon])]
        refine (LocalApic.registers_write_of_ne _ _ lvtTimer_ne_spuriousVector.symm).trans ?_
        exact LocalApic.registers_write_self _ _ _
      · intro register hlvt hspurious
        refine (LocalApic.registers_write_of_ne _ _ hlvt).trans ?_
        exact LocalApic.registers_write_of_ne _ _ hspurious

/-! ## What every call keeps -/

variable {config : TimerConfig} {enabled : LocalApic} {timer begun : ApicTimer} {made : TimerCall}
  {own : List (Event TimerEvent)} {answer : Except Status Unit}
  {target : Option (Handler × UInt64)}

/-- The registers are those that enabling the APIC left, with the timer masked
exactly when there is no period. -/
structure Kept (enabled : LocalApic) (timer : ApicTimer) : Prop where
  lvt : timer.apic.registers lvtTimer =
    LvtTimer.setMasked (enabled.registers lvtTimer) (timer.period == 0)
  spurious : timer.apic.registers spuriousVector = enabled.registers spuriousVector

/-- The deadline is zero exactly when there is no period. -/
def Armed (timer : ApicTimer) : Prop :=
  ∀ deadline, timer.apic.deadline = some deadline → (deadline = 0 ↔ timer.period = 0)

theorem Kept.isMasked_iff (h : Kept enabled timer) :
    LvtTimer.isMasked (timer.apic.registers lvtTimer) = true ↔ timer.period = 0 := by
  rw [h.lvt, LvtTimer.isMasked_setMasked, beq_iff_eq]

theorem registers_ending {register : UInt32} (h : register ≠ endOfInterrupt) (timer : ApicTimer) :
    timer.ending.apic.registers register = timer.apic.registers register :=
  LocalApic.registers_write_of_ne _ _ h

theorem registers_masking_of_ne {register : UInt32} (h : register ≠ lvtTimer) (masked : Bool)
    (timer : ApicTimer) :
    (timer.masking masked).apic.registers register = timer.apic.registers register :=
  LocalApic.registers_write_of_ne _ _ h

theorem kept_opening (h : Opening config timer made own answer target begun)
    (hkept : Kept enabled timer) : Kept enabled begun := by
  have hlvt : lvtTimer ≠ endOfInterrupt := by decide
  have hspurious : spuriousVector ≠ endOfInterrupt := by decide
  have hother : spuriousVector ≠ lvtTimer := lvtTimer_ne_spuriousVector.symm
  cases h with
  | registered hfits => exact ⟨hkept.lvt, hkept.spurious⟩
  | occupied hoccupied => exact hkept
  | vacant hvacant => exact hkept
  | disarmed =>
    refine ⟨?_, ?_⟩
    · show (timer.masking true).apic.registers lvtTimer = _
      rw [registers_masking, hkept.lvt, LvtTimer.setMasked_setMasked]
      rfl
    · exact (registers_masking_of_ne hother true timer).trans hkept.spurious
  | @programmed period next hperiod hnext =>
    let disarmed := ((timer.masking true).arming 0).reading
    refine ⟨?_, ?_⟩
    · show (disarmed.masking false).apic.registers lvtTimer =
        LvtTimer.setMasked (enabled.registers lvtTimer) (period == 0)
      have hmasked : disarmed.apic.registers lvtTimer =
          (timer.masking true).apic.registers lvtTimer := rfl
      rw [registers_masking, hmasked, registers_masking, hkept.lvt, LvtTimer.setMasked_setMasked,
        LvtTimer.setMasked_setMasked, beq_eq_false_iff_ne.mpr hperiod]
    · refine (registers_masking_of_ne hother false disarmed).trans ?_
      exact (registers_masking_of_ne hother true timer).trans hkept.spurious
  | unsupported hmasked => exact hkept
  | simulated hunmasked => exact hkept
  | idleTick hperiod =>
    exact ⟨(registers_ending hlvt timer).trans hkept.lvt,
      (registers_ending hspurious timer).trans hkept.spurious⟩
  | tick hperiod hnext =>
    exact ⟨(registers_ending hlvt timer).trans hkept.lvt,
      (registers_ending hspurious timer).trans hkept.spurious⟩

/-- A counter that runs at ten million ticks in a second or more moves on in
every period, so that no deadline is zero. -/
theorem deadline_ne_zero {period : UInt64} (hfrequency : unitsPerSecond ≤ config.frequency.toNat)
    (hperiod : period ≠ 0) (reading : UInt64) : deadline config.frequency period reading ≠ 0 := by
  intro hzero
  have hpositive : 0 < period.toNat := by
    apply Nat.pos_of_ne_zero
    intro hnat
    exact hperiod (UInt64.toNat_inj.mp hnat)
  have hticks : 1 ≤ config.frequency.toNat * period.toNat / unitsPerSecond :=
    one_le_ticksIn (Nat.le_trans hfrequency (Nat.le_mul_of_pos_right _ hpositive))
  have hnat := toNat_deadline config.frequency period reading
  have hlast : lastWord = 2 ^ 64 - 1 := rfl
  rw [hzero] at hnat
  have hleft : (0 : UInt64).toNat = 0 := rfl
  omega

theorem armed_opening (hfrequency : unitsPerSecond ≤ config.frequency.toNat)
    (h : Opening config timer made own answer target begun) (harmed : Armed timer) :
    Armed begun := by
  cases h with
  | registered hfits => exact harmed
  | occupied hoccupied => exact harmed
  | vacant hvacant => exact harmed
  | disarmed =>
    rintro deadline ⟨⟩
    exact iff_of_true rfl rfl
  | programmed hperiod hnext =>
    rintro deadline ⟨⟩
    exact iff_of_false (hnext ▸ deadline_ne_zero hfrequency hperiod _) hperiod
  | unsupported hmasked => exact harmed
  | simulated hunmasked => exact harmed
  | idleTick hperiod =>
    rintro deadline ⟨⟩
    exact iff_of_true rfl hperiod
  | tick hperiod hnext =>
    rintro deadline ⟨⟩
    exact iff_of_false (hnext ▸ deadline_ne_zero hfrequency hperiod _) hperiod

/-! ## Runs -/

/-- The timer agrees with its hardware: `mask` and `deadline` say that it is on
exactly while there is a period, the other fields that the rest of the APIC is
as enabling left it. -/
structure Consistent (config : TimerConfig) (enabled : LocalApic) (timer : ApicTimer) : Prop where
  mask : LvtTimer.isMasked (timer.apic.registers lvtTimer) = true ↔ timer.period = 0
  deadline : ∀ deadline, timer.apic.deadline = some deadline → (deadline = 0 ↔ timer.period = 0)
  vector : LvtTimer.vector.get (timer.apic.registers lvtTimer) = config.vector.toUInt32
  mode : LvtTimer.mode.get (timer.apic.registers lvtTimer) = deadlineMode
  others : ∀ index, ¬ LvtTimer.mask.Has index →
    (timer.apic.registers lvtTimer).toNat.testBit index =
      (enabled.registers lvtTimer).toNat.testBit index
  spurious : timer.apic.registers spuriousVector = enabled.registers spuriousVector

/-- What enabling an APIC changes: fields of two registers. -/
structure OnlyEnabled (original enabled : LocalApic) : Prop where
  lvt : ∀ index, ¬ LvtTimer.vector.Has index → ¬ LvtTimer.mode.Has index →
    ¬ LvtTimer.mask.Has index →
      (enabled.registers lvtTimer).toNat.testBit index =
        (original.registers lvtTimer).toNat.testBit index
  spurious : ∀ index, ¬ SpuriousVector.softwareEnable.Has index →
    (enabled.registers spuriousVector).toNat.testBit index =
      (original.registers spuriousVector).toNat.testBit index
  others : ∀ register, register ≠ lvtTimer → register ≠ spuriousVector →
    enabled.registers register = original.registers register

namespace Enabled

variable {apic : LocalApic} {first : ApicTimer}

theorem onlyEnabled (h : Enabled config apic first) : OnlyEnabled apic first.apic where
  lvt := by
    intro index hvector hmode hmask
    rw [h.lvt, LvtTimer.testBit_configure hvector hmode hmask]
  spurious := by
    intro index hindex
    rw [h.spurious]
    split
    · rfl
    · rw [SpuriousVector.enable, BitField.setFlag, BitField.testBit_set, if_neg hindex]
  others := h.others

theorem kept (h : Enabled config apic first) : Kept first.apic first where
  lvt := by
    have hmasked : LvtTimer.isMasked (first.apic.registers lvtTimer) = true := by
      rw [h.lvt, LvtTimer.isMasked_configure]
    have hset := LvtTimer.setMasked_isMasked (first.apic.registers lvtTimer)
    rw [hmasked] at hset
    rw [h.period]
    exact hset.symm
  spurious := rfl

theorem armed (h : Enabled config apic first) : Armed first := by
  intro deadline hdeadline
  rw [h.deadline] at hdeadline
  cases hdeadline

theorem consistent (h : Enabled config apic first) (hkept : Kept first.apic timer)
    (harmed : Armed timer) : Consistent config first.apic timer where
  mask := hkept.isMasked_iff
  deadline := harmed
  vector := by rw [hkept.lvt, LvtTimer.vector_setMasked, h.lvt, LvtTimer.vector_configure]
  mode := by rw [hkept.lvt, LvtTimer.mode_setMasked, h.lvt, LvtTimer.mode_configure]
  others := by
    intro index hindex
    rw [hkept.lvt, LvtTimer.testBit_setMasked hindex]
  spurious := hkept.spurious

end Enabled

/-- For a counter of ten million ticks in a second or more, a new timer that was
enabled agrees with its hardware after all calls, and whenever one is entered,
with handlers of any behaviour that call the timer to any depth.  Its period is
the one that was stored last. -/
theorem consistent_runCalls {config : TimerConfig} {services : Services} {apic : LocalApic}
    (hfrequency : unitsPerSecond ≤ config.frequency.toNat)
    (henabled : ((enable config).run (fresh services apic)).1 = .ok ())
    (behaviour : Behaviour) (depth : Nat) (calls : List TimerCall) :
    let first := ((enable config).run (fresh services apic)).2
    let ran := (runCalls config (deliverUpTo config behaviour depth) calls).run first
    OnlyEnabled apic first.device.apic ∧
      ∃ events visits,
        Follows config first ran.2 events visits ∧ Answered calls ran.1 visits ∧
        Consistent config first.device.apic ran.2.device ∧
        (∀ visit ∈ visits, Consistent config first.device.apic visit.entered) ∧
        (deviceEvents events).filterMap TimerEvent.stored = visits.filterMap Visit.setting ∧
        ran.2.device.period = lastPeriod visits := by
  intro first ran
  have hfirst : Enabled config apic first.device := enabled_of_ok henabled
  obtain ⟨events, visits, hfollows, hanswered⟩ :=
    follows_runCalls (delivers_deliverUpTo config behaviour depth) calls first
  obtain ⟨hkept, hkeptAt⟩ := hfollows.ran.invariant kept_opening hfirst.kept
  obtain ⟨harmed, harmedAt⟩ :=
    hfollows.ran.invariant (armed_opening hfrequency) hfirst.armed
  refine ⟨hfirst.onlyEnabled, events, visits, hfollows, hanswered,
    hfirst.consistent hkept harmed, ?_, stored_visits hfollows.ran,
    (period_visits hfollows.ran hfirst.period).1⟩
  intro visit hvisit
  exact hfirst.consistent (hkeptAt visit hvisit) (harmedAt visit hvisit)

/-- An APIC whose timer is masked, under a counter that moves on. -/
def maskedApic : LocalApic where
  registers := fun register =>
    if register = spuriousVector then 0xFF else if register = lvtTimer then 0x10000 else 0
  tscAt := LocalApic.steadyTsc 1000 500

def twoGigahertz : TimerConfig where
  vector := 64
  frequency := 2000000000

/-- Every handler doubles the period. -/
def doubling : Behaviour :=
  fun _ period _ => .calling (.setPeriod (2 * period))

theorem consistent_runCalls_doubling :
    unitsPerSecond ≤ twoGigahertz.frequency.toNat ∧
      ((enable twoGigahertz).run (fresh {} maskedApic)).1 = .ok () ∧
      let first := ((enable twoGigahertz).run (fresh {} maskedApic)).2
      let ran := (runCalls twoGigahertz (deliverUpTo twoGigahertz doubling 2)
        [.register (some 7), .setPeriod 250, .tick, .softInterrupt]).run first
      ran.2.device.period = 1000 ∧ Consistent twoGigahertz first.device.apic ran.2.device := by
  have hfrequency : unitsPerSecond ≤ twoGigahertz.frequency.toNat := by decide
  have henabled : ((enable twoGigahertz).run (fresh {} maskedApic)).1 = .ok () := by rfl
  obtain ⟨-, _, _, -, -, hconsistent, -⟩ :=
    consistent_runCalls hfrequency henabled doubling 2
      [.register (some 7), .setPeriod 250, .tick, .softInterrupt]
  exact ⟨hfrequency, henabled, by decide +kernel, hconsistent⟩

end GuestFirmware.Timer
