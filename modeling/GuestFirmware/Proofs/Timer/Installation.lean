import GuestFirmware.Proofs.Platform.Log
import GuestFirmware.Proofs.Timer.Consistent
import GuestFirmware.Timer.Protocol

/-!
# Installing the timer

`installTimer` looks for two protocols, hooks the interrupt, makes the timer active
and starts it, and installs its protocol last.  Each of these steps can be refused,
except for those that act on the timer.

`run_of_hookable` and `run_of_not_hookable` say how the steps in front of the timer
go.  A refusal there leaves the timer as it was.  A refusal of the protocol comes too
late: the timer is active and runs, and there is no protocol to stop it.
`installTimer_asBefore_iff` says both, and `installTimer_running` is a run in which the
protocol is refused.
-/

namespace GuestFirmware.Timer

open PlatformM

/-! ## Setting the period -/

/-- The timer after its period was set. -/
def ApicTimer.programmed (config : TimerConfig) (period : UInt64) (timer : ApicTimer) :
    ApicTimer :=
  if period = 0 then ((timer.masking true).arming 0).storing 0
  else
    ((((timer.masking true).arming 0).reading.masking false).arming
      (deadline config.frequency period timer.nextReading)).storing period

theorem run_setPeriod (config : TimerConfig) (period : UInt64) (before : TimerPlatform) :
    ((setPeriod config period).run before).2.device = before.device.programmed config period ∧
      ((setPeriod config period).run before).2.services = before.services := by
  obtain ⟨own, answer, target, timer, hopening, hrun⟩ :=
    opened_setPeriod config (fun _ _ => return ()) before period
  have hafter : ((setPeriod config period).run before).2 =
      finished (fun _ _ => return ()) before own timer target := congrArg Prod.snd hrun
  rw [hafter]
  cases hopening with
  | disarmed => exact ⟨(if_pos rfl).symm, rfl⟩
  | programmed hperiod hnext =>
    subst hnext
    exact ⟨(if_neg hperiod).symm, rfl⟩

variable (config : TimerConfig) (vector : UInt8) (period : UInt64) (timer : ApicTimer)

theorem ApicTimer.active_programmed : (timer.programmed config period).active = timer.active := by
  unfold programmed
  split <;> rfl

theorem ApicTimer.period_programmed : (timer.programmed config period).period = period := by
  unfold programmed
  split
  · next hperiod => exact hperiod.symm
  · rfl

theorem ApicTimer.deadline_programmed :
    (timer.programmed config period).apic.deadline =
      some (if period = 0 then 0 else deadline config.frequency period timer.nextReading) := by
  unfold programmed
  split <;> rfl

theorem ApicTimer.isMasked_programmed :
    LvtTimer.isMasked ((timer.programmed config period).apic.registers lvtTimer) = true ↔
      period = 0 := by
  unfold programmed
  split
  · next hperiod =>
    refine iff_of_true ?_ hperiod
    show LvtTimer.isMasked ((timer.masking true).apic.registers lvtTimer) = true
    rw [registers_masking, LvtTimer.isMasked_setMasked]
  · next hperiod =>
    refine iff_of_false ?_ hperiod
    show ¬ LvtTimer.isMasked ((((timer.masking true).arming 0).reading.masking
      false).apic.registers lvtTimer) = true
    rw [registers_masking, LvtTimer.isMasked_setMasked]
    exact Bool.false_ne_true

/-! ## The steps in front of the timer -/

/-- There is no timer yet, there is a processor, and it takes the handler of the
interrupt. -/
structure Hookable (platform : TimerPlatform) : Prop where
  noTimer : (platform.services.located .timerArch).status.isError = true
  processor : (platform.services.located .cpuArch).answer = .ok true
  taken : platform.device.hookAnswer.isError = false

variable (platform : TimerPlatform)

/-- The platform after both protocols were looked for. -/
def searched : TimerPlatform :=
  afterCall (Services.locateProtocol .cpuArch)
    (afterCall (Services.locateProtocol .timerArch) platform)

/-- The platform after the processor was asked to take the handler. -/
def asked : TimerPlatform :=
  { searched platform with
    trace := (searched platform).trace ++
      [.device (.interruptHooked vector platform.device.hookAnswer)] }

/-- The platform after the timer was made active. -/
def activated : TimerPlatform :=
  { asked vector platform with
    services := platform.services.makeInterface.2
    device := { platform.device with active := some platform.services.nextInterface } }

variable {platform}

theorem isError_of_answer {located : Located} {status : Status}
    (h : located.answer = .error status) : located.status.isError = true := by
  cases hstatus : located.status.isError with
  | true => rfl
  | false =>
    rw [Located.answer, Status.guard_of_success hstatus] at h
    cases h

/-- A refusal in front of the timer leaves the timer alone. -/
theorem run_of_not_hookable (h : ¬ Hookable platform) :
    ∃ status, ((installTimer config vector period).run platform).1 = .error status ∧
      ((installTimer config vector period).run platform).2.device = platform.device ∧
      ((installTimer config vector period).run platform).2.services = platform.services := by
  unfold installTimer
  simp only [run_bind, run_call, Services.locateProtocol]
  cases htimer : (platform.services.located .timerArch).answer with
  | ok present => exact ⟨_, rfl, rfl, rfl⟩
  | error missing =>
    have hprocessor :
        (afterCall (Services.locateProtocol .timerArch) platform).services.located .cpuArch =
          platform.services.located .cpuArch := rfl
    simp only [run_bind, run_call, Services.locateProtocol, hprocessor]
    cases hcpu : (platform.services.located .cpuArch).answer with
    | error status => exact ⟨_, rfl, rfl, rfl⟩
    | ok present =>
      cases present with
      | false => exact ⟨_, rfl, rfl, rfl⟩
      | true =>
        have hasked : (hookInterrupt vector).run (searched platform) =
            (platform.device.hookAnswer, asked vector platform) := rfl
        have hrefused : platform.device.hookAnswer.isError = true :=
          Bool.not_eq_false _ ▸ fun htaken => h ⟨isError_of_answer htimer, hcpu, htaken⟩
        rw [← searched]
        simp only [run_bind, hasked, hrefused, ↓reduceIte]
        exact ⟨_, rfl, rfl, rfl⟩

/-- The steps in front of the timer go well, and only the protocol is left to be
installed. -/
theorem run_of_hookable (h : Hookable platform) :
    (installTimer config vector period).run platform =
      (call (Services.install 0 .timerArch platform.services.nextInterface)).run
        ((setPeriod config period).run (activated vector platform)).2 := by
  have htimer : (platform.services.located .timerArch).answer = .error _ :=
    Status.guard_of_error h.noTimer _
  have hprocessor :
      ((afterCall (Services.locateProtocol .timerArch) platform).services.located .cpuArch).answer =
        .ok true := h.processor
  have hasked : (hookInterrupt vector).run (searched platform) =
      (platform.device.hookAnswer, asked vector platform) := rfl
  have htaken := h.taken
  unfold installTimer
  simp only [run_bind, run_call, Services.locateProtocol, htimer, hprocessor]
  rw [← searched]
  simp only [hasked, htaken, Bool.false_eq_true, ↓reduceIte]
  rfl

/-! ## Failures -/

/-- The interrupt has the same target, and the timer has the same period, is masked
as before, and has the same deadline. -/
structure AsBefore (before after : ApicTimer) : Prop where
  active : after.active = before.active
  period : after.period = before.period
  masked : LvtTimer.isMasked (after.apic.registers lvtTimer) =
    LvtTimer.isMasked (before.apic.registers lvtTimer)
  deadline : after.apic.deadline = before.apic.deadline

theorem device_of_hookable (h : Hookable platform) :
    ((installTimer config vector period).run platform).2.device =
      ApicTimer.programmed config period
        { platform.device with active := some platform.services.nextInterface } := by
  rw [run_of_hookable config vector period h]
  exact (run_setPeriod config period (activated vector platform)).1

/-- The protocol is installed, or the refusal of the boot services is the answer. -/
theorem installed_of_hookable (h : Hookable platform) :
    let ran := (installTimer config vector period).run platform
    let reply := Services.nextAnswer platform.services.installs
    (reply.isError = true →
      ran.1 = .error reply ∧ ran.2.services.installed = platform.services.installed) ∧
    (reply.isError = false → ∃ handle, ran.1 = .ok handle ∧ ran.2.services.installed =
      platform.services.installed ++ [⟨handle, .timerArch, platform.services.nextInterface⟩]) := by
  intro ran reply
  let before := ((setPeriod config period).run (activated vector platform)).2
  have hrun : ran = (call (Services.install 0 .timerArch platform.services.nextInterface)).run
      before := run_of_hookable config vector period h
  have hservices : before.services = platform.services.makeInterface.2 :=
    (run_setPeriod config period (activated vector platform)).2
  have hreply : Services.nextAnswer before.services.installs = reply := by rw [hservices]; rfl
  have hinstalled : before.services.installed = platform.services.installed := by
    rw [hservices]
    rfl
  rw [hrun, run_call]
  refine ⟨fun hrefused => ?_, fun htaken => ?_⟩
  · obtain ⟨hanswer, hlogged⟩ := install_of_error 0 .timerArch platform.services.nextInterface
      (hreply ▸ hrefused)
    refine ⟨hanswer.trans (congrArg _ hreply), hlogged.installed.trans ?_⟩
    simp [Event.installedAfter, hreply, hrefused, hinstalled]
  · obtain ⟨handle, -, hanswer, hlogged⟩ := install_of_success 0 .timerArch
      platform.services.nextInterface (hreply ▸ htaken)
    refine ⟨handle, hanswer, hlogged.installed.trans ?_⟩
    simp [Event.installedAfter, hreply, htaken, hinstalled]

/-- An installation that fails leaves the timer as it was, unless the protocol is
what was refused.  Then the timer is active and runs with its period, and no
protocol was installed for it. -/
theorem installTimer_asBefore_iff (config : TimerConfig) (vector : UInt8) (period : UInt64)
    (platform : TimerPlatform) :
    let ran := (installTimer config vector period).run platform
    let left := ran.2.device
    let interface := platform.services.nextInterface
    let refused := (Services.nextAnswer platform.services.installs).isError = true
    ((∃ status, ran.1 = .error status) ↔ ¬ Hookable platform ∨ refused) ∧
    (¬ Hookable platform → left = platform.device ∧ ran.2.services = platform.services) ∧
    (Hookable platform →
      left.active = some interface ∧ left.period = period ∧
      (LvtTimer.isMasked (left.apic.registers lvtTimer) = true ↔ period = 0) ∧
      left.apic.deadline = some (if period = 0 then 0
        else deadline config.frequency period platform.device.nextReading)) ∧
    (Hookable platform → refused →
      ran.2.services.installed = platform.services.installed) ∧
    (platform.device.active ≠ some interface →
      ((∀ status, ran.1 = .error status → AsBefore platform.device left) ↔
        ¬ (Hookable platform ∧ refused))) := by
  intro ran left interface refused
  by_cases hhookable : Hookable platform
  · have hleft : left = _ := device_of_hookable config vector period hhookable
    obtain ⟨hfailed, hdone⟩ := installed_of_hookable config vector period hhookable
    have hanswer : (∃ status, ran.1 = .error status) ↔ refused := by
      refine ⟨fun ⟨status, hstatus⟩ => ?_, fun hrefused => ⟨_, (hfailed hrefused).1⟩⟩
      by_cases hrefused : refused
      · exact hrefused
      · obtain ⟨handle, hhandle, -⟩ := hdone (Bool.not_eq_true _ ▸ hrefused)
        rw [hstatus] at hhandle
        cases hhandle
    have hactive : left.active = some interface := by
      rw [hleft, ApicTimer.active_programmed]
    refine ⟨?_, fun h => absurd hhookable h, fun _ => ⟨hactive, ?_, ?_, ?_⟩, ?_, fun hfresh => ?_⟩
    · simp [hanswer, hhookable]
    · rw [hleft, ApicTimer.period_programmed]
    · rw [hleft, ApicTimer.isMasked_programmed]
    · rw [hleft, ApicTimer.deadline_programmed]
      rfl
    · exact fun _ hrefused => (hfailed hrefused).2
    · refine ⟨fun hkept ⟨_, hrefused⟩ => ?_, fun hnot status hstatus => ?_⟩
      · have hbefore := (hkept _ (hfailed hrefused).1).active
        exact hfresh (hbefore.symm.trans hactive)
      · exact absurd ⟨hhookable, hanswer.1 ⟨status, hstatus⟩⟩ hnot
  · obtain ⟨status, hstatus, hdevice, hservices⟩ :=
      run_of_not_hookable config vector period hhookable
    have hleft : left = platform.device := hdevice
    refine ⟨iff_of_true ⟨status, hstatus⟩ (.inl hhookable), fun _ => ⟨hdevice, hservices⟩,
      fun h => absurd h hhookable, fun h => absurd h hhookable, fun _ => ?_⟩
    refine iff_of_true (fun _ _ => ?_) fun h => hhookable h.1
    rw [hleft]
    exact ⟨rfl, rfl, rfl, rfl⟩

/-- There is a processor and no timer, and no protocol can be installed. -/
def refusing : Services where
  installs := [.outOfResources]
  located := fun protocol => if protocol = .timerArch then { status := .notFound } else {}

/-- The protocol is refused: the answer is the refusal, and the timer runs. -/
theorem installTimer_running :
    let before := ((enable twoGigahertz).run (fresh refusing maskedApic)).2
    let ran := (installTimer twoGigahertz 64 1000000).run before
    ran.1 = .error .outOfResources ∧
      LvtTimer.isMasked (before.device.apic.registers lvtTimer) = true ∧
      LvtTimer.isMasked (ran.2.device.apic.registers lvtTimer) = false ∧
      ¬ (∀ status, ran.1 = .error status → AsBefore before.device ran.2.device) := by
  intro before ran
  have hother : Guid.cpuArch ≠ .timerArch := by decide
  have hprocessor : refusing.located .cpuArch = {} := by simp [refusing, hother]
  have hhookable : Hookable before :=
    { noTimer := by decide +kernel
      processor := congrArg Located.answer hprocessor
      taken := by decide +kernel }
  have hreply : Services.nextAnswer before.services.installs = .outOfResources := by decide +kernel
  have hrefused : (Services.nextAnswer before.services.installs).isError = true := by
    rw [hreply]
    rfl
  obtain ⟨hfailed, -⟩ := installed_of_hookable twoGigahertz 64 1000000 hhookable
  have hanswer : ran.1 = .error .outOfResources := hreply ▸ (hfailed hrefused).1
  have hmasked : LvtTimer.isMasked (before.device.apic.registers lvtTimer) = true := by
    decide +kernel
  have hrunning : LvtTimer.isMasked (ran.2.device.apic.registers lvtTimer) = false := by
    decide +kernel
  refine ⟨hanswer, hmasked, hrunning, fun h => ?_⟩
  have hkept := (h _ hanswer).masked
  rw [hmasked, hrunning] at hkept
  cases hkept

end GuestFirmware.Timer
