import GuestFirmware.Proofs.Display.Runs

/-!
# What the display driver holds

A driver that is started on a controller has opened it once more than it closed
it, and has installed one output on it, which is still there.  On any other
controller the opens and the closes are even.  This holds after every run,
whatever the boot services and the device answer.

There are four groups.

* The events that count: opens, closes, installs, uninstalls and writes.
* The balance of opens and closes.  `openBalance_exit` is one call of it and
  `openBalance_after` is a run.
* The instance.  `held_exit` says where an instance comes from in one call, and
  `heldSince_after` finds the start in a run that made it.
* What single calls leave alone.  `Disciplined` lists it, and
  `disciplined_exit` goes through the exits.
-/

namespace GuestFirmware.Display

open PlatformM

variable {δ : Type}

/-! ## Events that count -/

/-- A successful open of the controller. -/
@[simp] def isOpenOf (controller : Handle) : Event DisplayEvent → Bool
  | .service (.openProtocol on protocol _ status) =>
    on == controller && protocol == .pciIo && !status.isError
  | _ => false

/-- A close of the controller, successful or not. -/
@[simp] def isCloseOf (controller : Handle) : Event DisplayEvent → Bool
  | .service (.closeProtocol on protocol _ _) => on == controller && protocol == .pciIo
  | _ => false

/-- A successful install of an output on the controller. -/
@[simp] def isInstallOn (controller : Handle) : Event DisplayEvent → Bool
  | .service (.install given protocol _ _ status) =>
    given == controller && protocol == .graphicsOutput && !status.isError
  | _ => false

/-- A successful uninstall of the output with an identity. -/
@[simp] def isUninstallOf (interface : Interface) : Event DisplayEvent → Bool
  | .service (.uninstall _ protocol taken _ status) =>
    taken == interface && protocol == .graphicsOutput && !status.isError
  | _ => false

/-- A write of a register. -/
@[simp] def isWrite : Event DisplayEvent → Bool
  | .device (.registerWrite ..) => true
  | _ => false

/-- The number of instances that a driver has on a controller. -/
def instancesOn (controller : Handle) (started : Option Started) : Nat :=
  if started.map Started.controller = some controller then 1 else 0

theorem startedOn_of_instancesOn {controller : Handle} {started : Option Started}
    (h : instancesOn controller started = 1) :
    started.map Started.controller = some controller := by
  unfold instancesOn at h
  split at h
  · assumption
  · cases h

theorem not_isWrite_of_isRead {access : DisplayEvent} (h : access.IsRead) :
    isWrite (.device access) = false := by
  cases access with
  | configRead offset status => rfl
  | registerRead offset status => rfl
  | registerWrite offset value status => exact h.elim
  | pixelsRead side start width => exact h.elim
  | pixelsWritten side start row => exact h.elim

section Exit

variable {driver : DisplayDriver} {interface next : Interface} {previous : Tpl}
  {made : BindingCall} {result : Except Status Unit} {events : List (Event DisplayEvent)}
  {held : Option Started}

/-! ## The balance of opens and closes -/

theorem countP_device (accesses : List DisplayEvent) (test : Event DisplayEvent → Bool)
    (htest : ∀ access, test (.device access) = false) :
    (accesses.map Event.device).countP test = 0 := by
  rw [List.countP_eq_zero]
  simp [htest]

theorem openBalance_exit (h : Exit driver interface previous made result events held next)
    (controller : Handle) :
    events.countP (isOpenOf controller) + instancesOn controller driver.started =
      events.countP (isCloseOf controller) + instancesOn controller held := by
  have hopens := fun accesses => countP_device accesses (isOpenOf controller) fun _ => rfl
  have hcloses := fun accesses => countP_device accesses (isCloseOf controller) fun _ => rfl
  cases h with
  | refused herror => simp [herror]
  | examined hopened hreads => simp [List.countP_cons, hopens, hcloses, hopened]
  | busy hstarted => simp [bracketed]
  | notOpened hidle herror => simp [bracketed, hidle, herror]
  | notInstalled hidle hopened herror =>
    simp [bracketed, List.countP_cons, hidle, hopened]
  | notBroughtUp hidle hopened hhandle hinstalled hreads =>
    simp [bracketed, List.countP_cons, hidle, hopened, hopens, hcloses]
  | started hidle hopened hhandle hinstalled hreads hmode hbase =>
    simp [bracketed, List.countP_cons, hidle, hopened, hopens, hcloses, instancesOn]
  | idle hother => simp [bracketed]
  | notWithdrawn hheld herror => simp [bracketed, hheld]
  | stopped hheld hwithdrawn => simp [bracketed, List.countP_cons, hheld, instancesOn]

/-! ## The instance -/

/-- The events install the output of an instance on its controller and do not
uninstall it again. -/
def InstalledIn (events : List (Event DisplayEvent)) (shown : Started) : Prop :=
  ∃ front handle status rest,
    events = front ++ published shown.controller shown.interface handle status :: rest ∧
    status.isError = false ∧ (shown.controller ≠ 0 → handle = shown.controller) ∧
    ∀ event ∈ rest, isUninstallOf shown.interface event = false

/-- A driver that holds an instance after a call held it before, or the call is
the start that made it. -/
theorem held_exit (h : Exit driver interface previous made result events held next)
    {shown : Started} (hheld : held = some shown) :
    (driver.started = some shown ∧
      ∀ event ∈ events, isUninstallOf shown.interface event = false) ∨
    (driver.started = none ∧ made = .start shown.controller ∧ shown.output.mode = 0 ∧
      shown.output.frameBufferBase ≠ 0 ∧ InstalledIn events shown) := by
  cases h with
  | refused herror =>
    refine .inl ⟨hheld, ?_⟩
    simp
  | examined hopened hreads =>
    refine .inl ⟨hheld, ?_⟩
    simp [or_imp, forall_and]
  | busy hstarted =>
    refine .inl ⟨hheld, ?_⟩
    simp [bracketed]
  | notOpened hidle herror => cases hheld
  | notInstalled hidle hopened herror => cases hheld
  | notBroughtUp hidle hopened hhandle hinstalled hreads => cases hheld
  | @started controller opening handle installing asking reads output hidle hopened hhandle
      hinstalled hreads hmode hbase =>
    cases hheld
    refine .inr ⟨hidle, rfl, hmode, hbase, ?_⟩
    refine ⟨[.service (.raiseTpl .callback previous), .acquire .startedDisplay,
      opened driver.agent controller opening], handle, installing,
      asked asking reads ++ [.release .startedDisplay, .service (.restoreTpl previous)],
      ?_, hinstalled, hhandle, ?_⟩
    · simp [bracketed]
    · simp [or_imp, forall_and]
  | idle hother =>
    refine .inl ⟨hheld, ?_⟩
    simp [bracketed]
  | notWithdrawn hstarted herror =>
    cases hheld
    refine .inl ⟨hstarted, ?_⟩
    simp [bracketed, herror]
  | stopped hstarted hwithdrawn => cases hheld

/-! ## What single calls leave alone -/

/-- The events write one register.  They ask the host for a frame buffer, after
the controller was opened and an output installed on it. -/
def AsksOnce (controller : Handle) (events : List (Event DisplayEvent)) : Prop :=
  ∃ front status back,
    events = front ++
      .device (.registerWrite (pageBase + commandOffset) setupCommand status) :: back ∧
    (∀ event ∈ front ++ back, isWrite event = false) ∧
    front.any (isOpenOf controller) = true ∧ front.any (isInstallOn controller) = true

/-- What a call leaves alone. -/
structure Disciplined (started : Option Started) (made : BindingCall)
    (events : List (Event DisplayEvent)) : Prop where
  /-- A start of a started driver only takes the lock and gives it up again. -/
  startAgain : ∀ controller, made = .start controller → started ≠ none →
    ∃ level, events = locked level []
  /-- So does a stop of a controller that the driver is not started on. -/
  stopOther : ∀ controller, made = .stop controller → instancesOn controller started = 0 →
    ∃ level, events = locked level []
  /-- Nothing but a start writes registers. -/
  unwritten : (∀ controller, made ≠ .start controller) → ∀ event ∈ events, isWrite event = false
  /-- A start asks the host for a frame buffer at most. -/
  setup : ∀ controller, made = .start controller →
    (∀ event ∈ events, isWrite event = false) ∨ AsksOnce controller events

theorem not_isWrite_of_reads {reads : List DisplayEvent}
    (hreads : ∀ access ∈ reads, access.IsRead) :
    ∀ event ∈ reads.map Event.device, isWrite event = false := by
  intro event hevent
  obtain ⟨access, hmem, rfl⟩ := List.mem_map.mp hevent
  exact not_isWrite_of_isRead (hreads access hmem)

theorem asksOnce_locked {agent controller handle : Handle} {interface : Interface}
    {opening installing asking : Status} {reads : List DisplayEvent}
    (rest : List (Event DisplayEvent)) (hopened : opening.isError = false)
    (hinstalled : installing.isError = false) (hreads : ∀ access ∈ reads, access.IsRead)
    (hrest : ∀ event ∈ rest, isWrite event = false) :
    AsksOnce controller (locked previous ([opened agent controller opening,
      published controller interface handle installing] ++ asked asking reads ++ rest)) := by
  refine ⟨[.service (.raiseTpl .callback previous), .acquire .startedDisplay,
    opened agent controller opening, published controller interface handle installing], asking,
    reads.map .device ++ rest ++ [.release .startedDisplay, .service (.restoreTpl previous)],
    ?_, ?_, ?_, ?_⟩
  · simp [bracketed]
  · have hreads' := not_isWrite_of_reads hreads
    simp only [List.forall_mem_append]
    refine ⟨?_, ⟨hreads', hrest⟩, ?_⟩ <;> simp
  · simp [hopened]
  · simp [hinstalled]

theorem writes_exit (h : Exit driver interface previous made result events held next) :
    (∀ event ∈ events, isWrite event = false) ∨
      ∃ controller, made = .start controller ∧ AsksOnce controller events := by
  cases h with
  | refused herror => simp
  | examined hopened hreads =>
    have hreads' := not_isWrite_of_reads hreads
    left
    simp only [List.forall_mem_append, List.forall_mem_cons]
    exact ⟨⟨rfl, hreads'⟩, rfl, by simp⟩
  | busy hstarted => simp [bracketed]
  | notOpened hidle herror => simp [bracketed]
  | notInstalled hidle hopened herror => simp [bracketed]
  | notBroughtUp hidle hopened hhandle hinstalled hreads =>
    exact .inr ⟨_, rfl, asksOnce_locked [_, _] hopened hinstalled hreads (by simp)⟩
  | started hidle hopened hhandle hinstalled hreads hmode hbase =>
    refine .inr ⟨_, rfl, ?_⟩
    rw [← List.append_nil (_ ++ asked _ _)]
    exact asksOnce_locked [] hopened hinstalled hreads (by simp)
  | idle hother => simp [bracketed]
  | notWithdrawn hstarted herror => simp [bracketed]
  | stopped hstarted hwithdrawn => simp [bracketed]

theorem disciplined_exit (h : Exit driver interface previous made result events held next) :
    Disciplined driver.started made events where
  startAgain := by
    rintro controller rfl hstarted
    cases h with
    | busy hbusy => exact ⟨previous, rfl⟩
    | notOpened hidle herror => exact absurd hidle hstarted
    | notInstalled hidle hopened herror => exact absurd hidle hstarted
    | notBroughtUp hidle hopened hhandle hinstalled hreads => exact absurd hidle hstarted
    | started hidle hopened hhandle hinstalled hreads hmode hbase => exact absurd hidle hstarted
  stopOther := by
    rintro controller rfl hother
    cases h with
    | idle hidle => exact ⟨previous, rfl⟩
    | notWithdrawn hstarted herror => simp [instancesOn, hstarted] at hother
    | stopped hstarted hwithdrawn => simp [instancesOn, hstarted] at hother
  unwritten := by
    intro hmade
    rcases writes_exit h with hnone | ⟨controller, hstart, -⟩
    · exact hnone
    · exact absurd hstart (hmade controller)
  setup := by
    rintro controller rfl
    rcases writes_exit h with hnone | ⟨other, hstart, hasks⟩
    · exact .inl hnone
    · injection hstart with hcontroller
      exact .inr (hcontroller ▸ hasks)

end Exit

/-! ## Runs -/

variable (pci : PciAccess δ)

theorem openBalance_after (services : Services) (config : DisplayConfig) (image agent : Handle)
    (hardware : δ) (calls : List BindingCall) (controller : Handle) :
    let now := after pci calls (unstarted services config image agent hardware)
    now.trace.countP (isOpenOf controller) =
      now.trace.countP (isCloseOf controller) +
        instancesOn controller now.device.driver.started := by
  induction calls using List.reverseRecOn with
  | nil => rfl
  | append_singleton earlier made ih =>
    simp only [after_append] at ih ⊢
    generalize after pci earlier (unstarted services config image agent hardware) = before at ih ⊢
    have hcall := openBalance_exit (exited_call pci made before).exit controller
    rw [trace_after, List.countP_append, List.countP_append]
    omega

/-- The run made an instance by a start of an idle driver, which installed its
output, and the output was not uninstalled since. -/
def HeldSince (first : Platform (DisplayState δ) DisplayEvent) (calls : List BindingCall)
    (shown : Started) : Prop :=
  ∃ earlier later,
    calls = earlier ++ .start shown.controller :: later ∧
    (after pci earlier first).device.driver.started = none ∧
    (after pci (earlier ++ [.start shown.controller]) first).device.driver.started = some shown ∧
    InstalledIn (eventsOf pci [.start shown.controller] (after pci earlier first)) shown ∧
    ∀ event ∈ eventsOf pci later (after pci (earlier ++ [.start shown.controller]) first),
      isUninstallOf shown.interface event = false

theorem heldSince_after (first : Platform (DisplayState δ) DisplayEvent)
    (hfirst : first.device.driver.started = none) (calls : List BindingCall) {shown : Started}
    (hshown : (after pci calls first).device.driver.started = some shown) :
    HeldSince pci first calls shown ∧ shown.output.mode = 0 ∧ shown.output.frameBufferBase ≠ 0 := by
  induction calls using List.reverseRecOn with
  | nil =>
    rw [after_nil, hfirst] at hshown
    cases hshown
  | append_singleton earlier made ih =>
    rw [after_append] at hshown
    rcases held_exit (exited_call pci made (after pci earlier first)).exit hshown with
      ⟨hbefore, hkept⟩ | ⟨hidle, rfl, hmode, hbase, hinstalled⟩
    · -- The instance is older than the last call, and so is the start that made it.
      obtain ⟨⟨front, back, hcalls, hnone, hsome, hinstalled, hback⟩, houtput⟩ := ih hbefore
      refine ⟨⟨front, back ++ [made], ?_, hnone, hsome, hinstalled, ?_⟩, houtput⟩
      · rw [hcalls, List.append_assoc, List.cons_append]
      · have hsplit : after pci back (after pci (front ++ [.start shown.controller]) first) =
            after pci earlier first := by
          rw [← after_append, hcalls, List.append_assoc, List.singleton_append]
        intro event hevent
        rw [eventsOf_append, hsplit] at hevent
        rcases List.mem_append.mp hevent with hevent | hevent
        · exact hback event hevent
        · exact hkept event hevent
    · refine ⟨⟨earlier, [], rfl, hidle, ?_, hinstalled, ?_⟩, hmode, hbase⟩
      · rw [after_append]
        exact hshown
      · simp [eventsOf, after_nil]

/-- After every run, opens and closes differ by the instance that is held, there
is one instance at most, and the run made it and left its output installed.
The next call keeps the discipline. -/
theorem resources_after (services : Services) (config : DisplayConfig) (image agent : Handle)
    (hardware : δ) (calls : List BindingCall) :
    let first := unstarted services config image agent hardware
    let now := after pci calls first
    (∀ controller, now.trace.countP (isOpenOf controller) =
      now.trace.countP (isCloseOf controller) +
        instancesOn controller now.device.driver.started) ∧
    (∀ controller other, instancesOn controller now.device.driver.started = 1 →
      instancesOn other now.device.driver.started = 1 → controller = other) ∧
    (∀ shown, now.device.driver.started = some shown →
      HeldSince pci first calls shown ∧ shown.output.mode = 0 ∧
        shown.output.frameBufferBase ≠ 0) ∧
    ∀ made, Disciplined now.device.driver.started made (eventsOf pci [made] now) := by
  intro first now
  refine ⟨?_, ?_, ?_, ?_⟩
  · intro controller
    exact openBalance_after pci services config image agent hardware calls controller
  · intro controller other hcontroller hother
    have hstarted := startedOn_of_instancesOn hcontroller
    exact Option.some_inj.mp (hstarted.symm.trans (startedOn_of_instancesOn hother))
  · intro shown hshown
    exact heldSince_after pci first rfl calls hshown
  · intro made
    exact disciplined_exit (exited_call pci made now).exit

end GuestFirmware.Display
