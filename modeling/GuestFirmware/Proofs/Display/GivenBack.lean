import GuestFirmware.Display.MediatedDevice
import GuestFirmware.Proofs.Display.Resources

/-!
# What the display driver gives back

A start that fails leaves the platform as it found it, and so do a stop that
fails and a start that is followed by its stop.  `Restored` is what that means:
the installed interfaces, the open controllers, the driver and the level are
those from before.

A start gives back by an uninstall and a close, and the boot services may refuse
either.  `GaveBack` says that they did not.  The null handle names no object, and
the boot services do not open it: an output that is installed on it would go to
a new handle, where the uninstall does not look.

There are three groups.

* Open controllers, read off a trace.
* `Undone` are events that leave nothing behind.  `undone_failedStart`,
  `undone_failedStop` and `undone_startStop` go through the exits.
* The calls on a platform, with `restored_after` as the result.
-/

namespace GuestFirmware.Display

open PlatformM

variable {δ : Type}

/-! ## Open controllers -/

/-- The open controllers after an event, each with the agent that opened it. -/
def openAfter (opens : List (Handle × Handle)) : Event DisplayEvent → List (Handle × Handle)
  | .service (.openProtocol controller protocol agent status) =>
    if protocol = .pciIo ∧ status.isError = false then (controller, agent) :: opens else opens
  | .service (.closeProtocol controller protocol agent status) =>
    if protocol = .pciIo ∧ status.isError = false then opens.erase (controller, agent) else opens
  | _ => opens

/-- The controllers that were opened and not closed. -/
def openControllers (trace : List (Event DisplayEvent)) : List (Handle × Handle) :=
  trace.foldl openAfter []

theorem openAfter_device (accesses : List DisplayEvent) (opens : List (Handle × Handle)) :
    (accesses.map Event.device).foldl openAfter opens = opens := by
  induction accesses with
  | nil => rfl
  | cons access rest ih => exact ih

/-- The boot services did not refuse to take something back. -/
def GaveBack : Event DisplayEvent → Prop
  | .service (.closeProtocol _ _ _ status) => status.isError = false
  | .service (.uninstall _ _ _ _ status) => status.isError = false
  | _ => True

instance : DecidablePred GaveBack
  | .service (.closeProtocol _ _ _ status) => inferInstanceAs (Decidable (status.isError = false))
  | .service (.uninstall _ _ _ _ status) => inferInstanceAs (Decidable (status.isError = false))
  | .service (.raiseTpl ..) | .service (.restoreTpl ..) | .service (.openProtocol ..)
  | .service (.install ..) | .service (.allocatePool ..) | .service (.locateProtocol ..)
  | .service (.locateHandles ..) | .service (.handleProtocol ..) | .service (.readSection ..)
  | .acquire _ | .release _ | .device _ => isTrue trivial

section Exit

variable {driver : DisplayDriver} {interface next : Interface} {previous : Tpl}
  {made : BindingCall} {result : Except Status Unit} {events : List (Event DisplayEvent)}
  {held : Option Started} {controller : Handle} {status : Status}

/-! ## Events that leave nothing behind -/

/-- The events leave nothing behind of what they installed and opened, and the
driver holds what it held. -/
structure Undone (driver : DisplayDriver) (held : Option Started)
    (events : List (Event DisplayEvent)) : Prop where
  installed : ∀ installed, (events.foldl Event.installedAfter installed).Perm installed
  opens : ∀ opens, events.foldl openAfter opens = opens
  held : held = driver.started

/-- An interface that was just installed is the one that is taken out. -/
theorem perm_erase_append (installed : List Installation) (installation : Installation) :
    ((installed ++ [installation]).erase installation).Perm installed := by
  have hfront : (installed ++ [installation]).Perm (installation :: installed) :=
    List.perm_append_singleton installation installed
  have herase := hfront.erase installation
  rwa [List.erase_cons_head] at herase

theorem undone_failedStart
    (h : Exit driver interface previous (.start controller) (.error status) events held next)
    (hgave : ∀ event ∈ events, GaveBack event)
    (hnull : ∀ event ∈ events, isOpenOf 0 event = false) : Undone driver held events := by
  cases h with
  | notOpened hidle herror =>
    refine ⟨?_, ?_, hidle.symm⟩
    · intro installed
      simp [bracketed, Event.installedAfter]
    · intro opens
      simp [bracketed, openAfter, herror]
  | @notInstalled _ opening _ closing hidle hopened herror =>
    have hclosed : closing.isError = false :=
      hgave (closed driver.agent controller closing) (by simp [bracketed])
    refine ⟨?_, ?_, hidle.symm⟩
    · intro installed
      simp [bracketed, Event.installedAfter, herror]
    · intro opens
      simp [bracketed, openAfter, hopened, hclosed]
  | @notBroughtUp _ opening handle installing asking reads known withdrawing closing _ hidle
      hopened hhandle hinstalled hreads =>
    have hwithdrawn : withdrawing.isError = false :=
      hgave (withdrawn controller interface known withdrawing) (by simp [bracketed])
    have hclosed : closing.isError = false :=
      hgave (closed driver.agent controller closing) (by simp [bracketed])
    have hcontroller : controller ≠ 0 := by
      rintro rfl
      have hrefused := hnull (opened driver.agent 0 opening) (by simp [bracketed])
      simp [hopened] at hrefused
    refine ⟨?_, ?_, hidle.symm⟩
    · intro installed
      have hperm := perm_erase_append installed ⟨controller, .graphicsOutput, interface⟩
      simpa [bracketed, Event.installedAfter, Used.installedAfter_accesses, hinstalled,
        hwithdrawn, hhandle hcontroller] using hperm
    · intro opens
      simp [bracketed, openAfter, openAfter_device, hopened, hclosed]

theorem undone_failedStop
    (h : Exit driver interface previous (.stop controller) (.error status) events held next) :
    Undone driver held events ∧
      ∃ shown, held = some shown ∧ shown.controller = controller := by
  cases h with
  | @notWithdrawn shown known _ hheld herror =>
    refine ⟨⟨?_, ?_, hheld.symm⟩, shown, rfl, rfl⟩
    · intro installed
      simp [bracketed, Event.installedAfter, herror]
    · intro opens
      simp [bracketed, openAfter]

/-- A stop of the held instance that succeeds takes out its output and closes its
controller. -/
theorem stopped_of_held {shown : Started} (hheld : driver.started = some shown)
    (hcontroller : shown.controller = controller)
    (h : Exit driver interface previous (.stop controller) (.ok ()) events held next) :
    held = none ∧ ∃ known withdrawing closing, withdrawing.isError = false ∧
      events = locked previous [withdrawn controller shown.interface known withdrawing,
        closed driver.agent controller closing] := by
  cases h with
  | idle hother => exact absurd hcontroller (hother shown hheld)
  | @stopped other known withdrawing closing hother hwithdrawn =>
    rw [hheld] at hother
    cases hother
    exact ⟨rfl, known, withdrawing, closing, hwithdrawn, rfl⟩

theorem undone_startStop {front back : List (Event DisplayEvent)} {lifted : Tpl}
    {stopped : Option Started} {later : Interface} (hidle : driver.started = none)
    (hstart : Exit driver interface previous (.start controller) (.ok ()) front held next)
    (hstop : Exit { driver with started := held } next lifted (.stop controller) (.ok ()) back
      stopped later)
    (hgave : ∀ event ∈ back, GaveBack event)
    (hnull : ∀ event ∈ front, isOpenOf 0 event = false) :
    Undone driver stopped (front ++ back) := by
  cases hstart with
  | busy hstarted => exact absurd hidle hstarted
  | @started _ opening handle installing asking reads output _ hopened hhandle hinstalled hreads
      hmode hbase =>
    have hshown : ({ driver with started := some ⟨controller, output, interface⟩ } :
        DisplayDriver).started = some ⟨controller, output, interface⟩ := rfl
    obtain ⟨rfl, known, withdrawing, closing, hwithdrawn, rfl⟩ := stopped_of_held hshown rfl hstop
    have hcontroller : controller ≠ 0 := by
      rintro rfl
      have hrefused := hnull (opened driver.agent 0 opening) (by simp [bracketed])
      simp [hopened] at hrefused
    have hclosed : closing.isError = false :=
      hgave (closed driver.agent controller closing) (by simp [bracketed])
    refine ⟨?_, ?_, hidle.symm⟩
    · intro installed
      have hperm := perm_erase_append installed ⟨controller, .graphicsOutput, interface⟩
      simpa [bracketed, Event.installedAfter, Used.installedAfter_accesses, hinstalled,
        hwithdrawn, hhandle hcontroller] using hperm
    · intro opens
      simp [bracketed, openAfter, openAfter_device, hopened, hclosed]

/-- Every call ends at the level it began at. -/
theorem levelAfter_exit (h : Exit driver interface previous made result events held next) :
    events.foldl Event.levelAfter previous = previous := by
  cases h with
  | refused herror => rfl
  | examined hopened hreads =>
    simp [Event.levelAfter, Used.levelAfter_accesses]
  | _ => simp [bracketed, Event.levelAfter]

end Exit

/-! ## The calls -/

/-- Everything that a call can leave behind is as it was before. -/
structure Restored (before after : Platform (DisplayState δ) DisplayEvent) : Prop where
  installed : after.services.installed.Perm before.services.installed
  opens : openControllers after.trace = openControllers before.trace
  driver : after.device.driver = before.device.driver
  level : after.services.tpl = before.services.tpl

theorem restored_of_undone {before now : Platform (DisplayState δ) DisplayEvent}
    {events : List (Event DisplayEvent)} (hlogged : Logged before now events)
    (hlevel : events.foldl Event.levelAfter before.services.tpl = before.services.tpl)
    (hdriver : now.device.driver =
      { before.device.driver with started := now.device.driver.started })
    (hundone : Undone before.device.driver now.device.driver.started events) :
    Restored before now where
  installed := by
    rw [hlogged.installed]
    exact hundone.installed before.services.installed
  opens := by
    rw [hlogged.trace, openControllers, List.foldl_append, hundone.opens]
    rfl
  driver := by
    rw [hdriver, hundone.held]
  level := by
    rw [hlogged.level, hlevel]

/-- A stop of the held instance answers what the uninstall of its output does. -/
theorem stop_held {held : Started} {before : Platform (DisplayState δ) DisplayEvent}
    (hheld : before.device.driver.started = some held) :
    ((stop held.controller).run before).1 =
      (Services.nextAnswer before.services.uninstalls).guard () := by
  have hdriver : (currentDriver : DisplayM δ _).run (entered .callback .startedDisplay before) =
      (before.device.driver, entered .callback .startedDisplay before) := rfl
  have hanswer : (Services.uninstall held.controller .graphicsOutput held.interface
      (entered .callback .startedDisplay before).services).1 =
        (Services.nextAnswer before.services.uninstalls).guard () := rfl
  rw [stop, run_withTpl_withLock]
  simp only [stopLocked, run_bind, hdriver, hheld, ne_eq, not_true, ↓reduceIte, run_call, hanswer]
  cases hwithdrawn : (Services.nextAnswer before.services.uninstalls).isError with
  | true =>
    rw [Status.guard_of_error hwithdrawn]
    rfl
  | false =>
    rw [Status.guard_of_success hwithdrawn]
    rfl

/-- The driver after a call is the one before it, but for what it holds. -/
theorem driver_after (pci : PciAccess δ) (made : BindingCall)
    (before : Platform (DisplayState δ) DisplayEvent) :
    (after pci [made] before).device.driver =
      { before.device.driver with
        started := (after pci [made] before).device.driver.started } :=
  (exited_call pci made before).driver

section Calls

variable {pci : PciAccess δ} {controller : Handle}
  {before : Platform (DisplayState δ) DisplayEvent} {status : Status}

theorem exited_of_result {made : BindingCall} {result : Except Status Unit}
    (h : ((made.run pci).run before).1 = result) :
    Exited made result before (after pci [made] before) (eventsOf pci [made] before) := by
  rw [← h]
  exact exited_call pci made before

theorem restored_failedStart (h : ((start pci controller).run before).1 = .error status)
    (hgave : ∀ event ∈ eventsOf pci [.start controller] before, GaveBack event)
    (hnull : ∀ event ∈ eventsOf pci [.start controller] before, isOpenOf 0 event = false) :
    Restored before (after pci [.start controller] before) := by
  have hcall : Exited (.start controller) _ before _ _ := exited_of_result h
  exact restored_of_undone hcall.logged (levelAfter_exit hcall.exit) hcall.driver
    (undone_failedStart hcall.exit hgave hnull)

theorem restored_failedStop (pci : PciAccess δ)
    (h : ((stop controller).run before).1 = .error status) :
    Restored before (after pci [.stop controller] before) ∧
      ∃ held, (after pci [.stop controller] before).device.driver.started = some held ∧
        held.controller = controller := by
  have hcall : Exited (.stop controller) _ before (after pci [.stop controller] before) _ :=
    exited_of_result h
  obtain ⟨hundone, hheld⟩ := undone_failedStop hcall.exit
  exact ⟨restored_of_undone hcall.logged (levelAfter_exit hcall.exit) hcall.driver hundone, hheld⟩

/-- The held instance can be stopped: only a refused uninstall keeps it. -/
theorem stops_while_held (pci : PciAccess δ) {held : Started}
    (hheld : before.device.driver.started = some held) :
    (((stop held.controller).run before).1 = .ok () ↔
      (Services.nextAnswer before.services.uninstalls).isError = false) ∧
    (((stop held.controller).run before).1 = .ok () →
      (after pci [.stop held.controller] before).device.driver.started = none) := by
  refine ⟨?_, ?_⟩
  · rw [stop_held hheld]
    cases hwithdrawn : (Services.nextAnswer before.services.uninstalls).isError with
    | true => simp [Status.guard_of_error hwithdrawn]
    | false => simp [Status.guard_of_success hwithdrawn]
  · intro hstopped
    have hcall : Exited (.stop held.controller) _ before
        (after pci [.stop held.controller] before) _ := exited_of_result hstopped
    exact (stopped_of_held hheld rfl hcall.exit).1

theorem restored_startStop (hidle : before.device.driver.started = none)
    (hstart : ((start pci controller).run before).1 = .ok ())
    (hstop : ((stop controller).run (after pci [.start controller] before)).1 = .ok ())
    (hgave : ∀ event ∈ eventsOf pci [.stop controller] (after pci [.start controller] before),
      GaveBack event)
    (hnull : ∀ event ∈ eventsOf pci [.start controller] before, isOpenOf 0 event = false) :
    Restored before (after pci [.stop controller] (after pci [.start controller] before)) := by
  have hfirst : Exited (.start controller) _ before (after pci [.start controller] before) _ :=
    exited_of_result hstart
  have hsecond : Exited (.stop controller) _ (after pci [.start controller] before)
      (after pci [.stop controller] (after pci [.start controller] before)) _ :=
    exited_of_result hstop
  have hlevel : (after pci [.start controller] before).services.tpl = before.services.tpl := by
    rw [hfirst.logged.level, levelAfter_exit hfirst.exit]
  have hexit := hsecond.exit
  rw [driver_after pci (.start controller) before] at hexit
  refine restored_of_undone (hfirst.logged.trans hsecond.logged) ?_ ?_
    (undone_startStop hidle hfirst.exit hexit hgave hnull)
  · rw [List.foldl_append, levelAfter_exit hfirst.exit, ← hlevel, levelAfter_exit hexit]
  · rw [hsecond.driver, hfirst.driver]

end Calls

/-- A start that fails gives back all it took, unless the boot services refuse
to take it; at most the request to the host was written.  A stop that fails
changes nothing, and the instance can be stopped for as long as it is held.  A
start and its stop leave the platform as it was. -/
theorem restored_after (pci : PciAccess δ) (controller : Handle)
    (before : Platform (DisplayState δ) DisplayEvent) :
    (∀ status, ((start pci controller).run before).1 = .error status →
      let events := eventsOf pci [.start controller] before
      (∀ event ∈ events, GaveBack event) → (∀ event ∈ events, isOpenOf 0 event = false) →
      Restored before (after pci [.start controller] before) ∧
        ((∀ event ∈ events, isWrite event = false) ∨ AsksOnce controller events)) ∧
    (∀ status, ((stop controller).run before).1 = .error status →
      let failed := after pci [.stop controller] before
      Restored before failed ∧
        ∃ held, failed.device.driver.started = some held ∧ held.controller = controller ∧
          ∀ calls,
            let later := after pci calls failed
            later.device.driver.started = some held →
            (((stop controller).run later).1 = .ok () ↔
              (Services.nextAnswer later.services.uninstalls).isError = false) ∧
            (((stop controller).run later).1 = .ok () →
              (after pci [.stop controller] later).device.driver.started = none)) ∧
    let started := after pci [.start controller] before
    before.device.driver.started = none →
      ((start pci controller).run before).1 = .ok () →
      ((stop controller).run started).1 = .ok () →
      (∀ event ∈ eventsOf pci [.stop controller] started, GaveBack event) →
      (∀ event ∈ eventsOf pci [.start controller] before, isOpenOf 0 event = false) →
      Restored before (after pci [.stop controller] started) := by
  refine ⟨?_, ?_, ?_⟩
  · intro status hfailed events hgave hnull
    refine ⟨restored_failedStart hfailed hgave hnull, ?_⟩
    have hcall : Exited (.start controller) _ before _ events := exited_of_result hfailed
    exact (disciplined_exit hcall.exit).setup controller rfl
  · intro status hfailed failed
    obtain ⟨hrestored, held, hheld, rfl⟩ := restored_failedStop pci hfailed
    refine ⟨hrestored, held, hheld, rfl, ?_⟩
    intro calls later hlater
    exact stops_while_held pci hlater
  · intro started hidle hstart hstop hgave hnull
    exact restored_startStop hidle hstart hstop hgave hnull

/-- A driver that was not started, in front of a host that lends this frame buffer or none. -/
def hostWith (frame : Option HostFrame) : Platform (DisplayState MediatedDevice) DisplayEvent :=
  unstarted {} {} 0 0
    { vendorWord := 0x59128086, classWord := 0x03000000, registers := fun _ => 0, frame := frame }

/-- A start fails when the host lends nothing, and its uninstall and its close are accepted.
A start succeeds when the host lends a frame buffer, and its stop is accepted. -/
theorem restored_after_accepted :
    let silent := hostWith none
    let lending := hostWith (some ⟨0x80000000, 1024, 768, 4096, 32, 0x300000⟩)
    let pci := MediatedDevice.access
    let failed := after pci [.start 0x1000] silent
    let started := after pci [.start 0x1000] lending
    ((start pci 0x1000).run silent).1 = .error .deviceError ∧
      (eventsOf pci [.start 0x1000] silent).any (isInstallOn 0x1000) = true ∧
      (eventsOf pci [.start 0x1000] silent).any (isCloseOf 0x1000) = true ∧
      Restored silent failed ∧
      started.device.driver.started.isSome = true ∧
      ((stop 0x1000).run started).1 = .ok () ∧
      Restored lending (after pci [.stop 0x1000] started) := by
  intro silent lending pci failed started
  obtain ⟨hfailed, -, -⟩ := restored_after pci 0x1000 silent
  obtain ⟨-, -, hstopped⟩ := restored_after pci 0x1000 lending
  have hrefused : ((start pci 0x1000).run silent).1 = .error .deviceError := by decide +kernel
  have hstart : ((start pci 0x1000).run lending).1 = .ok () := by decide +kernel
  have hstop : ((stop 0x1000).run started).1 = .ok () := by decide +kernel
  refine ⟨hrefused, by decide +kernel, by decide +kernel, ?_, by decide +kernel, hstop, ?_⟩
  · exact (hfailed _ hrefused (by decide +kernel) (by decide +kernel)).1
  · exact hstopped rfl hstart hstop (by decide +kernel) (by decide +kernel)

end GuestFirmware.Display
