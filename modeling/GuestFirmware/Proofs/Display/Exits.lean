import GuestFirmware.Display.Binding
import GuestFirmware.Proofs.Platform.Log

/-!
# How the calls of the display driver end

`supported`, `start` and `stop` have ten exits between them.  `Exit` lists
them.  Each exit has the answer of the call, the events from its beginning to
its end, the instance that the driver holds afterwards, and the identity of the
next interface.  `exit_run` says that a call on any platform takes one of them,
whatever the boot services and the device answer.

There are two groups.

* The device.  `Used` says that nothing but the device was used, and
  `OnlyReads` that it was read only.  `onlyReads_detect` and
  `used_requestFrame` are the results for the two sides of the handshake.
* The exits.  `exit_supported`, `exit_startLocked` and `exit_stopLocked` find the
  exit of each of the three calls.  A start is followed stage by stage, and each
  stage is told what was done before it.
-/

namespace GuestFirmware.Display

open PlatformM

variable {δ α β : Type}

/-! ## The device -/

/-- An access that changes nothing. -/
def DisplayEvent.IsRead : DisplayEvent → Prop
  | .configRead _ _ => True
  | .registerRead _ _ => True
  | _ => False

/-- Nothing but the device was used between two platforms. -/
structure Used (before after : Platform (DisplayState δ) DisplayEvent)
    (accesses : List DisplayEvent) : Prop where
  trace : after.trace = before.trace ++ accesses.map Event.device
  services : after.services = before.services
  driver : after.device.driver = before.device.driver

namespace Used

variable {first middle last : Platform (DisplayState δ) DisplayEvent}
  {front back : List DisplayEvent}

theorem refl (platform : Platform (DisplayState δ) DisplayEvent) : Used platform platform [] where
  trace := (List.append_nil _).symm
  services := rfl
  driver := rfl

theorem trans (hfront : Used first middle front) (hback : Used middle last back) :
    Used first last (front ++ back) where
  trace := by rw [hback.trace, hfront.trace, List.map_append, List.append_assoc]
  services := hback.services.trans hfront.services
  driver := hback.driver.trans hfront.driver

theorem levelAfter_accesses (level : Tpl) (accesses : List DisplayEvent) :
    (accesses.map Event.device).foldl Event.levelAfter level = level := by
  induction accesses with
  | nil => rfl
  | cons access rest ih => exact ih

theorem installedAfter_accesses (installed : List Installation) (accesses : List DisplayEvent) :
    (accesses.map Event.device).foldl Event.installedAfter installed = installed := by
  induction accesses with
  | nil => rfl
  | cons access rest ih => exact ih

/-- The boot services notice nothing of it. -/
theorem logged (h : Used first last front) : Logged first last (front.map Event.device) where
  trace := h.trace
  level := by rw [h.services, levelAfter_accesses]
  installed := by rw [h.services, installedAfter_accesses]

end Used

theorem run_attempt_bind (action : Attempt δ α) (next : α → Attempt δ β)
    (before : Platform (DisplayState δ) DisplayEvent) :
    (action >>= next).run.run before =
      match (action.run.run before).1 with
      | .error failure => (.error failure, (action.run.run before).2)
      | .ok value => (next value).run.run (action.run.run before).2 := by
  show (ExceptT.bindCont next (action.run.run before).1).run (action.run.run before).2 = _
  cases (action.run.run before).1 <;> rfl

/-- An attempt reads the device and does nothing else. -/
def OnlyReads (action : Attempt δ α) : Prop :=
  ∀ before, ∃ reads, Used before (action.run.run before).2 reads ∧
    ∀ access ∈ reads, access.IsRead

namespace OnlyReads

theorem pure (value : α) : OnlyReads (Pure.pure value : Attempt δ α) := by
  intro before
  exact ⟨[], .refl before, by simp⟩

theorem throw (failure : DisplayError) :
    OnlyReads (MonadExcept.throw failure : Attempt δ α) := by
  intro before
  exact ⟨[], .refl before, by simp⟩

theorem bind {action : Attempt δ α} {next : α → Attempt δ β} (haction : OnlyReads action)
    (hnext : ∀ value, OnlyReads (next value)) : OnlyReads (action >>= next) := by
  intro before
  obtain ⟨front, hfront, hfrontReads⟩ := haction before
  rw [run_attempt_bind]
  cases (action.run.run before).1 with
  | error failure => exact ⟨front, hfront, hfrontReads⟩
  | ok value =>
    obtain ⟨back, hback, hbackReads⟩ := hnext value (action.run.run before).2
    refine ⟨front ++ back, hfront.trans hback, ?_⟩
    intro access haccess
    rcases List.mem_append.mp haccess with hmem | hmem
    · exact hfrontReads access hmem
    · exact hbackReads access hmem

end OnlyReads

/-- An attempt leaves the platform as the access does. -/
theorem run_attempt (access : DisplayM δ (Except Status α))
    (before : Platform (DisplayState δ) DisplayEvent) :
    (attempt access).run.run before =
      ((access.run before).1.mapError .registerAccess, (access.run before).2) := by
  simp only [attempt, ExceptT.run_mk, run_bind]
  cases (access.run before).1 <;> rfl

theorem onlyReads_readConfig (pci : PciAccess δ) (offset : UInt32) :
    OnlyReads (attempt (readConfig pci offset)) := by
  intro before
  refine ⟨[.configRead offset (pci.readConfig offset before.device.hardware).1.1], ?_, ?_⟩
  · rw [run_attempt]
    exact ⟨rfl, rfl, rfl⟩
  · simp [DisplayEvent.IsRead]

theorem onlyReads_readRegister (pci : PciAccess δ) (offset : UInt64) :
    OnlyReads (attempt (readRegister pci offset)) := by
  intro before
  refine ⟨[.registerRead offset (pci.readRegister offset before.device.hardware).1.1], ?_, ?_⟩
  · rw [run_attempt]
    exact ⟨rfl, rfl, rfl⟩
  · simp [DisplayEvent.IsRead]

theorem onlyReads_readBlock (pci : PciAccess δ) (offset : UInt64) (count : Nat) :
    OnlyReads (readBlock pci offset count) := by
  induction count generalizing offset with
  | zero => exact .pure []
  | succ count ih =>
    refine (onlyReads_readRegister pci offset).bind fun value => ?_
    exact (ih (offset + 4)).bind fun rest => .pure (value :: rest)

/-- The device is only read to recognise it. -/
theorem onlyReads_detect (pci : PciAccess δ) : OnlyReads (detect pci) := by
  refine (onlyReads_readConfig pci vendorOffset).bind fun vendor => ?_
  refine (onlyReads_readConfig pci classOffset).bind fun revision => ?_
  split
  · exact .throw _
  · refine (onlyReads_readBlock pci pageBase 5).bind fun words => ?_
    dsimp only
    split
    · exact .throw _
    · split
      · exact .throw _
      · exact .pure _

theorem onlyReads_readFrame (pci : PciAccess δ) : OnlyReads (readFrame pci) := by
  refine (onlyReads_readBlock pci (pageBase + frameOffset) 6).bind fun words => ?_
  dsimp only
  split
  · exact .pure _
  · exact .throw _

/-- The host is asked for a frame buffer by one write, which comes before all
reads. -/
theorem used_requestFrame (pci : PciAccess δ) (before : Platform (DisplayState δ) DisplayEvent) :
    ∃ status reads,
      Used before ((requestFrame pci).run.run before).2
        (.registerWrite (pageBase + commandOffset) setupCommand status :: reads) ∧
      ∀ access ∈ reads, access.IsRead := by
  let write := writeRegister pci (pageBase + commandOffset) setupCommand
  have hwrite : Used before (write.run before).2
      [.registerWrite (pageBase + commandOffset) setupCommand
        (pci.writeRegister (pageBase + commandOffset) setupCommand before.device.hardware).1] :=
    ⟨rfl, rfl, rfl⟩
  rw [requestFrame, run_attempt_bind, run_attempt]
  cases (write.run before).1 with
  | error status => exact ⟨_, [], hwrite, by simp⟩
  | ok value =>
    obtain ⟨reads, hreads, honly⟩ := onlyReads_readFrame pci (write.run before).2
    exact ⟨_, reads, hwrite.trans hreads, honly⟩

/-- A frame buffer that is accepted is not at address zero. -/
theorem attach_base {frame : HostFrame} {output shown : GraphicsOutput}
    (h : output.attach frame = (.ok (), shown)) : shown.frameBufferBase ≠ 0 := by
  unfold GraphicsOutput.attach at h
  split at h
  · rename_i hcovers
    cases h
    exact hcovers.1.address_ne_zero
  · cases h

/-- A selected mode is the number that was asked for, and the frame buffer
stays where it is. -/
theorem setMode_mode {number : UInt32} {output shown : GraphicsOutput}
    (h : output.setMode number = (.ok (), shown)) :
    shown.mode = number ∧ shown.frameBufferBase = output.frameBufferBase := by
  unfold GraphicsOutput.setMode at h
  split at h
  · cases h
  · cases h
    exact ⟨rfl, rfl⟩

/-- An output that is brought up shows its only mode in a frame buffer of the
host, which was asked for it once. -/
theorem used_bringUp (pci : PciAccess δ) (output : GraphicsOutput)
    (before : Platform (DisplayState δ) DisplayEvent) :
    ∃ status reads,
      Used before ((bringUp pci output).run before).2
        (.registerWrite (pageBase + commandOffset) setupCommand status :: reads) ∧
      (∀ access ∈ reads, access.IsRead) ∧
      ∀ shown, ((bringUp pci output).run before).1 = .ok shown →
        shown.mode = 0 ∧ shown.frameBufferBase ≠ 0 := by
  obtain ⟨status, reads, hused, honly⟩ := used_requestFrame pci before
  refine ⟨status, reads, ?_⟩
  simp only [bringUp, run_bind]
  cases ((requestFrame pci).run.run before).1 with
  | error failure =>
    refine ⟨hused, honly, ?_⟩
    intro shown hshown
    cases hshown
  | ok frame =>
    refine ⟨hused, honly, ?_⟩
    intro shown hshown
    rcases hattach : output.attach frame with ⟨failure | done, covered⟩
    · simp only [hattach] at hshown
      cases hshown
    · simp only [hattach] at hshown
      rcases hselect : covered.setMode 0 with ⟨status | done, selected⟩
      · simp only [hselect] at hshown
        cases hshown
      · simp only [hselect] at hshown
        cases hshown
        obtain ⟨hmode, hbase⟩ := setMode_mode hselect
        exact ⟨hmode, hbase ▸ attach_base hattach⟩

/-! ## The exits

The events of the calls have names: a controller is `opened` and `closed`, and
an output is `published` on it and `withdrawn`. -/

abbrev opened (agent controller : Handle) (status : Status) : Event DisplayEvent :=
  .service (.openProtocol controller .pciIo agent status)

abbrev closed (agent controller : Handle) (status : Status) : Event DisplayEvent :=
  .service (.closeProtocol controller .pciIo agent status)

abbrev published (controller : Handle) (interface : Interface) (handle : Handle)
    (status : Status) : Event DisplayEvent :=
  .service (.install controller .graphicsOutput interface handle status)

abbrev withdrawn (controller : Handle) (interface : Interface) (known : Bool)
    (status : Status) : Event DisplayEvent :=
  .service (.uninstall controller .graphicsOutput interface known status)

/-- The host is asked for a frame buffer, and its answer is read. -/
abbrev asked (status : Status) (reads : List DisplayEvent) : List (Event DisplayEvent) :=
  .device (.registerWrite (pageBase + commandOffset) setupCommand status) :: reads.map .device

/-- The events of a call that takes the lock of the driver. -/
abbrev locked (previous : Tpl) (events : List (Event DisplayEvent)) : List (Event DisplayEvent) :=
  bracketed .callback previous .startedDisplay events

/-- How a call ends that is made at a level to a driver.  The interface is the
next one that can be made. -/
inductive Exit (driver : DisplayDriver) (interface : Interface) (previous : Tpl) :
    BindingCall → Except Status Unit → List (Event DisplayEvent) → Option Started →
      Interface → Prop
  /-- The controller to look at cannot be opened. -/
  | refused {controller status} (herror : status.isError = true) :
      Exit driver interface previous (.supported controller) (.error status)
        [opened driver.agent controller status] driver.started interface
  /-- The device is looked at. -/
  | examined {controller result status closing} {reads : List DisplayEvent}
      (hopened : status.isError = false) (hreads : ∀ access ∈ reads, access.IsRead) :
      Exit driver interface previous (.supported controller) result
        (opened driver.agent controller status :: reads.map .device ++
          [closed driver.agent controller closing]) driver.started interface
  /-- The driver is started already. -/
  | busy {controller} (hstarted : driver.started ≠ none) :
      Exit driver interface previous (.start controller) (.ok ()) (locked previous [])
        driver.started interface
  /-- The controller to start on cannot be opened. -/
  | notOpened {controller status} (hidle : driver.started = none)
      (herror : status.isError = true) :
      Exit driver interface previous (.start controller) (.error status)
        (locked previous [opened driver.agent controller status]) none interface
  /-- The output cannot be installed. -/
  | notInstalled {controller opening status closing} (hidle : driver.started = none)
      (hopened : opening.isError = false) (herror : status.isError = true) :
      Exit driver interface previous (.start controller) (.error status)
        (locked previous [opened driver.agent controller opening,
          published controller interface controller status,
          closed driver.agent controller closing]) none (interface + 1)
  /-- The output cannot be brought up.  What was done is undone, if the boot
  services let it. -/
  | notBroughtUp {controller opening handle installing asking reads known withdrawing closing
      status} (hidle : driver.started = none) (hopened : opening.isError = false)
      (hhandle : controller ≠ 0 → handle = controller)
      (hinstalled : installing.isError = false) (hreads : ∀ access ∈ reads, access.IsRead) :
      Exit driver interface previous (.start controller) (.error status)
        (locked previous ([opened driver.agent controller opening,
          published controller interface handle installing] ++ asked asking reads ++
          [withdrawn controller interface known withdrawing,
            closed driver.agent controller closing])) none (interface + 1)
  /-- The driver is started. -/
  | started {controller opening handle installing asking reads output}
      (hidle : driver.started = none) (hopened : opening.isError = false)
      (hhandle : controller ≠ 0 → handle = controller)
      (hinstalled : installing.isError = false) (hreads : ∀ access ∈ reads, access.IsRead)
      (hmode : output.mode = 0) (hbase : output.frameBufferBase ≠ 0) :
      Exit driver interface previous (.start controller) (.ok ())
        (locked previous ([opened driver.agent controller opening,
          published controller interface handle installing] ++ asked asking reads))
        (some ⟨controller, output, interface⟩) (interface + 1)
  /-- There is nothing to stop on the controller. -/
  | idle {controller}
      (hother : ∀ held, driver.started = some held → held.controller ≠ controller) :
      Exit driver interface previous (.stop controller) (.ok ()) (locked previous [])
        driver.started interface
  /-- The output cannot be uninstalled. -/
  | notWithdrawn {held known status} (hheld : driver.started = some held)
      (herror : status.isError = true) :
      Exit driver interface previous (.stop held.controller) (.error status)
        (locked previous [withdrawn held.controller held.interface known status])
        (some held) interface
  /-- The driver is stopped. -/
  | stopped {held known status closing} (hheld : driver.started = some held)
      (hwithdrawn : status.isError = false) :
      Exit driver interface previous (.stop held.controller) (.ok ())
        (locked previous [withdrawn held.controller held.interface known status,
          closed driver.agent held.controller closing]) none interface

/-! ## Every call takes an exit -/

/-- What a call did to a platform, and the exit it took. -/
structure Exited (made : BindingCall) (result : Except Status Unit)
    (before after : Platform (DisplayState δ) DisplayEvent)
    (events : List (Event DisplayEvent)) : Prop where
  logged : Logged before after events
  exit : Exit before.device.driver before.services.nextInterface before.services.tpl made result
    events after.device.driver.started after.services.nextInterface
  driver : after.device.driver =
    { before.device.driver with started := after.device.driver.started }

theorem driver_kept {driver after : DisplayDriver} (h : after = driver) :
    after = { driver with started := after.started } := by
  rw [h]

theorem run_openController (controller : Handle)
    (before : Platform (DisplayState δ) DisplayEvent) :
    (openController controller).run before =
      ((Services.nextAnswer before.services.opens).guard (),
        afterCall (Services.openProtocol controller .pciIo before.device.driver.agent) before) :=
  rfl

theorem run_closeController (controller : Handle)
    (before : Platform (DisplayState δ) DisplayEvent) :
    (closeController controller).run before =
      ((), afterCall (Services.closeProtocol controller .pciIo before.device.driver.agent)
        before) := rfl

theorem exit_supported (pci : PciAccess δ) (controller : Handle)
    (before : Platform (DisplayState δ) DisplayEvent) :
    ∃ events, Exited (.supported controller) ((supported pci controller).run before).1 before
      ((supported pci controller).run before).2 events := by
  have hopen := logged_open controller .pciIo before.device.driver.agent before
  simp only [supported, run_bind, run_openController]
  cases herror : (Services.nextAnswer before.services.opens).isError with
  | true =>
    rw [Status.guard_of_error herror]
    exact ⟨_, hopen, .refused herror, rfl⟩
  | false =>
    rw [Status.guard_of_success herror]
    obtain ⟨reads, hused, honly⟩ := onlyReads_detect pci
      (afterCall (Services.openProtocol controller .pciIo before.device.driver.agent) before)
    simp only [run_bind, run_closeController]
    generalize (detect pci).run.run _ = detected at hused ⊢
    have hclose := logged_close controller .pciIo before.device.driver.agent detected.2
    rw [hused.driver]
    refine ⟨_, (hopen.trans hused.logged).trans hclose, ?_, driver_kept hused.driver⟩
    show Exit _ _ _ _ _ _ detected.2.device.driver.started detected.2.services.nextInterface
    rw [hused.driver, hused.services]
    exact .examined herror honly

/-! ### Starting -/

/-- What a call did between taking the lock and giving it up, and the exit it
takes. -/
structure ExitedLocked (made : BindingCall) (result : Except Status Unit)
    (before after : Platform (DisplayState δ) DisplayEvent)
    (events : List (Event DisplayEvent)) : Prop where
  logged : Logged before after events
  exit (previous : Tpl) : Exit before.device.driver before.services.nextInterface previous made
    result (locked previous events) after.device.driver.started after.services.nextInterface
  driver : after.device.driver =
    { before.device.driver with started := after.device.driver.started }

theorem exited_of_locked {made : BindingCall} {result : Except Status Unit}
    {before after : Platform (DisplayState δ) DisplayEvent} {events : List (Event DisplayEvent)}
    (h : ExitedLocked made result (entered .callback .startedDisplay before) after events) :
    Exited made result before (exited before.services.tpl .startedDisplay after)
      (locked before.services.tpl events) where
  logged := logged_bracketed h.logged
  exit := h.exit before.services.tpl
  driver := h.driver

/-- The last stage, on a platform where the controller was opened and the output
published. -/
theorem exit_startInstalled (pci : PciAccess δ) {controller handle : Handle}
    {before installed : Platform (DisplayState δ) DisplayEvent} {opening installing : Status}
    (hidle : before.device.driver.started = none) (hopened : opening.isError = false)
    (hhandle : controller ≠ 0 → handle = controller) (hinstalled : installing.isError = false)
    (hlogged : Logged before installed [opened before.device.driver.agent controller opening,
      published controller before.services.nextInterface handle installing])
    (hdriver : installed.device.driver = before.device.driver)
    (hnext : installed.services.nextInterface = before.services.nextInterface + 1) :
    ∃ events, ExitedLocked (.start controller)
      ((startInstalled pci before.device.driver.config controller
        before.services.nextInterface).run installed).1 before
      ((startInstalled pci before.device.driver.config controller
        before.services.nextInterface).run installed).2 events := by
  obtain ⟨asking, reads, hused, honly, houtput⟩ :=
    used_bringUp pci (.ofConfig before.device.driver.config) installed
  simp only [startInstalled, run_bind]
  generalize (bringUp pci (.ofConfig before.device.driver.config)).run installed = brought
    at hused houtput ⊢
  have hbrought := hlogged.trans hused.logged
  have hdriver' : brought.2.device.driver = before.device.driver := hused.driver.trans hdriver
  have hnext' : brought.2.services.nextInterface = before.services.nextInterface + 1 := by
    rw [hused.services, hnext]
  cases hresult : brought.1 with
  | error status =>
    -- Neither answer is looked at here, so the uninstall and the close may fail.
    simp only [run_bind, run_call, run_closeController]
    obtain ⟨known, huninstall⟩ := logged_uninstall controller .graphicsOutput
      before.services.nextInterface brought.2
    have hagent : (afterCall (Services.uninstall controller .graphicsOutput
        before.services.nextInterface) brought.2).device.driver = before.device.driver := hdriver'
    rw [hagent]
    have hclose := logged_close controller .pciIo before.device.driver.agent
      (afterCall (Services.uninstall controller .graphicsOutput
        before.services.nextInterface) brought.2)
    refine ⟨_, (hbrought.trans huninstall).trans hclose, fun previous => ?_,
      driver_kept hdriver'⟩
    show Exit _ _ _ _ _ _ brought.2.device.driver.started brought.2.services.nextInterface
    rw [hdriver', hnext', hidle, List.append_assoc]
    exact .notBroughtUp hidle hopened hhandle hinstalled honly
  | ok output =>
    obtain ⟨hmode, hbase⟩ := houtput output hresult
    refine ⟨_, ⟨hbrought.trace, hbrought.level, hbrought.installed⟩, fun previous => ?_, ?_⟩
    · show Exit _ _ _ _ _ _ (some _) brought.2.services.nextInterface
      rw [hnext']
      exact .started hidle hopened hhandle hinstalled honly hmode hbase
    · let held : Started := ⟨controller, output, before.services.nextInterface⟩
      show ({ brought.2.device.driver with started := some held } : DisplayDriver) =
        { before.device.driver with started := some held }
      rw [hdriver']

theorem exit_startOpened (pci : PciAccess δ) {controller : Handle}
    {before ready : Platform (DisplayState δ) DisplayEvent} {opening : Status}
    (hidle : before.device.driver.started = none) (hopened : opening.isError = false)
    (hlogged : Logged before ready [opened before.device.driver.agent controller opening])
    (hdriver : ready.device.driver = before.device.driver)
    (hnext : ready.services.nextInterface = before.services.nextInterface) :
    ∃ events, ExitedLocked (.start controller)
      ((startOpened pci before.device.driver.config controller).run ready).1 before
      ((startOpened pci before.device.driver.config controller).run ready).2 events := by
  simp only [startOpened, run_bind, run_makeInterface, run_call, hnext]
  have hmade := hlogged.trans (logged_make ready)
  have hnextMade : (afterCall (Services.install controller .graphicsOutput
      before.services.nextInterface) (afterMake ready)).services.nextInterface =
      before.services.nextInterface + 1 := by
    refine (nextInterface_install _ _ _ (afterMake ready).services).trans ?_
    show ready.services.nextInterface + 1 = _
    rw [hnext]
  cases hinstalled : (Services.nextAnswer (afterMake ready).services.installs).isError with
  | true =>
    obtain ⟨hanswer, hinstall⟩ := install_of_error controller .graphicsOutput
      before.services.nextInterface hinstalled
    rw [hanswer]
    simp only [run_bind, run_closeController]
    let refused := afterCall (Services.install controller .graphicsOutput
      before.services.nextInterface) (afterMake ready)
    have hagent : refused.device.driver = before.device.driver := hdriver
    rw [hagent]
    have hclose := logged_close controller .pciIo before.device.driver.agent refused
    refine ⟨_, (hmade.trans hinstall).trans hclose, fun previous => ?_, driver_kept hdriver⟩
    show Exit _ _ _ _ _ _ ready.device.driver.started refused.services.nextInterface
    rw [hdriver, hidle, hnextMade]
    exact .notInstalled hidle hopened hinstalled
  | false =>
    obtain ⟨handle, hhandle, hanswer, hinstall⟩ := install_of_success controller .graphicsOutput
      before.services.nextInterface hinstalled
    rw [hanswer]
    refine exit_startInstalled pci hidle hopened hhandle hinstalled ?_ ?_ ?_
    · exact hmade.trans hinstall
    · exact hdriver
    · exact hnextMade

theorem exit_startLocked (pci : PciAccess δ) (controller : Handle)
    (before : Platform (DisplayState δ) DisplayEvent) :
    ∃ events, ExitedLocked (.start controller) ((startLocked pci controller).run before).1 before
      ((startLocked pci controller).run before).2 events := by
  have hdriver : (currentDriver : DisplayM δ _).run before = (before.device.driver, before) := rfl
  simp only [startLocked, run_bind, hdriver]
  cases hstarted : before.device.driver.started with
  | some held =>
    refine ⟨[], .refl before, fun previous => ?_, rfl⟩
    exact .busy (by simp [hstarted])
  | none =>
    have hopen := logged_open controller .pciIo before.device.driver.agent before
    simp only [run_bind, run_openController]
    cases hopened : (Services.nextAnswer before.services.opens).isError with
    | true =>
      rw [Status.guard_of_error hopened]
      refine ⟨_, hopen, fun previous => ?_, rfl⟩
      show Exit _ _ _ _ _ _ before.device.driver.started _
      rw [hstarted]
      exact .notOpened hstarted hopened
    | false =>
      rw [Status.guard_of_success hopened]
      exact exit_startOpened pci hstarted hopened hopen rfl rfl

/-! ### Stopping -/

theorem exit_stopHeld {held : Started} {before : Platform (DisplayState δ) DisplayEvent}
    (hheld : before.device.driver.started = some held) :
    ∃ events, ExitedLocked (.stop held.controller) ((stopLocked held.controller).run before).1
      before ((stopLocked held.controller).run before).2 events := by
  have hdriver : (currentDriver : DisplayM δ _).run before = (before.device.driver, before) := rfl
  obtain ⟨known, huninstall⟩ := logged_uninstall held.controller .graphicsOutput held.interface
    before
  simp only [stopLocked, run_bind, hdriver, hheld, ne_eq, not_true, ↓reduceIte, run_call]
  have hanswer : (Services.uninstall held.controller .graphicsOutput held.interface
      before.services).1 = (Services.nextAnswer before.services.uninstalls).guard () := rfl
  rw [hanswer]
  cases hwithdrawn : (Services.nextAnswer before.services.uninstalls).isError with
  | true =>
    rw [Status.guard_of_error hwithdrawn]
    refine ⟨_, huninstall, fun previous => ?_, rfl⟩
    show Exit _ _ _ _ _ _ before.device.driver.started _
    rw [hheld]
    exact .notWithdrawn hheld hwithdrawn
  | false =>
    rw [Status.guard_of_success hwithdrawn]
    have hclose := logged_close held.controller .pciIo before.device.driver.agent
      (afterCall (Services.uninstall held.controller .graphicsOutput held.interface) before)
    have hlogged := huninstall.trans hclose
    refine ⟨_, ⟨hlogged.trace, hlogged.level, hlogged.installed⟩, fun previous => ?_, rfl⟩
    exact .stopped hheld hwithdrawn

theorem exit_stopLocked (controller : Handle)
    (before : Platform (DisplayState δ) DisplayEvent) :
    ∃ events, ExitedLocked (.stop controller) ((stopLocked controller).run before).1 before
      ((stopLocked controller).run before).2 events := by
  by_cases hheld : ∃ held, before.device.driver.started = some held ∧ held.controller = controller
  · obtain ⟨held, hheld, rfl⟩ := hheld
    exact exit_stopHeld hheld
  · have hother : ∀ held, before.device.driver.started = some held →
        held.controller ≠ controller := by
      intro held hstarted hcontroller
      exact hheld ⟨held, hstarted, hcontroller⟩
    have hrun : (stopLocked controller).run before = (.ok (), before) := by
      have hdriver : (currentDriver : DisplayM δ _).run before = (before.device.driver, before) :=
        rfl
      simp only [stopLocked, run_bind, hdriver]
      cases hstarted : before.device.driver.started with
      | none => rfl
      | some held =>
        simp only [if_pos (hother held hstarted)]
        rfl
    rw [hrun]
    exact ⟨[], .refl before, fun previous => .idle hother, rfl⟩

/-- Every call takes an exit, on any platform. -/
theorem exit_run (pci : PciAccess δ) (made : BindingCall)
    (before : Platform (DisplayState δ) DisplayEvent) :
    ∃ events, Exited made ((made.run pci).run before).1 before ((made.run pci).run before).2
      events := by
  cases made with
  | supported controller => exact exit_supported pci controller before
  | start controller =>
    show ∃ events, Exited _ ((start pci controller).run before).1 _
      ((start pci controller).run before).2 events
    rw [start, run_withTpl_withLock]
    obtain ⟨events, h⟩ := exit_startLocked pci controller
      (entered .callback .startedDisplay before)
    exact ⟨_, exited_of_locked h⟩
  | stop controller =>
    show ∃ events, Exited _ ((stop controller).run before).1 _
      ((stop controller).run before).2 events
    rw [stop, run_withTpl_withLock]
    obtain ⟨events, h⟩ := exit_stopLocked controller (entered .callback .startedDisplay before)
    exact ⟨_, exited_of_locked h⟩

end GuestFirmware.Display
