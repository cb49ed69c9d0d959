import GuestFirmware.Display.MediatedDevice
import GuestFirmware.Proofs.Display.Runs

/-!
# What decides a start

A start of an idle driver goes through five stages: the controller is opened, the
output is installed, the host is asked for a frame buffer, its answer is read word by
word, and the frame buffer must cover the mode.  `Granted` says that all of them go
well, and `Refused` names the first that does not, with its status.

* `Reads` and `ReadFails` are the two ways in which registers are read in a row.  One
  of them happens (`reads_or_fails`), and `run_readBlock_of_reads` and
  `run_readBlock_of_fails` say what is answered.
* `Covers` is what makes a description good enough, in exact integers.
* There is one lemma for each way in which an output is brought up, and then one for
  each way in which a start ends.

`start_decides` joins them: each of the two answers is equivalent to its condition.
-/

namespace GuestFirmware.Display

open PlatformM

variable {δ : Type}

/-! ## Registers in a row -/

/-- Registers that are read in a row from an offset on hold these words. -/
inductive Reads (pci : PciAccess δ) : UInt64 → δ → List UInt32 → Prop
  | nil {offset device} : Reads pci offset device []
  | cons {offset device rest} (hread : (pci.readRegister offset device).1.1.isError = false)
      (hrest : Reads pci (offset + 4) (pci.readRegister offset device).2 rest) :
      Reads pci offset device ((pci.readRegister offset device).1.2 :: rest)

/-- Of so many registers that are read in a row from an offset on one cannot be read,
and the first such has this status. -/
inductive ReadFails (pci : PciAccess δ) : UInt64 → Nat → δ → Status → Prop
  | first {offset count device} (herror : (pci.readRegister offset device).1.1.isError = true) :
      ReadFails pci offset (count + 1) device (pci.readRegister offset device).1.1
  | later {offset count device status}
      (hread : (pci.readRegister offset device).1.1.isError = false)
      (hrest : ReadFails pci (offset + 4) count (pci.readRegister offset device).2 status) :
      ReadFails pci offset (count + 1) device status

theorem reads_or_fails (pci : PciAccess δ) (offset : UInt64) (count : Nat) (device : δ) :
    (∃ words, words.length = count ∧ Reads pci offset device words) ∨
      ∃ status, ReadFails pci offset count device status := by
  induction count generalizing offset device with
  | zero => exact Or.inl ⟨[], rfl, .nil⟩
  | succ count ih =>
    cases hstatus : (pci.readRegister offset device).1.1.isError with
    | true => exact Or.inr ⟨_, .first hstatus⟩
    | false =>
      rcases ih (offset + 4) (pci.readRegister offset device).2 with
        ⟨words, hlength, hreads⟩ | ⟨status, hfails⟩
      · exact Or.inl ⟨_, by rw [List.length_cons, hlength], .cons hstatus hreads⟩
      · exact Or.inr ⟨status, .later hstatus hfails⟩

theorem isError_of_readFails {pci : PciAccess δ} {offset : UInt64} {count : Nat} {device : δ}
    {status : Status} (h : ReadFails pci offset count device status) : status.isError = true := by
  induction h with
  | first herror => exact herror
  | later _ _ ih => exact ih

/-- The platform after a register was read. -/
def afterRead (pci : PciAccess δ) (offset : UInt64)
    (before : Platform (DisplayState δ) DisplayEvent) : Platform (DisplayState δ) DisplayEvent :=
  ((readRegister pci offset).run before).2

theorem run_attempt_readRegister (pci : PciAccess δ) (offset : UInt64)
    (before : Platform (DisplayState δ) DisplayEvent) :
    (attempt (readRegister pci offset)).run.run before =
      (((pci.readRegister offset before.device.hardware).1.1.guard
        (pci.readRegister offset before.device.hardware).1.2).mapError .registerAccess,
        afterRead pci offset before) :=
  run_attempt (readRegister pci offset) before

theorem run_readBlock_of_reads {pci : PciAccess δ} {offset : UInt64} {device : δ}
    {words : List UInt32} (h : Reads pci offset device words)
    {before : Platform (DisplayState δ) DisplayEvent} (hdevice : before.device.hardware = device) :
    ((readBlock pci offset words.length).run.run before).1 = .ok words := by
  induction h generalizing before with
  | nil => rfl
  | @cons offset device rest hread hrest ih =>
    subst hdevice
    have htail := @ih (afterRead pci offset before) rfl
    rw [List.length_cons, readBlock, run_attempt_bind, run_attempt_readRegister,
      Status.guard_of_success hread]
    simp only [Except.mapError]
    rw [run_attempt_bind, htail]
    rfl

theorem run_readBlock_of_fails {pci : PciAccess δ} {offset : UInt64} {count : Nat} {device : δ}
    {status : Status} (h : ReadFails pci offset count device status)
    {before : Platform (DisplayState δ) DisplayEvent} (hdevice : before.device.hardware = device) :
    ((readBlock pci offset count).run.run before).1 = .error (.registerAccess status) := by
  induction h generalizing before with
  | first herror =>
    subst hdevice
    rw [readBlock, run_attempt_bind, run_attempt_readRegister, Status.guard_of_error herror]
    rfl
  | @later offset count device status hread hrest ih =>
    subst hdevice
    have htail := @ih (afterRead pci offset before) rfl
    rw [readBlock, run_attempt_bind, run_attempt_readRegister, Status.guard_of_success hread]
    simp only [Except.mapError]
    rw [run_attempt_bind, htail]

/-! ## Descriptions that are good enough -/

/-- A description of a frame buffer that the mode of a configuration can be shown in. -/
structure Covers (config : DisplayConfig) (frame : HostFrame) : Prop where
  base : frame.base.toNat ≠ 0
  width : 0 < frame.width.toNat
  height : 0 < frame.height.toNat
  depth : frame.bitsPerPixel.toNat = 32
  wholePixels : frame.pitch.toNat % 4 = 0
  pitch : 4 * frame.width.toNat ≤ frame.pitch.toNat
  size : frame.pitch.toNat * frame.height.toNat ≤ frame.size.toNat
  horizontal : config.horizontal.toNat ≤ frame.width.toNat
  vertical : config.vertical.toNat ≤ frame.height.toNat

theorem covers_iff {config : DisplayConfig} {frame : HostFrame} :
    Covers config frame ↔
      frame.Usable ∧ config.horizontal ≤ frame.width ∧ config.vertical ≤ frame.height := by
  have hzero : ∀ word : UInt32, word = 0 ↔ word.toNat = 0 := fun word => UInt32.toNat_inj.symm
  have hdepth : frame.bitsPerPixel = HostFrame.supportedDepth ↔ frame.bitsPerPixel.toNat = 32 :=
    UInt32.toNat_inj.symm
  rw [HostFrame.Usable, UInt32.le_iff_toNat_le, UInt32.le_iff_toNat_le, hdepth]
  simp only [ne_eq, hzero]
  constructor
  · intro h
    exact ⟨⟨h.base, by have := h.width; omega, by have := h.height; omega, h.depth,
      h.wholePixels, by have := h.pitch; omega, h.size⟩, h.horizontal, h.vertical⟩
  · rintro ⟨⟨hbase, hwidth, hheight, hdepth, hwhole, hpitch, hsize⟩, hhorizontal, hvertical⟩
    exact ⟨hbase, by omega, by omega, hdepth, hwhole, by omega, hsize, hhorizontal, hvertical⟩

/-- The output of a configuration that shows its only mode in a frame buffer of the host. -/
def showing (config : DisplayConfig) (frame : HostFrame) : GraphicsOutput :=
  let output := GraphicsOutput.ofConfig config
  { output with
    mode := 0
    frameBufferBase := frame.base.toUInt64
    frameBufferSize := frame.size.toNat
    info := { output.info with pixelsPerScanLine := frame.pitch / 4 } }

/-! ## Bringing up -/

/-- The host is asked for a frame buffer. -/
abbrev askHost (pci : PciAccess δ) (device : δ) : Status × δ :=
  pci.writeRegister 0x78818 8 device

/-- The words of a description, in the order in which they are read. -/
abbrev descriptionOf (frame : HostFrame) : List UInt32 :=
  [frame.base, frame.width, frame.height, frame.pitch, frame.bitsPerPixel, frame.size]

theorem exists_descriptionOf {words : List UInt32} (h : words.length = 6) :
    ∃ frame, descriptionOf frame = words := by
  match words, h with
  | [base, width, height, pitch, depth, size], _ =>
    exact ⟨⟨base, width, height, pitch, depth, size⟩, rfl⟩

/-- The platform after the host was asked. -/
def afterAsking (pci : PciAccess δ) (before : Platform (DisplayState δ) DisplayEvent) :
    Platform (DisplayState δ) DisplayEvent :=
  ((writeRegister pci (pageBase + commandOffset) setupCommand).run before).2

section BringUp

variable {pci : PciAccess δ} {before : Platform (DisplayState δ) DisplayEvent}

theorem run_askHost (pci : PciAccess δ) (before : Platform (DisplayState δ) DisplayEvent) :
    (attempt (writeRegister pci (pageBase + commandOffset) setupCommand)).run.run before =
      (((askHost pci before.device.hardware).1.guard ()).mapError .registerAccess,
        afterAsking pci before) :=
  run_attempt (writeRegister pci (pageBase + commandOffset) setupCommand) before

theorem requestFrame_of_not_asked (h : (askHost pci before.device.hardware).1.isError = true) :
    ((requestFrame pci).run.run before).1 =
      .error (.registerAccess (askHost pci before.device.hardware).1) := by
  rw [requestFrame, run_attempt_bind, run_askHost, Status.guard_of_error h]
  rfl

theorem requestFrame_of_asked (h : (askHost pci before.device.hardware).1.isError = false) :
    ((requestFrame pci).run.run before).1 =
      ((readFrame pci).run.run (afterAsking pci before)).1 := by
  rw [requestFrame, run_attempt_bind, run_askHost, Status.guard_of_success h]
  rfl

theorem run_bringUp (pci : PciAccess δ) (output : GraphicsOutput)
    (before : Platform (DisplayState δ) DisplayEvent) :
    ((bringUp pci output).run before).1 =
      match ((requestFrame pci).run.run before).1 with
      | .error failure => .error failure.status
      | .ok frame =>
        match output.attach frame with
        | (.error failure, _) => .error failure.status
        | (.ok _, attached) =>
          match attached.setMode 0 with
          | (.error status, _) => .error status
          | (.ok _, selected) => .ok selected := by
  simp only [bringUp, run_bind]
  cases ((requestFrame pci).run.run before).1 <;> rfl

/-- The host was asked, and the registers hold this description. -/
theorem requestFrame_of_reads {frame : HostFrame}
    (hasked : (askHost pci before.device.hardware).1.isError = false)
    (h : Reads pci 0x78860 (askHost pci before.device.hardware).2 (descriptionOf frame)) :
    ((requestFrame pci).run.run before).1 =
      if frame.Usable then .ok frame else .error .unusableFrame := by
  have hwords : ((readBlock pci (pageBase + frameOffset) 6).run.run (afterAsking pci before)).1 =
      .ok (descriptionOf frame) := run_readBlock_of_reads h rfl
  rw [requestFrame_of_asked hasked, readFrame, run_attempt_bind, hwords]
  show ((if frame.Usable then pure frame else throw .unusableFrame : Attempt δ _).run.run _).1 = _
  split <;> rfl

theorem bringUp_of_not_asked (output : GraphicsOutput)
    (h : (askHost pci before.device.hardware).1.isError = true) :
    ((bringUp pci output).run before).1 = .error (askHost pci before.device.hardware).1 := by
  rw [run_bringUp, requestFrame_of_not_asked h]
  rfl

theorem bringUp_of_not_read (output : GraphicsOutput) {status : Status}
    (hasked : (askHost pci before.device.hardware).1.isError = false)
    (h : ReadFails pci 0x78860 6 (askHost pci before.device.hardware).2 status) :
    ((bringUp pci output).run before).1 = .error status := by
  have hblock : ((readBlock pci (pageBase + frameOffset) 6).run.run (afterAsking pci before)).1 =
      .error (.registerAccess status) := run_readBlock_of_fails h rfl
  rw [run_bringUp, requestFrame_of_asked hasked, readFrame, run_attempt_bind, hblock]
  rfl

theorem bringUp_of_covers {config : DisplayConfig} {frame : HostFrame}
    (hasked : (askHost pci before.device.hardware).1.isError = false)
    (hread : Reads pci 0x78860 (askHost pci before.device.hardware).2 (descriptionOf frame))
    (hcovers : Covers config frame) :
    ((bringUp pci (.ofConfig config)).run before).1 = .ok (showing config frame) := by
  have husable := covers_iff.mp hcovers
  have hattach : (GraphicsOutput.ofConfig config).attach frame =
      (.ok (), { showing config frame with mode := GraphicsOutput.noMode }) := if_pos husable
  rw [run_bringUp, requestFrame_of_reads hasked hread, if_pos husable.1]
  dsimp only
  rw [hattach]
  rfl

theorem bringUp_of_not_covers {config : DisplayConfig} {frame : HostFrame}
    (hasked : (askHost pci before.device.hardware).1.isError = false)
    (hread : Reads pci 0x78860 (askHost pci before.device.hardware).2 (descriptionOf frame))
    (hcovers : ¬ Covers config frame) :
    ((bringUp pci (.ofConfig config)).run before).1 = .error .deviceError := by
  rw [run_bringUp, requestFrame_of_reads hasked hread]
  by_cases husable : frame.Usable
  · have hattach : (GraphicsOutput.ofConfig config).attach frame =
        (.error .unusableFrame, .ofConfig config) :=
      if_neg fun h => hcovers (covers_iff.mpr h)
    rw [if_pos husable]
    dsimp only
    rw [hattach]
    rfl
  · rw [if_neg husable]
    rfl

end BringUp

/-! ## Starts -/

section Start

variable (pci : PciAccess δ) (before : Platform (DisplayState δ) DisplayEvent)

/-- All stages of a start go well, and the host describes this frame buffer. -/
structure Granted (frame : HostFrame) : Prop where
  opened : (Services.nextAnswer before.services.opens).isError = false
  installed : (Services.nextAnswer before.services.installs).isError = false
  asked : (askHost pci before.device.hardware).1.isError = false
  read : Reads pci 0x78860 (askHost pci before.device.hardware).2 (descriptionOf frame)
  covers : Covers before.device.driver.config frame

/-- The first stage of a start that does not go well ends it with this status. -/
inductive Refused : Status → Prop
  | notOpened (herror : (Services.nextAnswer before.services.opens).isError = true) :
      Refused (Services.nextAnswer before.services.opens)
  | notInstalled (hopened : (Services.nextAnswer before.services.opens).isError = false)
      (herror : (Services.nextAnswer before.services.installs).isError = true) :
      Refused (Services.nextAnswer before.services.installs)
  | notAsked (hopened : (Services.nextAnswer before.services.opens).isError = false)
      (hinstalled : (Services.nextAnswer before.services.installs).isError = false)
      (herror : (askHost pci before.device.hardware).1.isError = true) :
      Refused (askHost pci before.device.hardware).1
  | notRead {status} (hopened : (Services.nextAnswer before.services.opens).isError = false)
      (hinstalled : (Services.nextAnswer before.services.installs).isError = false)
      (hasked : (askHost pci before.device.hardware).1.isError = false)
      (hfails : ReadFails pci 0x78860 6 (askHost pci before.device.hardware).2 status) :
      Refused status
  | notCovered {frame} (hopened : (Services.nextAnswer before.services.opens).isError = false)
      (hinstalled : (Services.nextAnswer before.services.installs).isError = false)
      (hasked : (askHost pci before.device.hardware).1.isError = false)
      (hread : Reads pci 0x78860 (askHost pci before.device.hardware).2 (descriptionOf frame))
      (hcovers : ¬ Covers before.device.driver.config frame) :
      Refused .deviceError

variable {pci before}

/-- A start is granted or refused. -/
theorem granted_or_refused (pci : PciAccess δ)
    (before : Platform (DisplayState δ) DisplayEvent) :
    (∃ frame, Granted pci before frame) ∨ ∃ status, Refused pci before status := by
  cases hopened : (Services.nextAnswer before.services.opens).isError with
  | true => exact Or.inr ⟨_, .notOpened hopened⟩
  | false =>
    cases hinstalled : (Services.nextAnswer before.services.installs).isError with
    | true => exact Or.inr ⟨_, .notInstalled hopened hinstalled⟩
    | false =>
      cases hasked : (askHost pci before.device.hardware).1.isError with
      | true => exact Or.inr ⟨_, .notAsked hopened hinstalled hasked⟩
      | false =>
        rcases reads_or_fails pci 0x78860 6 (askHost pci before.device.hardware).2 with
          ⟨words, hlength, hreads⟩ | ⟨status, hfails⟩
        · obtain ⟨frame, rfl⟩ := exists_descriptionOf hlength
          by_cases hcovers : Covers before.device.driver.config frame
          · exact Or.inl ⟨frame, hopened, hinstalled, hasked, hreads, hcovers⟩
          · exact Or.inr ⟨_, .notCovered hopened hinstalled hasked hreads hcovers⟩
        · exact Or.inr ⟨status, .notRead hopened hinstalled hasked hfails⟩

theorem isError_of_refused {status : Status} (h : Refused pci before status) :
    status.isError = true := by
  cases h with
  | notOpened herror => exact herror
  | notInstalled _ herror => exact herror
  | notAsked _ _ herror => exact herror
  | notRead _ _ _ hfails => exact isError_of_readFails hfails
  | notCovered => rfl

variable {controller : Handle}

theorem run_currentDriver (platform : Platform (DisplayState δ) DisplayEvent) :
    (currentDriver : DisplayM δ _).run platform = (platform.device.driver, platform) := rfl

/-- The platform inside a start, after the controller was opened. -/
def afterOpen (controller : Handle) (before : Platform (DisplayState δ) DisplayEvent) :
    Platform (DisplayState δ) DisplayEvent :=
  afterCall (Services.openProtocol controller .pciIo before.device.driver.agent)
    (entered .callback .startedDisplay before)

/-- The platform after an output was installed. -/
def afterInstall (controller : Handle) (ready : Platform (DisplayState δ) DisplayEvent) :
    Platform (DisplayState δ) DisplayEvent :=
  afterCall (Services.install controller .graphicsOutput ready.services.nextInterface)
    (afterMake ready)

theorem start_of_not_opened (hidle : before.device.driver.started = none)
    (herror : (Services.nextAnswer before.services.opens).isError = true) :
    ((start pci controller).run before).1 =
      .error (Services.nextAnswer before.services.opens) := by
  have hdriver : (entered .callback .startedDisplay before).device.driver.started = none := hidle
  have hanswer : (Services.nextAnswer
      (entered .callback .startedDisplay before).services.opens).guard () =
        .error (Services.nextAnswer before.services.opens) := Status.guard_of_error herror ()
  rw [start, run_withTpl_withLock]
  simp only [startLocked, run_bind, run_currentDriver, hdriver, run_openController, hanswer]
  rfl

theorem start_of_opened (hidle : before.device.driver.started = none)
    (hopened : (Services.nextAnswer before.services.opens).isError = false) :
    let ended := (startOpened pci before.device.driver.config controller).run
      (afterOpen controller before)
    (start pci controller).run before =
      (ended.1, exited before.services.tpl .startedDisplay ended.2) := by
  have hdriver : (entered .callback .startedDisplay before).device.driver.started = none := hidle
  have hanswer : (Services.nextAnswer
      (entered .callback .startedDisplay before).services.opens).guard () = .ok () :=
    Status.guard_of_success hopened ()
  rw [start, run_withTpl_withLock]
  simp only [startLocked, run_bind, run_currentDriver, hdriver, run_openController, hanswer]
  rfl

theorem startOpened_of_not_installed (config : DisplayConfig)
    {ready : Platform (DisplayState δ) DisplayEvent}
    (herror : (Services.nextAnswer ready.services.installs).isError = true) :
    ((startOpened pci config controller).run ready).1 =
      .error (Services.nextAnswer ready.services.installs) := by
  have hmade : (Services.nextAnswer (afterMake ready).services.installs).isError = true := herror
  obtain ⟨hanswer, -⟩ :=
    install_of_error controller .graphicsOutput ready.services.nextInterface hmade
  simp only [startOpened, run_bind, run_makeInterface, run_call, hanswer]
  rfl

theorem startOpened_of_installed (config : DisplayConfig)
    {ready : Platform (DisplayState δ) DisplayEvent}
    (hinstalled : (Services.nextAnswer ready.services.installs).isError = false) :
    (startOpened pci config controller).run ready =
      (startInstalled pci config controller ready.services.nextInterface).run
        (afterInstall controller ready) := by
  have hmade : (Services.nextAnswer (afterMake ready).services.installs).isError = false :=
    hinstalled
  obtain ⟨handle, -, hanswer, -⟩ :=
    install_of_success controller .graphicsOutput ready.services.nextInterface hmade
  simp only [startOpened, run_bind, run_makeInterface, run_call, hanswer]
  rfl

theorem startInstalled_of_error {config : DisplayConfig} {interface : Interface} {status : Status}
    {installed : Platform (DisplayState δ) DisplayEvent}
    (h : ((bringUp pci (.ofConfig config)).run installed).1 = .error status) :
    ((startInstalled pci config controller interface).run installed).1 = .error status := by
  simp only [startInstalled, run_bind, h]
  rfl

theorem startInstalled_of_ok {config : DisplayConfig} {interface : Interface}
    {output : GraphicsOutput} {installed : Platform (DisplayState δ) DisplayEvent}
    (h : ((bringUp pci (.ofConfig config)).run installed).1 = .ok output) :
    ((startInstalled pci config controller interface).run installed).1 = .ok () ∧
      ((startInstalled pci config controller interface).run installed).2.device.driver.started =
        some ⟨controller, output, interface⟩ := by
  simp only [startInstalled, run_bind, h]
  exact ⟨rfl, rfl⟩

/-- The output is brought up on a device that nobody has used since the start began. -/
theorem start_of_installed (hidle : before.device.driver.started = none)
    (hopened : (Services.nextAnswer before.services.opens).isError = false)
    (hinstalled : (Services.nextAnswer before.services.installs).isError = false) :
    let ended := (startInstalled pci before.device.driver.config controller
      before.services.nextInterface).run (afterInstall controller (afterOpen controller before))
    (start pci controller).run before =
      (ended.1, exited before.services.tpl .startedDisplay ended.2) := by
  have hready : (Services.nextAnswer (afterOpen controller before).services.installs).isError =
      false := hinstalled
  intro ended
  rw [start_of_opened hidle hopened, startOpened_of_installed _ hready]
  rfl

theorem start_of_granted (controller : Handle) {frame : HostFrame}
    (hidle : before.device.driver.started = none) (h : Granted pci before frame) :
    ((start pci controller).run before).1 = .ok () ∧
      ((start pci controller).run before).2.device.driver.started =
        some ⟨controller, showing before.device.driver.config frame,
          before.services.nextInterface⟩ := by
  rw [start_of_installed hidle h.opened h.installed]
  exact startInstalled_of_ok (bringUp_of_covers h.asked h.read h.covers)

theorem start_of_refused {status : Status} (hidle : before.device.driver.started = none)
    (h : Refused pci before status) :
    ((start pci controller).run before).1 = .error status := by
  cases h with
  | notOpened herror => exact start_of_not_opened hidle herror
  | notInstalled hopened herror =>
    rw [start_of_opened hidle hopened]
    exact startOpened_of_not_installed _ herror
  | notAsked hopened hinstalled herror =>
    rw [start_of_installed hidle hopened hinstalled]
    exact startInstalled_of_error (bringUp_of_not_asked _ herror)
  | notRead hopened hinstalled hasked hfails =>
    rw [start_of_installed hidle hopened hinstalled]
    exact startInstalled_of_error (bringUp_of_not_read _ hasked hfails)
  | notCovered hopened hinstalled hasked hread hcovers =>
    rw [start_of_installed hidle hopened hinstalled]
    exact startInstalled_of_error (bringUp_of_not_covers hasked hread hcovers)

/-- A start that goes well installs one interface, on its controller. -/
theorem installed_of_exit {driver : DisplayDriver} {interface next : Interface} {previous : Tpl}
    {events : List (Event DisplayEvent)} {held : Option Started} (hidle : driver.started = none)
    (h : Exit driver interface previous (.start controller) (.ok ()) events held next) :
    ∃ shown handle, held = some shown ∧ (controller ≠ 0 → handle = controller) ∧
      ∀ installed, events.foldl Event.installedAfter installed =
        installed ++ [⟨handle, .graphicsOutput, shown.interface⟩] := by
  cases h with
  | busy hstarted => exact absurd hidle hstarted
  | started _ hopened hhandle hinstalled hreads hmode hbase =>
    refine ⟨_, _, rfl, hhandle, fun installed => ?_⟩
    simp [bracketed, Event.installedAfter, Used.installedAfter_accesses, hinstalled]

theorem installed_of_started (hidle : before.device.driver.started = none)
    (h : ((start pci controller).run before).1 = .ok ()) :
    ∃ held handle, ((start pci controller).run before).2.device.driver.started = some held ∧
      (controller ≠ 0 → handle = controller) ∧
      ((start pci controller).run before).2.services.installed =
        before.services.installed ++ [⟨handle, .graphicsOutput, held.interface⟩] := by
  obtain ⟨events, hexited⟩ := exit_run pci (.start controller) before
  have hexit := hexited.exit
  rw [show ((BindingCall.run pci (.start controller)).run before).1 = .ok () from h] at hexit
  obtain ⟨held, handle, hheld, hhandle, hinstalled⟩ := installed_of_exit hidle hexit
  exact ⟨held, handle, hheld, hhandle, hexited.logged.installed.trans (hinstalled _)⟩

theorem start_eq_error_iff (hidle : before.device.driver.started = none) {status : Status} :
    ((start pci controller).run before).1 = .error status ↔ Refused pci before status := by
  refine ⟨fun herror => ?_, start_of_refused hidle⟩
  rcases granted_or_refused pci before with ⟨frame, hgranted⟩ | ⟨other, hother⟩
  · cases herror.symm.trans (start_of_granted controller hidle hgranted).1
  · cases herror.symm.trans (start_of_refused hidle hother)
    exact hother

theorem start_eq_ok_iff (hidle : before.device.driver.started = none) :
    ((start pci controller).run before).1 = .ok () ↔ ∃ frame, Granted pci before frame := by
  constructor
  · intro hok
    rcases granted_or_refused pci before with hgranted | ⟨status, hrefused⟩
    · exact hgranted
    · cases hok.symm.trans (start_of_refused hidle hrefused)
  · rintro ⟨frame, hgranted⟩
    exact (start_of_granted controller hidle hgranted).1

end Start

/-- A start of an idle driver goes well exactly when all of its stages do, and then it
publishes an output in front of the frame buffer of the host.  It ends with a status
exactly when this is the status of the first stage that does not go well, and this is
always an error. -/
theorem start_decides (pci : PciAccess δ) (controller : Handle)
    (before : Platform (DisplayState δ) DisplayEvent)
    (hidle : before.device.driver.started = none) :
    let ended := (start pci controller).run before
    (ended.1 = .ok () ↔ ∃ frame, Granted pci before frame) ∧
    (∀ frame, Granted pci before frame →
      ∃ held handle, ended.2.device.driver.started = some held ∧ held.controller = controller ∧
        (controller ≠ 0 → handle = controller) ∧
        ended.2.services.installed =
          before.services.installed ++ [⟨handle, .graphicsOutput, held.interface⟩] ∧
        held.output.mode = 0 ∧ held.output.frameBufferBase.toNat = frame.base.toNat ∧
        held.output.frameBufferSize = frame.size.toNat ∧
        held.output.info.pixelsPerScanLine.toNat = frame.pitch.toNat / 4) ∧
    (∀ status, ended.1 = .error status ↔ Refused pci before status) ∧
    ∀ status, ended.1 = .error status → status.isError = true := by
  intro ended
  refine ⟨start_eq_ok_iff hidle, ?_, fun status => start_eq_error_iff hidle, ?_⟩
  · intro frame hgranted
    obtain ⟨hok, hstarted⟩ := start_of_granted controller hidle hgranted
    obtain ⟨held, handle, hheld, hhandle, hinstalled⟩ := installed_of_started hidle hok
    cases hstarted.symm.trans hheld
    refine ⟨_, handle, hstarted, rfl, hhandle, hinstalled, rfl, UInt32.toNat_toUInt64 _, rfl, ?_⟩
    exact UInt32.toNat_div frame.pitch 4
  · intro status herror
    exact isError_of_refused ((start_eq_error_iff hidle).mp herror)

/-- A frame buffer that is wider than the mode and has a gap behind each line. -/
def wideFrame : HostFrame :=
  ⟨0x80000000, 1280, 1024, 8192, 32, 0x800000⟩

/-- A driver in front of a device whose host lends that frame buffer.  The registers
answer reads with statuses. -/
def wideHost (readAnswers : UInt64 → Status) :
    Platform (DisplayState MediatedDevice) DisplayEvent :=
  unstarted {} {} 0 0
    { vendorWord := 0x59128086, classWord := 0x03000000, registers := fun _ => 0,
      frame := some wideFrame, readAnswers := readAnswers }

/-- The fourth word of a description cannot be read. -/
def fourthFails (offset : UInt64) : Status :=
  if offset = 0x7886C then .deviceError else .success

theorem start_decides_wideHost :
    (wideHost fun _ => .success).device.driver.started = none ∧
      Granted MediatedDevice.access (wideHost fun _ => .success) wideFrame ∧
      ((start MediatedDevice.access 0x1000).run (wideHost fun _ => .success)).1 = .ok () ∧
      (∃ held, ((start MediatedDevice.access 0x1000).run
          (wideHost fun _ => .success)).2.device.driver.started = some held ∧
        held.output.info.pixelsPerScanLine.toNat = 2048) ∧
      (wideHost fourthFails).device.driver.started = none ∧
      ((start MediatedDevice.access 0x1000).run (wideHost fourthFails)).1 = .error .deviceError ∧
      Status.deviceError.isError = true := by
  have hgranted : Granted MediatedDevice.access (wideHost fun _ => .success) wideFrame := by
    refine ⟨rfl, rfl, rfl, ?_, ?_⟩
    · exact .cons rfl (.cons rfl (.cons rfl (.cons rfl (.cons rfl (.cons rfl .nil)))))
    · constructor <;> decide
  have hrefused : Refused MediatedDevice.access (wideHost fourthFails) .deviceError :=
    .notRead rfl rfl rfl (.later rfl (.later rfl (.later rfl (.first rfl))))
  obtain ⟨hok, hshown, -, -⟩ :=
    start_decides MediatedDevice.access 0x1000 (wideHost fun _ => .success) rfl
  obtain ⟨-, -, herror, hisError⟩ :=
    start_decides MediatedDevice.access 0x1000 (wideHost fourthFails) rfl
  obtain ⟨held, handle, hheld, -, -, -, -, -, -, hline⟩ := hshown wideFrame hgranted
  have hfailed := (herror .deviceError).mpr hrefused
  exact ⟨rfl, hgranted, hok.mpr ⟨wideFrame, hgranted⟩, ⟨held, hheld, hline⟩, rfl, hfailed,
    hisError .deviceError hfailed⟩

end GuestFirmware.Display
