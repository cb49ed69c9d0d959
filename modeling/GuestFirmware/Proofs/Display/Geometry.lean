import GuestFirmware.Proofs.Display.Drawing

/-!
# The geometry of a graphics output

An output takes the size of its mode from the configuration and its frame buffer
from the host.  `Shaped` relates the two: the scan lines are at least as long as
the mode is wide, and a frame buffer that was attached holds all of them.

`OutputCall` is a call of an output.  `shaped_run` is one call and `shaped_runs`
is a list of calls, made on any platform.  `blt_of_shaped` is a transfer with an output
that was attached: it ends as a transfer in the frame buffer does, and it stays inside.
`geometry_after` joins these.
-/

namespace GuestFirmware.Display

open PlatformM

variable {δ : Type}

/-! ## Calls -/

/-- A call of a graphics output.  The memory of a transfer holds what its host
and its caller put there. -/
inductive OutputCall
  | attach (frame : HostFrame)
  | setMode (number : UInt32)
  | queryMode (number : UInt32)
  | blt (request : Request) (hasBuffer : Bool) (memory : PixelMemory)

/-- Makes a call.  Answers how it ended and the output after it. -/
def OutputCall.run (output : GraphicsOutput) :
    OutputCall → DisplayM δ (Except Status Unit × GraphicsOutput)
  | attach frame =>
    let (result, output) := output.attach frame
    return (result.mapError DisplayError.status, output)
  | setMode number => return output.setMode number
  | queryMode number => do
    let result ← output.queryMode number
    return (result.map fun _ => (), output)
  | blt request hasBuffer memory => do
    updateMemory fun _ => memory
    output.blt request hasBuffer

/-- Makes calls one after the other.  Answers how each ended and the output after
them. -/
def runOutputCalls (output : GraphicsOutput) :
    List OutputCall → DisplayM δ (List (Except Status Unit) × GraphicsOutput)
  | [] => return ([], output)
  | made :: rest => do
    let (answer, output) ← made.run output
    let (answers, output) ← runOutputCalls output rest
    return (answer :: answers, output)

/-- An attach succeeded among calls with their answers. -/
def Attached (calls : List OutputCall) (answers : List (Except Status Unit)) : Prop :=
  ∃ frame, (OutputCall.attach frame, Except.ok ()) ∈ calls.zip answers

/-! ## The shape of an output -/

/-- An output of a configuration, to which a frame buffer was attached or not and
of which the mode was selected or not. -/
structure Shaped (config : DisplayConfig) (attached selected : Prop)
    (output : GraphicsOutput) : Prop where
  horizontal : output.info.horizontal = config.horizontal
  vertical : output.info.vertical = config.vertical
  maxMode : output.maxMode = 1
  modeSet : selected → output.mode = 0
  modeUnset : ¬ selected → output.mode = 0xFFFF
  wide : config.horizontal.toNat ≤ output.info.pixelsPerScanLine.toNat
  base : output.frameBufferBase = 0 ↔ ¬ attached
  lines : attached → output.info.pixelsPerScanLine.toNat * config.vertical.toNat ≤
    output.frameBufferSize / 4

theorem shaped_ofConfig (config : DisplayConfig) :
    Shaped config False False (.ofConfig config) where
  horizontal := rfl
  vertical := rfl
  maxMode := rfl
  modeSet := False.elim
  modeUnset _ := rfl
  wide := Nat.le_refl _
  base := ⟨fun _ => id, fun _ => rfl⟩
  lines := False.elim

variable {config : DisplayConfig} {attached selected : Prop} {output : GraphicsOutput}

theorem Shaped.congr {attached' selected' : Prop} (h : Shaped config attached selected output)
    (hattached : attached ↔ attached') (hselected : selected ↔ selected') :
    Shaped config attached' selected' output := by
  rw [propext hattached, propext hselected] at h
  exact h

/-- The scan lines of a usable frame buffer that covers a mode hold the mode. -/
theorem scanLines_of_usable {frame : HostFrame} (h : frame.Usable) {width height : UInt32}
    (hwidth : width ≤ frame.width) (hheight : height ≤ frame.height) :
    width.toNat ≤ (frame.pitch / 4).toNat ∧
      (frame.pitch / 4).toNat * height.toNat ≤ frame.size.toNat / 4 := by
  obtain ⟨-, -, -, -, hwhole, hpitch, hsize⟩ := h
  have hpixels : (frame.pitch / 4).toNat = frame.pitch.toNat / 4 := by
    rw [UInt32.toNat_div]
    rfl
  have hwide : width.toNat ≤ frame.width.toNat := UInt32.le_iff_toNat_le.mp hwidth
  have hhigh : height.toNat ≤ frame.height.toNat := UInt32.le_iff_toNat_le.mp hheight
  rw [hpixels]
  refine ⟨by omega, ?_⟩
  rw [Nat.le_div_iff_mul_le (by decide)]
  calc frame.pitch.toNat / 4 * height.toNat * 4
      = frame.pitch.toNat / 4 * 4 * height.toNat := Nat.mul_right_comm _ _ _
    _ = frame.pitch.toNat * height.toNat := by
        rw [Nat.div_mul_cancel (Nat.dvd_of_mod_eq_zero hwhole)]
    _ ≤ frame.pitch.toNat * frame.height.toNat := Nat.mul_le_mul_left _ hhigh
    _ ≤ frame.size.toNat := hsize

theorem attach_cases (frame : HostFrame) (output : GraphicsOutput) :
    (frame.Usable ∧ output.info.horizontal ≤ frame.width ∧ output.info.vertical ≤ frame.height ∧
        output.attach frame = (.ok (), { output with
          frameBufferBase := frame.base.toUInt64
          frameBufferSize := frame.size.toNat
          info := { output.info with pixelsPerScanLine := frame.pitch / 4 } })) ∨
      output.attach frame = (.error .unusableFrame, output) := by
  unfold GraphicsOutput.attach
  split
  · next hcovers => exact .inl ⟨hcovers.1, hcovers.2.1, hcovers.2.2, rfl⟩
  · exact .inr rfl

theorem shaped_attach (h : Shaped config attached selected output) {frame : HostFrame}
    {shown : GraphicsOutput} (hattach : output.attach frame = (.ok (), shown)) :
    Shaped config True selected shown := by
  rcases attach_cases frame output with ⟨husable, hwidth, hheight, hshown⟩ | hrefused
  · cases hattach.symm.trans hshown
    rw [h.horizontal] at hwidth
    rw [h.vertical] at hheight
    obtain ⟨hwide, hlines⟩ := scanLines_of_usable husable hwidth hheight
    refine ⟨h.horizontal, h.vertical, h.maxMode, h.modeSet, h.modeUnset, hwide, ?_, ?_⟩
    · exact ⟨fun hbase => absurd hbase husable.address_ne_zero, fun hnot => absurd trivial hnot⟩
    · intro _
      exact hlines
  · cases hattach.symm.trans hrefused

/-- The only mode is mode zero. -/
theorem maxMode_le_iff (h : Shaped config attached selected output) (number : UInt32) :
    output.maxMode ≤ number ↔ number ≠ 0 := by
  have hzero : number = 0 ↔ number.toNat = 0 := UInt32.toNat_inj.symm
  rw [h.maxMode, UInt32.le_iff_toNat_le, Ne, hzero]
  exact Nat.one_le_iff_ne_zero

theorem shaped_setMode (h : Shaped config attached selected output) {number : UInt32}
    {shown : GraphicsOutput} (hselect : output.setMode number = (.ok (), shown)) :
    number = 0 ∧ Shaped config attached True shown := by
  unfold GraphicsOutput.setMode at hselect
  split at hselect
  · cases hselect
  · next hbelow =>
    cases hselect
    have hzero : number = 0 :=
      Decidable.not_not.mp fun hother => hbelow ((maxMode_le_iff h number).mpr hother)
    refine ⟨hzero, h.horizontal, h.vertical, h.maxMode, fun _ => hzero, ?_, h.wide, h.base,
      h.lines⟩
    intro hnot
    exact absurd trivial hnot

/-- A mode that cannot be selected is not mode zero, and the output stays as it is. -/
theorem setMode_of_error {number : UInt32} {status : Status} {shown : GraphicsOutput}
    (hselect : output.setMode number = (.error status, shown)) :
    output.maxMode ≤ number ∧ shown = output := by
  unfold GraphicsOutput.setMode at hselect
  split at hselect
  · next habove =>
    cases hselect
    exact ⟨habove, rfl⟩
  · cases hselect

/-! ## Runs -/

theorem attached_singleton {made : OutputCall} {answer : Except Status Unit} :
    Attached [made] [answer] ↔ (∃ frame, made = .attach frame) ∧ answer = .ok () := by
  simp [Attached, eq_comm]

theorem attached_cons {made : OutputCall} {rest : List OutputCall} {answer : Except Status Unit}
    {answers : List (Except Status Unit)} :
    Attached (made :: rest) (answer :: answers) ↔
      Attached [made] [answer] ∨ Attached rest answers := by
  simp [Attached, exists_or]

/-- A transfer answers the output that it was called with. -/
theorem output_of_blt (output : GraphicsOutput) (request : Request) (hasBuffer : Bool)
    (platform : Platform (DisplayState δ) DisplayEvent) :
    ((output.blt request hasBuffer).run platform).1.2 = output := by
  by_cases hadmits : output.Admits request hasBuffer platform.device.memory.video
  · obtain ⟨frame, hframe⟩ := hadmits.framed
    rw [GraphicsOutput.run_blt_of_frame hadmits hframe]
  · by_cases hbase : output.frameBufferBase = 0
    · rw [GraphicsOutput.blt_of_detached hbase]
    · rw [GraphicsOutput.blt_of_not_admits hbase hadmits]

/-- How a call leaves the output: attached, or selected, or as it was. -/
theorem run_cases (made : OutputCall) (output : GraphicsOutput)
    (platform : Platform (DisplayState δ) DisplayEvent) :
    let ended := ((made.run output).run platform).1
    (∃ frame, made = .attach frame ∧ ended.1 = .ok () ∧
      output.attach frame = (.ok (), ended.2)) ∨
    (∃ number, made = .setMode number ∧ ended.1 = .ok () ∧
      output.setMode number = (.ok (), ended.2)) ∨
    (ended.2 = output ∧ (∀ frame, made = .attach frame → ended.1 ≠ .ok ()) ∧
      ∀ number, made = .setMode number → output.maxMode ≤ number) := by
  cases made with
  | attach frame =>
    rcases attach_cases frame output with ⟨-, -, -, hshown⟩ | hrefused
    · refine .inl ⟨frame, rfl, ?_, ?_⟩
      · simp only [OutputCall.run, hshown]
        rfl
      · simp only [OutputCall.run, hshown]
        rfl
    · simp only [OutputCall.run, hrefused]
      exact .inr (.inr ⟨rfl, fun other _ => nofun, nofun⟩)
  | setMode number =>
    simp only [OutputCall.run]
    rcases hselect : output.setMode number with ⟨status | done, shown⟩
    · obtain ⟨habove, hsame⟩ := setMode_of_error hselect
      refine .inr (.inr ⟨hsame, nofun, ?_⟩)
      rintro other ⟨⟩
      exact habove
    · exact .inr (.inl ⟨number, rfl, rfl, hselect⟩)
  | queryMode number => exact .inr (.inr ⟨rfl, nofun, nofun⟩)
  | blt request hasBuffer memory => exact .inr (.inr ⟨output_of_blt output _ _ _, nofun, nofun⟩)

theorem output_of_error {made : OutputCall} {platform : Platform (DisplayState δ) DisplayEvent}
    {status : Status} (hfailed : ((made.run output).run platform).1.1 = .error status) :
    ((made.run output).run platform).1.2 = output := by
  rcases run_cases made output platform with ⟨frame, rfl, hok, hattach⟩ |
    ⟨number, rfl, hok, hselect⟩ | ⟨hsame, -, -⟩
  · rw [hok] at hfailed
    cases hfailed
  · rw [hok] at hfailed
    cases hfailed
  · exact hsame

theorem shaped_run (h : Shaped config attached selected output) (made : OutputCall)
    (platform : Platform (DisplayState δ) DisplayEvent) :
    let ended := ((made.run output).run platform).1
    Shaped config (attached ∨ Attached [made] [ended.1]) (selected ∨ made = .setMode 0) ended.2 := by
  intro ended
  rcases run_cases made output platform with ⟨frame, rfl, hok, hattach⟩ |
    ⟨number, rfl, hok, hselect⟩ | ⟨hsame, hattach, hselect⟩
  · refine (shaped_attach h hattach).congr ?_ ?_
    · simp [attached_singleton, ended, hok]
    · simp
  · obtain ⟨rfl, hshown⟩ := shaped_setMode h hselect
    refine hshown.congr ?_ ?_
    · simp [attached_singleton]
    · simp
  · have hnone : ¬ Attached [made] [ended.1] := by
      rw [attached_singleton]
      rintro ⟨⟨frame, hframe⟩, hok⟩
      exact hattach frame hframe hok
    have hother : made ≠ .setMode 0 := by
      intro hzero
      exact (maxMode_le_iff h 0).mp (hselect 0 hzero) rfl
    have hended : ended.2 = output := hsame
    rw [hended]
    exact h.congr (by simp [hnone]) (by simp [hother])

theorem shaped_runs (h : Shaped config attached selected output) (calls : List OutputCall)
    (platform : Platform (DisplayState δ) DisplayEvent) :
    let ended := ((runOutputCalls output calls).run platform).1
    Shaped config (attached ∨ Attached calls ended.1) (selected ∨ .setMode 0 ∈ calls) ended.2 := by
  induction calls generalizing output attached selected platform with
  | nil => exact h.congr (by simp [Attached]) (by simp)
  | cons made rest ih =>
    have hfirst := shaped_run h made platform
    have hrest := ih hfirst ((made.run output).run platform).2
    refine hrest.congr ?_ ?_
    · rw [or_assoc]
      exact or_congr_right attached_cons.symm
    · rw [or_assoc, List.mem_cons, eq_comm]

/-! ## Transfers -/

theorem frameBuffer_of_shaped (h : Shaped config attached selected output) (hattached : attached)
    {video : Pixels} (hvideo : video.size = output.frameBufferSize / 4) :
    ∃ frame, output.frameBuffer video = .ok frame ∧ frame.pixels = video := by
  have hwide : output.info.horizontal.toNat ≤ output.info.pixelsPerScanLine.toNat := by
    rw [h.horizontal]
    exact h.wide
  have hlines : output.info.pixelsPerScanLine.toNat * output.info.vertical.toNat ≤ video.size := by
    rw [h.vertical, hvideo]
    exact h.lines hattached
  exact ⟨_, dif_pos ⟨hwide, hlines⟩, rfl⟩

/-- A transfer in a frame buffer does not complain about the frame buffer. -/
theorem transfer_ne_invalidFrameBuffer (request : Request) (canvas : Canvas) :
    (transfer request canvas).1 ≠ .error .invalidFrameBuffer := by
  rw [transfer_byOperation]
  cases hlength : request.bufferLength with
  | error failure =>
    unfold Request.bufferLength Request.bufferExtent at hlength
    intro hfailure
    cases hfailure
    grind
  | ok needed =>
    dsimp only
    split
    · simp
    · unfold fill copyOut copyIn move
      grind

/-- A transfer is answered with a device error exactly when the output has no
frame buffer. -/
theorem blt_eq_deviceError_iff (output : GraphicsOutput) (request : Request) (hasBuffer : Bool)
    (platform : Platform (DisplayState δ) DisplayEvent) :
    ((output.blt request hasBuffer).run platform).1.1 = .error .deviceError ↔
      output.frameBufferBase = 0 := by
  have hother : Except.error Status.invalidParameter ≠ (.error .deviceError : Except Status Unit) :=
    fun h => absurd (Except.error.inj h) (by decide)
  by_cases hbase : output.frameBufferBase = 0
  · rw [GraphicsOutput.blt_of_detached hbase]
    exact iff_of_true rfl hbase
  · refine iff_of_false ?_ hbase
    by_cases hadmits : output.Admits request hasBuffer platform.device.memory.video
    · obtain ⟨frame, hframe⟩ := hadmits.framed
      rw [(GraphicsOutput.transferred_blt hadmits hframe).1]
      rcases (transfer request ⟨frame, platform.device.memory.buffer⟩).1 with failure | done
      · exact hother
      · exact nofun
    · rw [GraphicsOutput.blt_of_not_admits hbase hadmits]
      exact hother

theorem ofResult_eq_deviceError_iff (result : Except Status Unit) :
    Status.ofResult result = .deviceError ↔ result = .error .deviceError := by
  cases result with
  | ok done =>
    have hsuccess : Status.success ≠ .deviceError := by decide
    exact iff_of_false hsuccess (by simp)
  | error status => simp [Status.ofResult]

theorem protocolBlt_eq_deviceError_iff (output : GraphicsOutput) {code : UInt32}
    {operation : Operation} (hcode : Operation.ofCode code = .ok operation)
    (request : Operation → Request) (hasBuffer : Bool)
    (platform : Platform (DisplayState δ) DisplayEvent) :
    ((GraphicsOutput.protocolBlt (some output) code request hasBuffer).run platform).1.1 =
      .deviceError ↔ output.frameBufferBase = 0 := by
  have hanswer : ((GraphicsOutput.protocolBlt (some output) code request hasBuffer).run
      platform).1.1 =
        .ofResult ((output.blt (request operation) hasBuffer).run platform).1.1 := by
    simp only [GraphicsOutput.protocolBlt, hcode]
    rfl
  rw [hanswer, ofResult_eq_deviceError_iff, blt_eq_deviceError_iff]

/-- The caller gave a buffer, or none is needed. -/
def Supplied (request : Request) (hasBuffer : Bool) : Prop :=
  hasBuffer = true ∨ request.bufferLength = .ok 0

/-- The number of pixels on each side of a transfer: those that the host lent, and those of
the caller. -/
def pixelsOf (output : GraphicsOutput) (buffer : Pixels) : Side → Nat
  | .video => output.frameBufferSize / 4
  | .buffer => buffer.size

/-- A call of `blt` in a frame buffer.  With all that is needed it answers and leaves in
memory what a transfer in this frame buffer does, and otherwise it is refused.  The frame
buffer is not found fault with.  All accesses to the device are to pixels that are there. -/
structure BltInside (output : GraphicsOutput) (frame : FrameBuffer) (request : Request)
    (hasBuffer : Bool) (before : Platform (DisplayState δ) DisplayEvent) : Prop where
  supplied : Supplied request hasBuffer →
    ((output.blt request hasBuffer).run before).1.1 =
        (transfer request ⟨frame, before.device.memory.buffer⟩).1.mapError BltError.status ∧
      ((output.blt request hasBuffer).run before).2.device.memory =
        (transfer request ⟨frame, before.device.memory.buffer⟩).2.memory
  missing : ¬ Supplied request hasBuffer →
    (output.blt request hasBuffer).run before = ((.error .invalidParameter, output), before)
  framed : (transfer request ⟨frame, before.device.memory.buffer⟩).1 ≠ .error .invalidFrameBuffer
  inside : ∃ events,
    ((output.blt request hasBuffer).run before).2.trace = before.trace ++ events ∧
      ∀ access, .device access ∈ events →
        access.Inside (pixelsOf output before.device.memory.buffer)

theorem mem_of_mem_raisedTo {level previous : Tpl} {accesses : List DisplayEvent}
    {access : DisplayEvent}
    (h : .device access ∈ raisedTo level previous (accesses.map Event.device)) :
    access ∈ accesses := by
  simpa [raisedTo] using h

theorem bltInside_of_shaped (h : Shaped config attached selected output) (hattached : attached)
    {before : Platform (DisplayState δ) DisplayEvent}
    (hvideo : before.device.memory.video.size = output.frameBufferSize / 4) (request : Request)
    (hasBuffer : Bool) :
    ∃ frame, output.frameBuffer before.device.memory.video = .ok frame ∧
      frame.pixels = before.device.memory.video ∧
      BltInside output frame request hasBuffer before := by
  obtain ⟨frame, hframe, hpixels⟩ := frameBuffer_of_shaped h hattached hvideo
  have hbase : output.frameBufferBase ≠ 0 := fun hzero => h.base.mp hzero hattached
  have hmemory : before.device.memory = Canvas.memory ⟨frame, before.device.memory.buffer⟩ := by
    rw [Canvas.memory, hpixels]
  have hsize : before.device.memory.size = pixelsOf output before.device.memory.buffer := by
    funext side
    cases side with
    | video => exact hvideo
    | buffer => rfl
  refine ⟨frame, hframe, hpixels, ?_⟩
  by_cases hadmits : output.Admits request hasBuffer before.device.memory.video
  · obtain ⟨hanswer, accesses, htransferred⟩ := GraphicsOutput.transferred_blt hadmits hframe
    refine ⟨fun _ => ⟨congrArg Prod.fst hanswer, htransferred.result⟩, fun hmissing => ?_,
      transfer_ne_invalidFrameBuffer _ _, _, htransferred.raised.trace, ?_⟩
    · obtain ⟨needed, hneeded, hgiven⟩ := hadmits.buffered
      refine absurd ?_ hmissing
      rcases Nat.eq_zero_or_pos needed with rfl | hpos
      · exact .inr hneeded
      · exact .inl (hgiven hpos)
    · intro access haccess
      rw [← hsize]
      exact htransferred.inside access (mem_of_mem_raisedTo haccess)
  · have hrefused := GraphicsOutput.blt_of_not_admits hbase hadmits
    refine ⟨fun hsupplied => ?_, fun _ => hrefused, transfer_ne_invalidFrameBuffer _ _, [], ?_,
      fun access haccess => absurd haccess List.not_mem_nil⟩
    · -- What is missing is not the buffer, so the request has no length.
      cases hlength : request.bufferLength with
      | error failure =>
        rw [hrefused, transfer_byOperation, hlength]
        exact ⟨rfl, hmemory⟩
      | ok needed =>
        refine absurd ⟨hbase, ⟨needed, hlength, fun hpos => ?_⟩, frame, hframe⟩ hadmits
        rcases hsupplied with hgiven | hnone
        · exact hgiven
        · cases hlength.symm.trans hnone
          exact absurd hpos (Nat.lt_irrefl 0)
    · rw [hrefused, List.append_nil]

/-- After any calls of an output, its geometry is that of the configuration and
of the frame buffer that was attached.  Then a transfer finds its frame buffer, ends
as a transfer in it does and stays inside, and it is answered with a device error
only in front of the first attach.  A call that fails leaves the output alone. -/
theorem geometry_after (config : DisplayConfig) (calls : List OutputCall)
    (platform : Platform (DisplayState δ) DisplayEvent) :
    let ended := ((runOutputCalls (.ofConfig config) calls).run platform).1
    let attached := Attached calls ended.1
    let now := ended.2
    now.info.horizontal = config.horizontal ∧ now.info.vertical = config.vertical ∧
    now.maxMode = 1 ∧
    (.setMode 0 ∈ calls → now.mode = 0) ∧ (.setMode 0 ∉ calls → now.mode = 0xFFFF) ∧
    now.info.horizontal.toNat ≤ now.info.pixelsPerScanLine.toNat ∧
    (now.frameBufferBase = 0 ↔ ¬ attached) ∧
    (attached → now.info.pixelsPerScanLine.toNat * now.info.vertical.toNat ≤
      now.frameBufferSize / 4) ∧
    (attached → ∀ request hasBuffer (later : Platform (DisplayState δ) DisplayEvent),
      later.device.memory.video.size = now.frameBufferSize / 4 →
      ∃ frame, now.frameBuffer later.device.memory.video = .ok frame ∧
        frame.pixels = later.device.memory.video ∧
        BltInside now frame request hasBuffer later) ∧
    (∀ code operation, Operation.ofCode code = .ok operation →
      ∀ request hasBuffer (later : Platform (DisplayState δ) DisplayEvent),
        ((GraphicsOutput.protocolBlt (some now) code request hasBuffer).run later).1.1 =
          .deviceError ↔ ¬ attached) ∧
    ∀ (made : OutputCall) (later : Platform (DisplayState δ) DisplayEvent) status,
      ((made.run now).run later).1.1 = .error status → ((made.run now).run later).1.2 = now := by
  intro ended attached now
  have hshaped : Shaped config attached (.setMode 0 ∈ calls) now :=
    (shaped_runs (shaped_ofConfig config) calls platform).congr (by simp [attached, ended])
      (by simp)
  refine ⟨hshaped.horizontal, hshaped.vertical, hshaped.maxMode, hshaped.modeSet,
    hshaped.modeUnset, ?_, hshaped.base, ?_, ?_, ?_, ?_⟩
  · rw [hshaped.horizontal]
    exact hshaped.wide
  · intro hattached
    rw [hshaped.vertical]
    exact hshaped.lines hattached
  · intro hattached request hasBuffer later hvideo
    exact bltInside_of_shaped hshaped hattached hvideo request hasBuffer
  · intro code operation hcode request hasBuffer later
    rw [protocolBlt_eq_deviceError_iff now hcode, hshaped.base]
  · intro made later status hfailed
    exact output_of_error hfailed

end GuestFirmware.Display
