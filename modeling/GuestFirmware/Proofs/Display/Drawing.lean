import GuestFirmware.Display.Protocol
import GuestFirmware.Proofs.Display.Bounds
import GuestFirmware.Proofs.Platform.Scope

/-!
# Transfers on a platform

On a platform a transfer reads and writes the pixels in memory, and each row leaves an
access on the trace.  This module relates it to the transfer between two arrays.

* `Drew` says that nothing but pixels was used between two platforms.  It names the
  accesses, and the pixels afterwards are those that the accesses wrote (`drawn`).
* `Mirrors` says that a program on a platform answers and leaves in memory what a program
  on arrays does, and that its accesses stay inside the pixels.  `Mirrors.bind` and
  `Mirrors.forM` build such programs, and `mirrors_run` is the whole transfer.
* `GraphicsOutput.Admits` are the checks that an output makes in front of a transfer.
  `transferred_blt` says what it does to a request that passes them.  It refuses any other
  (`blt_of_detached`, `blt_of_not_admits`) and does nothing else.
-/

namespace GuestFirmware.Display

open PlatformM

variable {δ α β : Type}

/-! ## Accesses to pixels -/

/-- The pixels in memory after an access. -/
def DisplayEvent.drawn (memory : PixelMemory) : DisplayEvent → PixelMemory
  | .pixelsWritten side start row => memory.write side start row
  | _ => memory

/-- An access to pixels, all of which are there. -/
def DisplayEvent.Inside (size : Side → Nat) : DisplayEvent → Prop
  | .pixelsRead side start width => start + width ≤ size side
  | .pixelsWritten side start row => start + row.length ≤ size side
  | _ => False

/-- The number of pixels on a side. -/
def PixelMemory.size (memory : PixelMemory) (side : Side) : Nat :=
  (memory.pixels side).size

@[simp] theorem size_write (memory : PixelMemory) (side : Side) (start : Nat)
    (row : List UInt32) : (memory.write side start row).size = memory.size :=
  funext fun other => memory.size_pixels_write side other start row

theorem size_foldl_drawn (accesses : List DisplayEvent) (memory : PixelMemory) :
    (accesses.foldl DisplayEvent.drawn memory).size = memory.size := by
  induction accesses generalizing memory with
  | nil => rfl
  | cons access rest ih =>
    rw [List.foldl_cons, ih]
    cases access <;> simp [DisplayEvent.drawn]

/-- Nothing but pixels was used between two platforms, and they were there. -/
structure Drew (before after : Platform (DisplayState δ) DisplayEvent)
    (accesses : List DisplayEvent) : Prop where
  trace : after.trace = before.trace ++ accesses.map Event.device
  services : after.services = before.services
  device : after.device = { before.device with
    memory := accesses.foldl DisplayEvent.drawn before.device.memory }
  inside : ∀ access ∈ accesses, access.Inside before.device.memory.size

namespace Drew

variable {first middle last : Platform (DisplayState δ) DisplayEvent}
  {front back : List DisplayEvent}

theorem memory (h : Drew first last front) :
    last.device.memory = front.foldl DisplayEvent.drawn first.device.memory := by
  rw [h.device]

theorem size (h : Drew first last front) :
    last.device.memory.size = first.device.memory.size := by
  rw [h.memory, size_foldl_drawn]

theorem refl (platform : Platform (DisplayState δ) DisplayEvent) : Drew platform platform [] where
  trace := (List.append_nil _).symm
  services := rfl
  device := rfl
  inside := nofun

theorem trans (hfront : Drew first middle front) (hback : Drew middle last back) :
    Drew first last (front ++ back) where
  trace := by rw [hback.trace, hfront.trace, List.map_append, List.append_assoc]
  services := hback.services.trans hfront.services
  device := by
    rw [hback.device, hfront.device, List.foldl_append]
  inside := by
    rw [List.forall_mem_append]
    exact ⟨hfront.inside, hfront.size ▸ hback.inside⟩

end Drew

/-! ## The same program in two places -/

/-- On a platform whose memory has these sizes, a program does what another one does on
arrays, and uses nothing but pixels. -/
def Mirrors (size : Side → Nat) (program : DisplayM δ α) (plain : StateM PixelMemory α) : Prop :=
  ∀ before, before.device.memory.size = size →
    plain.run before.device.memory =
        ((program.run before).1, (program.run before).2.device.memory) ∧
      ∃ accesses, Drew before (program.run before).2 accesses

variable {size : Side → Nat}

theorem mirrors_pure (value : α) : Mirrors size (pure value : DisplayM δ α) (pure value) :=
  fun before _ => ⟨rfl, [], .refl before⟩

theorem Mirrors.bind {program : DisplayM δ α} {plain : StateM PixelMemory α}
    {next : α → DisplayM δ β} {plainNext : α → StateM PixelMemory β}
    (h : Mirrors size program plain) (hnext : ∀ value, Mirrors size (next value) (plainNext value)) :
    Mirrors size (program >>= next) (plain >>= plainNext) := by
  intro before hsize
  obtain ⟨hplain, front, hfront⟩ := h before hsize
  obtain ⟨hplainNext, back, hback⟩ :=
    hnext (program.run before).1 (program.run before).2 (hfront.size.trans hsize)
  refine ⟨?_, front ++ back, hfront.trans hback⟩
  show (plainNext (plain.run before.device.memory).1).run (plain.run before.device.memory).2 = _
  rw [hplain]
  exact hplainNext

theorem Mirrors.forM {step : Nat → DisplayM δ Unit} {plainStep : Nat → StateM PixelMemory Unit}
    {rows : List Nat} (h : ∀ row ∈ rows, Mirrors size (step row) (plainStep row)) :
    Mirrors size (rows.forM step) (rows.forM plainStep) := by
  induction rows with
  | nil => exact mirrors_pure ()
  | cons row rest ih =>
    obtain ⟨hrow, hrest⟩ := List.forall_mem_cons.mp h
    exact hrow.bind fun _ => ih hrest

theorem Mirrors.whenVisible {rows : DisplayM δ Unit} {plain : StateM PixelMemory Unit}
    {visible : Prop} [Decidable visible] (h : visible → Mirrors size rows plain) :
    Mirrors size (whenVisible visible rows) (whenVisible visible plain) := by
  unfold Display.whenVisible
  by_cases hvisible : visible
  · simp only [if_pos hvisible]
    exact (h hvisible).bind fun _ => mirrors_pure _
  · simp only [if_neg hvisible]
    exact mirrors_pure _

/-! ## Rows -/

theorem mirrors_readPixels {side : Side} {start width : Nat} (h : start + width ≤ size side) :
    Mirrors size (readPixels side start width : DisplayM δ _) (readPixels side start width) := by
  intro before hsize
  refine ⟨rfl, [.pixelsRead side start width], rfl, rfl, rfl, ?_⟩
  rw [List.forall_mem_singleton, hsize]
  exact h

theorem mirrors_writePixels {side : Side} {start : Nat} {row : List UInt32}
    (h : start + row.length ≤ size side) :
    Mirrors size (writePixels side start row : DisplayM δ _) (writePixels side start row) := by
  intro before hsize
  refine ⟨rfl, [.pixelsWritten side start row], rfl, rfl, rfl, ?_⟩
  rw [List.forall_mem_singleton, hsize]
  exact h

/-- A row that was read has the width that was asked for, so it can be written where there
is room for the width. -/
theorem mirrors_copyRow {source target : Side} {sourceStart targetStart width : Nat}
    (hsource : sourceStart + width ≤ size source) (htarget : targetStart + width ≤ size target) :
    Mirrors size
      (do writePixels target targetStart (← readPixels source sourceStart width) : DisplayM δ Unit)
      (do writePixels target targetStart (← readPixels source sourceStart width)) := by
  intro before hsize
  have hread := mirrors_readPixels hsource before hsize
  have hlength : (readRow (before.device.memory.pixels source) sourceStart width).length = width := by
    apply length_readRow
    rw [← hsize] at hsource
    exact hsource
  obtain ⟨front, hfront⟩ := hread.2
  have hwrite := mirrors_writePixels (δ := δ) (hlength.symm ▸ htarget) _ (hfront.size.trans hsize)
  obtain ⟨back, hback⟩ := hwrite.2
  exact ⟨rfl, front ++ back, hfront.trans hback⟩

theorem mirrors_fillEach {start : Nat → Nat} {width : Nat} {rows : List Nat} (colour : UInt32)
    (h : ∀ row ∈ rows, start row + width ≤ size .video) :
    Mirrors size (fillEach start width colour rows : DisplayM δ _)
      (fillEach start width colour rows) := by
  apply Mirrors.forM
  intro row hrow
  apply mirrors_writePixels
  rw [List.length_replicate]
  exact h row hrow

theorem mirrors_copyEach {source target : Side} {sourceStart targetStart : Nat → Nat}
    {width : Nat} {rows : List Nat} (hsource : ∀ row ∈ rows, sourceStart row + width ≤ size source)
    (htarget : ∀ row ∈ rows, targetStart row + width ≤ size target) :
    Mirrors size (copyEach source target sourceStart targetStart width rows : DisplayM δ _)
      (copyEach source target sourceStart targetStart width rows) :=
  .forM fun row hrow => mirrors_copyRow (hsource row hrow) (htarget row hrow)

/-! ## Transfers -/

section Transfers

variable {request : Request} {frame : FrameBuffer}

/-- The rows of a visible rectangle lie in the frame buffer. -/
theorem videoRow_le {x y row : Nat}
    (hvideo : frame.pixels.size = size .video)
    (hvisible : frame.Contains x y request.width request.height) (hrow : row < request.height) :
    frame.index x (y + row) + request.width ≤ size .video :=
  hvideo ▸ Checked.index_add_width_le hvisible hrow

/-- Once the buffer is found to be large enough, a transfer stays inside both sides. -/
theorem mirrors_runRows {needed : Nat} (hneeded : request.bufferLength = .ok needed)
    (hvideo : frame.pixels.size = size .video) (hbuffer : needed ≤ size .buffer) :
    Mirrors size (request.runRows frame.toScanLines : DisplayM δ _)
      (request.runRows frame.toScanLines) := by
  unfold Request.runRows
  unfold Request.bufferLength at hneeded
  split at hneeded
  · cases hneeded
  · cases hoperation : request.operation with
    | videoFill =>
      rw [hoperation] at hneeded
      cases hneeded
      refine .whenVisible fun hvisible => (mirrors_readPixels hbuffer).bind fun first => ?_
      exact mirrors_fillEach _ fun row hrow =>
        videoRow_le hvideo hvisible (List.mem_range.mp hrow)
    | videoToBuffer =>
      rw [hoperation] at hneeded
      refine .whenVisible fun hvisible => mirrors_copyEach ?_ ?_
      · intro row hrow
        exact videoRow_le hvideo hvisible (List.mem_range.mp hrow)
      · intro row hrow
        exact Nat.le_trans
          (Checked.row_le_of_bufferExtent hneeded (List.mem_range.mp hrow)) hbuffer
    | bufferToVideo =>
      rw [hoperation] at hneeded
      refine .whenVisible fun hvisible => mirrors_copyEach ?_ ?_
      · intro row hrow
        exact Nat.le_trans
          (Checked.row_le_of_bufferExtent hneeded (List.mem_range.mp hrow)) hbuffer
      · intro row hrow
        exact videoRow_le hvideo hvisible (List.mem_range.mp hrow)
    | videoToVideo =>
      refine .whenVisible fun hvisible => mirrors_copyEach ?_ ?_
      · intro row hrow
        exact videoRow_le hvideo hvisible.1 (Checked.mem_moveOrder.mp hrow)
      · intro row hrow
        exact videoRow_le hvideo hvisible.2 (Checked.mem_moveOrder.mp hrow)

theorem mirrors_run (request : Request) (canvas : Canvas) :
    Mirrors canvas.memory.size
      (request.run canvas.frame.toScanLines canvas.buffer.size : DisplayM δ _)
      (request.run canvas.frame.toScanLines canvas.buffer.size) := by
  unfold Request.run
  cases hlength : request.bufferLength with
  | error failure => exact mirrors_pure _
  | ok needed =>
    dsimp only
    by_cases hsmall : canvas.buffer.size < needed
    · simp only [if_pos hsmall]
      exact mirrors_pure _
    · simp only [if_neg hsmall]
      exact mirrors_runRows hlength rfl (Nat.le_of_not_lt hsmall)

end Transfers

/-- A request was carried out or refused at the level of notifications, with the same end
as between two arrays.  All that was used are pixels that are there. -/
structure Transferred (request : Request) (canvas : Canvas)
    (before after : Platform (DisplayState δ) DisplayEvent) (accesses : List DisplayEvent) :
    Prop where
  raised : RaisedFor .notify before after (accesses.map Event.device)
  device : after.device = { before.device with
    memory := accesses.foldl DisplayEvent.drawn before.device.memory }
  inside : ∀ access ∈ accesses, access.Inside before.device.memory.size
  result : after.device.memory = (transfer request canvas).2.memory

/-- Accesses to a device are about no level and no lock. -/
theorem plain_accesses (accesses : List DisplayEvent) :
    (accesses.map Event.device).all Event.plain = true := by
  simp [Event.plain]

theorem transferred_run {request : Request} {canvas : Canvas}
    {before : Platform (DisplayState δ) DisplayEvent}
    (hmemory : before.device.memory = canvas.memory) :
    let ended := (withTpl .notify
      (request.run canvas.frame.toScanLines canvas.buffer.size : DisplayM δ _)).run before
    ended.1 = (transfer request canvas).1 ∧
      ∃ accesses, Transferred request canvas before ended.2 accesses := by
  intro ended
  obtain ⟨hplain, accesses, hdrew⟩ := mirrors_run request canvas
    (afterCall (Services.raiseTpl .notify) before) (congrArg PixelMemory.size hmemory)
  have hstart : (afterCall (Services.raiseTpl .notify) before).device.memory = canvas.memory :=
    hmemory
  rw [hstart] at hplain
  refine ⟨(congrArg Prod.fst hplain).symm, accesses, ?_, hdrew.device, hdrew.inside, ?_⟩
  · exact .of_withTpl hdrew.trace (.of_plain (plain_accesses accesses))
  · exact (congrArg Prod.snd hplain).symm

namespace GraphicsOutput

/-- The checks that a request passes before pixels are moved. -/
structure Admits (output : GraphicsOutput) (request : Request) (hasBuffer : Bool)
    (video : Pixels) : Prop where
  attached : output.frameBufferBase ≠ 0
  buffered : ∃ needed, request.bufferLength = .ok needed ∧ (0 < needed → hasBuffer = true)
  framed : ∃ frame, output.frameBuffer video = .ok frame

variable {output : GraphicsOutput} {request : Request} {hasBuffer : Bool}
  {before : Platform (DisplayState δ) DisplayEvent}

theorem run_currentMemory (platform : Platform (DisplayState δ) DisplayEvent) :
    currentMemory.run platform = (platform.device.memory, platform) := rfl

theorem pixels_of_frameBuffer {video : Pixels} {frame : FrameBuffer}
    (h : output.frameBuffer video = .ok frame) : frame.pixels = video := by
  unfold frameBuffer FrameBuffer.ofPixels at h
  split at h
  · cases h
    rfl
  · cases h

theorem run_blt_of_frame {frame : FrameBuffer}
    (hadmits : output.Admits request hasBuffer before.device.memory.video)
    (hframe : output.frameBuffer before.device.memory.video = .ok frame) :
    (output.blt request hasBuffer).run before =
      let ended := (withTpl .notify
        (request.run frame.toScanLines before.device.memory.buffer.size : DisplayM δ _)).run before
      ((ended.1.mapError BltError.status, output), ended.2) := by
  obtain ⟨hbase, ⟨needed, hneeded, hbuffer⟩, -⟩ := hadmits
  have hgiven : ¬ (0 < needed ∧ (!hasBuffer) = true) := by
    rintro ⟨hpos, hmissing⟩
    rw [hbuffer hpos] at hmissing
    cases hmissing
  simp only [blt, if_neg hbase, hneeded, if_neg hgiven, run_bind, run_currentMemory, hframe]
  rfl

/-- A request that passes the checks is transferred, and the output stays as it is. -/
theorem transferred_blt {frame : FrameBuffer}
    (hadmits : output.Admits request hasBuffer before.device.memory.video)
    (hframe : output.frameBuffer before.device.memory.video = .ok frame) :
    let canvas : Canvas := ⟨frame, before.device.memory.buffer⟩
    let ended := (output.blt request hasBuffer).run before
    ended.1 = ((transfer request canvas).1.mapError BltError.status, output) ∧
      ∃ accesses, Transferred request canvas before ended.2 accesses := by
  intro canvas ended
  have hmemory : before.device.memory = canvas.memory := by
    rw [Canvas.memory, pixels_of_frameBuffer hframe]
  obtain ⟨hanswer, htransferred⟩ := @transferred_run δ request canvas before hmemory
  have hrun : ended = _ := run_blt_of_frame hadmits hframe
  rw [hrun, ← hanswer]
  exact ⟨rfl, htransferred⟩

/-- Without a frame buffer every request is refused. -/
theorem blt_of_detached (hbase : output.frameBufferBase = 0) :
    (output.blt request hasBuffer).run before = ((.error .deviceError, output), before) := by
  rw [blt, if_pos hbase]
  rfl

/-- A request that does not pass the other checks is refused, and nothing else happens. -/
theorem blt_of_not_admits (hbase : output.frameBufferBase ≠ 0)
    (hrefused : ¬ output.Admits request hasBuffer before.device.memory.video) :
    (output.blt request hasBuffer).run before = ((.error .invalidParameter, output), before) := by
  rw [blt, if_neg hbase]
  cases hneeded : request.bufferLength with
  | error failure => rfl
  | ok needed =>
    dsimp only
    split
    · rfl
    · next hgiven =>
      simp only [run_bind, run_currentMemory]
      cases hframe : output.frameBuffer before.device.memory.video with
      | error failure => rfl
      | ok frame =>
        refine absurd ⟨hbase, ⟨needed, hneeded, ?_⟩, frame, hframe⟩ hrefused
        intro hpos
        cases hasBuffer with
        | true => rfl
        | false => exact absurd ⟨hpos, rfl⟩ hgiven

end GraphicsOutput

end GuestFirmware.Display
