import GuestFirmware.Display.Blt

/-!
# Transfers between two arrays

A `PixelMemory` is one array of pixels for each side of a transfer, and a program on it
reads and writes rows of them.  No such program changes the sizes
(`keepsSizes_run`), so a frame buffer in one of the arrays stays valid.
`transfer` is the transfer on a `Canvas`, which is such a frame buffer and a buffer.
-/

namespace GuestFirmware.Display

/-! ## Memory -/

/-- The pixels on both sides of a transfer. -/
structure PixelMemory where
  video : Pixels := #[]
  buffer : Pixels := #[]
  deriving DecidableEq, Repr

namespace PixelMemory

/-- The pixels of a side. -/
def pixels (memory : PixelMemory) : Side → Pixels
  | .video => memory.video
  | .buffer => memory.buffer

/-- The memory after a row was written on a side. -/
def write (side : Side) (start : Nat) (row : List UInt32) (memory : PixelMemory) : PixelMemory :=
  match side with
  | .video => { memory with video := writeRow memory.video start row }
  | .buffer => { memory with buffer := writeRow memory.buffer start row }

@[simp] theorem size_pixels_write (memory : PixelMemory) (side other : Side) (start : Nat)
    (row : List UInt32) :
    ((memory.write side start row).pixels other).size = (memory.pixels other).size := by
  cases side <;> cases other <;> simp [write, pixels]

end PixelMemory

instance : MonadPixels (StateM PixelMemory) where
  readPixels side start width := do
    return readRow ((← get).pixels side) start width
  writePixels side start row := modify (PixelMemory.write side start row)

/-! ## Sizes -/

/-- A program that changes no size. -/
def KeepsSizes {α : Type} (program : StateM PixelMemory α) : Prop :=
  ∀ memory side, (((program.run memory).2).pixels side).size = (memory.pixels side).size

theorem keepsSizes_pure {α : Type} (value : α) :
    KeepsSizes (pure value : StateM PixelMemory α) :=
  fun _ _ => rfl

theorem KeepsSizes.bind {α β : Type} {program : StateM PixelMemory α}
    {next : α → StateM PixelMemory β} (h : KeepsSizes program)
    (hnext : ∀ value, KeepsSizes (next value)) : KeepsSizes (program >>= next) :=
  fun memory side => (hnext _ _ side).trans (h memory side)

theorem KeepsSizes.forM {step : Nat → StateM PixelMemory Unit} (h : ∀ row, KeepsSizes (step row))
    (rows : List Nat) : KeepsSizes (rows.forM step) := by
  induction rows with
  | nil => exact keepsSizes_pure ()
  | cons row rest ih => exact (h row).bind fun _ => ih

theorem keepsSizes_readPixels (side : Side) (start width : Nat) :
    KeepsSizes (readPixels side start width : StateM PixelMemory (List UInt32)) :=
  fun _ _ => rfl

theorem keepsSizes_writePixels (side : Side) (start : Nat) (row : List UInt32) :
    KeepsSizes (writePixels side start row : StateM PixelMemory Unit) :=
  fun memory other => memory.size_pixels_write side other start row

theorem keepsSizes_fillEach (start : Nat → Nat) (width : Nat) (colour : UInt32)
    (rows : List Nat) : KeepsSizes (fillEach start width colour rows) :=
  .forM (fun row => keepsSizes_writePixels .video (start row) _) rows

theorem keepsSizes_copyEach (source target : Side) (sourceStart targetStart : Nat → Nat)
    (width : Nat) (rows : List Nat) :
    KeepsSizes (copyEach source target sourceStart targetStart width rows) :=
  .forM (fun row => (keepsSizes_readPixels source (sourceStart row) width).bind
    fun _ => keepsSizes_writePixels target (targetStart row) _) rows

theorem KeepsSizes.whenVisible {rows : StateM PixelMemory Unit} (h : KeepsSizes rows)
    (visible : Prop) [Decidable visible] : KeepsSizes (whenVisible visible rows) := by
  unfold Display.whenVisible
  split
  · exact h.bind fun _ => keepsSizes_pure _
  · exact keepsSizes_pure _

theorem keepsSizes_runRows (request : Request) (lines : ScanLines) :
    KeepsSizes (request.runRows lines) := by
  unfold Request.runRows
  cases request.operation with
  | videoFill =>
    exact .whenVisible ((keepsSizes_readPixels .buffer 0 1).bind fun _ =>
      keepsSizes_fillEach _ _ _ _) _
  | videoToBuffer => exact (keepsSizes_copyEach _ _ _ _ _ _).whenVisible _
  | bufferToVideo => exact (keepsSizes_copyEach _ _ _ _ _ _).whenVisible _
  | videoToVideo => exact (keepsSizes_copyEach _ _ _ _ _ _).whenVisible _

theorem keepsSizes_run (request : Request) (lines : ScanLines) (bufferSize : Nat) :
    KeepsSizes (request.run lines bufferSize) := by
  unfold Request.run
  split
  · exact keepsSizes_pure _
  · split
    · exact keepsSizes_pure _
    · exact keepsSizes_runRows request lines

/-! ## Transfers -/

/-- A frame buffer and a buffer. -/
structure Canvas where
  frame : FrameBuffer
  buffer : Pixels

/-- The pixels of both sides. -/
def Canvas.memory (canvas : Canvas) : PixelMemory :=
  ⟨canvas.frame.pixels, canvas.buffer⟩

/-- Carries out a request, or refuses it and leaves both sides alone. -/
def transfer (request : Request) (canvas : Canvas) : Except BltError Unit × Canvas :=
  let program : StateM PixelMemory (Except BltError Unit) :=
    request.run canvas.frame.toScanLines canvas.buffer.size
  let ended := program.run canvas.memory
  (ended.1,
    { frame := canvas.frame.withPixels ended.2.video
        (keepsSizes_run request canvas.frame.toScanLines canvas.buffer.size canvas.memory .video)
      buffer := ended.2.buffer })

/-- Carries out a request on the pixels of a frame buffer and of the caller's
buffer. -/
def transferPixels (request : Request) (width height stride : Nat) (memory : Pixels × Pixels) :
    Except BltError Unit × Pixels × Pixels :=
  match FrameBuffer.ofPixels memory.1 width height stride with
  | .error failure => (.error failure, memory)
  | .ok frame =>
    let (result, canvas) := transfer request ⟨frame, memory.2⟩
    (result, canvas.frame.pixels, canvas.buffer)

end GuestFirmware.Display
