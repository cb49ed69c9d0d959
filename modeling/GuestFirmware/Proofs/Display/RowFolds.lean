import GuestFirmware.Display.Canvas

/-!
# Transfers as folds over rows

A transfer is a program that reads and writes rows.  On two arrays of pixels each of its
loops is a fold over the numbers of the rows, and only one of the arrays changes.  This
module says which fold.

* `fillRows`, `copyRows` and `moveRows` are the folds: a colour into rows of an array, rows
  of one array into another, and rows inside one array.
* `run_forM_part` says that a loop is a fold over the one part of the state that its steps
  change.  `run_fillEach`, `run_copyOut`, `run_copyIn` and `run_copyInside` are the loops of
  a transfer.
* `transfer_byOperation` is the whole transfer in this form, with one function for each operation.
-/

namespace GuestFirmware.Display

/-! ## Folds -/

/-- Fills rows with one colour.  `start` is where each row begins. -/
def fillRows (start : Nat → Nat) (width : Nat) (colour : UInt32) (rows : List Nat)
    (pixels : Pixels) : Pixels :=
  rows.foldl (fun pixels row => writeRow pixels (start row) (List.replicate width colour)) pixels

/-- Copies rows of one array into another. -/
def copyRows (source : Pixels) (sourceStart targetStart : Nat → Nat) (width : Nat)
    (rows : List Nat) (target : Pixels) : Pixels :=
  rows.foldl
    (fun target row => writeRow target (targetStart row) (readRow source (sourceStart row) width))
    target

/-- Copies rows inside one array. -/
def moveRows (sourceStart targetStart : Nat → Nat) (width : Nat) (rows : List Nat)
    (pixels : Pixels) : Pixels :=
  rows.foldl
    (fun pixels row => writeRow pixels (targetStart row) (readRow pixels (sourceStart row) width))
    pixels

theorem size_foldl_writeRow (start : Nat → Nat) (row : Pixels → Nat → List UInt32)
    (rows : List Nat) (pixels : Pixels) :
    (rows.foldl (fun pixels index => writeRow pixels (start index) (row pixels index)) pixels).size
      = pixels.size := by
  induction rows generalizing pixels with
  | nil => rfl
  | cons first rest ih => rw [List.foldl_cons, ih, size_writeRow]

@[simp] theorem size_fillRows (start : Nat → Nat) (width : Nat) (colour : UInt32)
    (rows : List Nat) (pixels : Pixels) :
    (fillRows start width colour rows pixels).size = pixels.size :=
  size_foldl_writeRow start (fun _ _ => List.replicate width colour) rows pixels

@[simp] theorem size_copyRows (source : Pixels) (sourceStart targetStart : Nat → Nat)
    (width : Nat) (rows : List Nat) (target : Pixels) :
    (copyRows source sourceStart targetStart width rows target).size = target.size :=
  size_foldl_writeRow targetStart (fun _ row => readRow source (sourceStart row) width) rows target

@[simp] theorem size_moveRows (sourceStart targetStart : Nat → Nat) (width : Nat)
    (rows : List Nat) (pixels : Pixels) :
    (moveRows sourceStart targetStart width rows pixels).size = pixels.size :=
  size_foldl_writeRow targetStart
    (fun pixels row => readRow pixels (sourceStart row) width) rows pixels

/-! ## Loops -/

/-- A loop whose steps change one part of the state is a fold over that part. -/
theorem run_forM_part {σ τ : Type} (put : τ → σ) {step : Nat → StateM σ Unit}
    {change : τ → Nat → τ}
    (h : ∀ part row, (step row).run (put part) = ((), put (change part row)))
    (rows : List Nat) (part : τ) :
    (rows.forM step).run (put part) = ((), put (rows.foldl change part)) := by
  induction rows generalizing part with
  | nil => rfl
  | cons row rest ih =>
    show (rest.forM step).run ((step row).run (put part)).2 = _
    rw [h]
    exact ih (change part row)

section Loops

variable (sourceStart targetStart : Nat → Nat) (width : Nat) (rows : List Nat)
  (memory : PixelMemory)

theorem run_fillEach (colour : UInt32) :
    (fillEach targetStart width colour rows : StateM PixelMemory Unit).run memory =
      ((), { memory with video := fillRows targetStart width colour rows memory.video }) := by
  refine run_forM_part (fun video => { memory with video := video }) ?_ rows memory.video
  exact fun _ _ => rfl

theorem run_copyOut :
    (copyEach .video .buffer sourceStart targetStart width rows : StateM PixelMemory Unit).run
        memory =
      ((), { memory with
        buffer := copyRows memory.video sourceStart targetStart width rows memory.buffer }) := by
  refine run_forM_part (fun buffer => { memory with buffer := buffer }) ?_ rows memory.buffer
  exact fun _ _ => rfl

theorem run_copyIn :
    (copyEach .buffer .video sourceStart targetStart width rows : StateM PixelMemory Unit).run
        memory =
      ((), { memory with
        video := copyRows memory.buffer sourceStart targetStart width rows memory.video }) := by
  refine run_forM_part (fun video => { memory with video := video }) ?_ rows memory.video
  exact fun _ _ => rfl

theorem run_copyInside :
    (copyEach .video .video sourceStart targetStart width rows : StateM PixelMemory Unit).run
        memory =
      ((), { memory with
        video := moveRows sourceStart targetStart width rows memory.video }) := by
  refine run_forM_part (fun video => { memory with video := video }) ?_ rows memory.video
  exact fun _ _ => rfl

end Loops

/-! ## Operations -/

/-- Fills the destination with the first pixel of the buffer. -/
def fill (request : Request) (canvas : Canvas) : Except BltError Unit × Canvas :=
  let frame := canvas.frame
  if frame.Contains request.destinationX request.destinationY request.width request.height then
    let pixels := fillRows
      (fun row => frame.index request.destinationX (request.destinationY + row))
      request.width (canvas.buffer.getD 0 0) (List.range request.height) frame.pixels
    (.ok (), { canvas with frame := frame.withPixels pixels (size_fillRows ..) })
  else (.error .outOfBounds, canvas)

/-- Copies the source in the frame buffer to the destination in the buffer. -/
def copyOut (request : Request) (canvas : Canvas) : Except BltError Unit × Canvas :=
  let frame := canvas.frame
  if frame.Contains request.sourceX request.sourceY request.width request.height then
    let buffer := copyRows frame.pixels
      (fun row => frame.index request.sourceX (request.sourceY + row))
      (fun row => (request.destinationY + row) * request.bufferStride + request.destinationX)
      request.width (List.range request.height) canvas.buffer
    (.ok (), { canvas with buffer := buffer })
  else (.error .outOfBounds, canvas)

/-- Copies the source in the buffer to the destination in the frame buffer. -/
def copyIn (request : Request) (canvas : Canvas) : Except BltError Unit × Canvas :=
  let frame := canvas.frame
  if frame.Contains request.destinationX request.destinationY request.width request.height then
    let pixels := copyRows canvas.buffer
      (fun row => (request.sourceY + row) * request.bufferStride + request.sourceX)
      (fun row => frame.index request.destinationX (request.destinationY + row))
      request.width (List.range request.height) frame.pixels
    (.ok (), { canvas with frame := frame.withPixels pixels (size_copyRows ..) })
  else (.error .outOfBounds, canvas)

/-- Copies the source to the destination, both in the frame buffer. -/
def move (request : Request) (canvas : Canvas) : Except BltError Unit × Canvas :=
  let frame := canvas.frame
  if frame.Contains request.sourceX request.sourceY request.width request.height ∧
      frame.Contains request.destinationX request.destinationY request.width request.height then
    let pixels := moveRows
      (fun row => frame.index request.sourceX (request.sourceY + row))
      (fun row => frame.index request.destinationX (request.destinationY + row))
      request.width (moveOrder request) frame.pixels
    (.ok (), { canvas with frame := frame.withPixels pixels (size_moveRows ..) })
  else (.error .outOfBounds, canvas)

/-! ## Transfers -/

/-- The canvas after a transfer is made of the memory after it. -/
theorem transfer_of_run {request : Request} {canvas : Canvas} {answer : Except BltError Unit}
    {after : PixelMemory} (hsize : after.video.size = canvas.frame.pixels.size)
    (hrun : (request.run canvas.frame.toScanLines canvas.buffer.size :
      StateM PixelMemory (Except BltError Unit)).run canvas.memory = (answer, after)) :
    transfer request canvas =
      (answer, { frame := canvas.frame.withPixels after.video hsize, buffer := after.buffer }) := by
  simp only [transfer, hrun]

theorem transfer_of_refused {request : Request} {canvas : Canvas} {failure : BltError}
    (hrun : (request.run canvas.frame.toScanLines canvas.buffer.size :
      StateM PixelMemory (Except BltError Unit)) = pure (.error failure)) :
    transfer request canvas = (.error failure, canvas) :=
  transfer_of_run rfl (by rw [hrun]; rfl)

/-- A transfer whose rows are moved if something is visible. -/
theorem transfer_whenVisible {request : Request} {canvas : Canvas} {visible : Prop}
    [Decidable visible] {rows : StateM PixelMemory Unit} {after : PixelMemory}
    (hrun : (request.run canvas.frame.toScanLines canvas.buffer.size :
      StateM PixelMemory (Except BltError Unit)) = whenVisible visible rows)
    (hrows : rows.run canvas.memory = ((), after))
    (hsize : after.video.size = canvas.frame.pixels.size) :
    transfer request canvas =
      if visible then
        (.ok (), { frame := canvas.frame.withPixels after.video hsize, buffer := after.buffer })
      else (.error .outOfBounds, canvas) := by
  rw [whenVisible] at hrun
  by_cases hvisible : visible
  · rw [if_pos hvisible] at hrun ⊢
    apply transfer_of_run hsize
    rw [hrun]
    show (pure (.ok ()) : StateM PixelMemory (Except BltError Unit)).run
      (rows.run canvas.memory).2 = _
    rw [hrows]
    rfl
  · rw [if_neg hvisible] at hrun ⊢
    exact transfer_of_refused hrun

/-- The first pixel of a row of one pixel. -/
theorem headD_readRow (pixels : Pixels) : (readRow pixels 0 1).headD 0 = pixels.getD 0 0 := by
  rw [List.headD_eq_head?_getD, List.head?_eq_getElem?, getElem?_readRow (by decide), Nat.zero_add,
    Array.getD_eq_getD_getElem?]

/-- A fill reads its colour first. -/
theorem run_fill (request : Request) (lines : ScanLines) (memory : PixelMemory) :
    (do
      let first ← readPixels .buffer 0 1
      fillEach (request.videoDestination lines) request.width (first.headD 0)
        (List.range request.height) : StateM PixelMemory Unit).run memory =
      ((), { memory with
        video := fillRows (request.videoDestination lines) request.width
          (memory.buffer.getD 0 0) (List.range request.height) memory.video }) := by
  rw [← headD_readRow]
  exact run_fillEach _ _ _ memory _

theorem run_of_bufferLength {request : Request} {lines : ScanLines} {bufferSize needed : Nat}
    (hneeded : request.bufferLength = .ok needed) (henough : ¬ bufferSize < needed) :
    (request.run lines bufferSize : StateM PixelMemory (Except BltError Unit)) =
      request.runRows lines := by
  rw [Request.run, hneeded]
  exact if_neg henough

/-- A transfer, operation by operation. -/
theorem transfer_byOperation (request : Request) (canvas : Canvas) :
    transfer request canvas =
      match request.bufferLength with
      | .error failure => (.error failure, canvas)
      | .ok needed =>
        if canvas.buffer.size < needed then (.error .bufferTooSmall, canvas)
        else match request.operation with
          | .videoFill => fill request canvas
          | .videoToBuffer => copyOut request canvas
          | .bufferToVideo => copyIn request canvas
          | .videoToVideo => move request canvas := by
  cases hlength : request.bufferLength with
  | error failure => exact transfer_of_refused (by rw [Request.run, hlength])
  | ok needed =>
    dsimp only
    by_cases hsmall : canvas.buffer.size < needed
    · rw [if_pos hsmall]
      apply transfer_of_refused
      rw [Request.run, hlength]
      exact if_pos hsmall
    · rw [if_neg hsmall]
      have hrun : (request.run canvas.frame.toScanLines canvas.buffer.size : StateM _ _) = _ :=
        run_of_bufferLength hlength hsmall
      unfold Request.runRows at hrun
      cases hoperation : request.operation with
      | videoFill =>
        rw [hoperation] at hrun
        exact transfer_whenVisible hrun (run_fill _ _ _) (size_fillRows ..)
      | videoToBuffer =>
        rw [hoperation] at hrun
        exact transfer_whenVisible hrun (run_copyOut _ _ _ _ _) rfl
      | bufferToVideo =>
        rw [hoperation] at hrun
        exact transfer_whenVisible hrun (run_copyIn _ _ _ _ _) (size_copyRows ..)
      | videoToVideo =>
        rw [hoperation] at hrun
        exact transfer_whenVisible hrun (run_copyInside _ _ _ _ _) (size_moveRows ..)

end GuestFirmware.Display
