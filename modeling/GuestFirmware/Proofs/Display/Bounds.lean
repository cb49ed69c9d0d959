import GuestFirmware.Proofs.Display.RowFolds

/-!
# Transfers stay inside their pixels

A transfer reads and writes rows of the frame buffer and of the caller's buffer.
This module repeats the transfer with a check in front of every row.  A row that
leaves its pixels ends the checked transfer with nothing.

There is one lemma for each function: the checked function answers, and it
answers what the function answers.  `Checked.transferPixels_eq` is the lemma for
the whole transfer, so no row leaves its pixels, whatever was asked for.
-/

namespace GuestFirmware.Display.Checked

/-! ## Rows -/

/-- The pixels of a row, nothing if the row leaves the array. -/
def readRow (pixels : Pixels) (start width : Nat) : Option (List UInt32) :=
  if start + width ≤ pixels.size then some (Display.readRow pixels start width) else none

/-- The array with a row written, nothing if the row leaves the array. -/
def writeRow (pixels : Pixels) (start : Nat) (row : List UInt32) : Option Pixels :=
  if start + row.length ≤ pixels.size then some (Display.writeRow pixels start row) else none

def fillRows (start : Nat → Nat) (width : Nat) (colour : UInt32) (rows : List Nat)
    (pixels : Pixels) : Option Pixels :=
  rows.foldlM (fun pixels row => writeRow pixels (start row) (List.replicate width colour)) pixels

def copyRows (source : Pixels) (sourceStart targetStart : Nat → Nat) (width : Nat)
    (rows : List Nat) (target : Pixels) : Option Pixels :=
  rows.foldlM
    (fun target row => do
      writeRow target (targetStart row) (← readRow source (sourceStart row) width))
    target

def moveRows (sourceStart targetStart : Nat → Nat) (width : Nat) (rows : List Nat)
    (pixels : Pixels) : Option Pixels :=
  rows.foldlM
    (fun pixels row => do
      writeRow pixels (targetStart row) (← readRow pixels (sourceStart row) width))
    pixels

theorem readRow_eq {pixels : Pixels} {start width : Nat} (h : start + width ≤ pixels.size) :
    readRow pixels start width = some (Display.readRow pixels start width) :=
  if_pos h

theorem writeRow_eq {pixels : Pixels} {start : Nat} {row : List UInt32}
    (h : start + row.length ≤ pixels.size) :
    writeRow pixels start row = some (Display.writeRow pixels start row) :=
  if_pos h

/-- A row that is read and then written has its whole width. -/
theorem writeRow_readRow {source target : Pixels} {sourceStart targetStart width : Nat}
    (hsource : sourceStart + width ≤ source.size) (htarget : targetStart + width ≤ target.size) :
    (do writeRow target targetStart (← readRow source sourceStart width)) =
      some (Display.writeRow target targetStart (Display.readRow source sourceStart width)) := by
  rw [readRow_eq hsource, Option.bind_eq_bind, Option.bind_some]
  apply writeRow_eq
  rw [length_readRow hsource]
  exact htarget

theorem foldlM_eq {step : Pixels → Nat → Pixels} {checked : Pixels → Nat → Option Pixels}
    {size : Nat} (hsize : ∀ pixels row, (step pixels row).size = pixels.size) (rows : List Nat)
    (hstep : ∀ row ∈ rows, ∀ pixels : Pixels, pixels.size = size →
      checked pixels row = some (step pixels row))
    (pixels : Pixels) (hpixels : pixels.size = size) :
    rows.foldlM checked pixels = some (rows.foldl step pixels) := by
  induction rows generalizing pixels with
  | nil => rfl
  | cons row rest ih =>
    rw [List.foldlM_cons, hstep row List.mem_cons_self pixels hpixels, Option.bind_eq_bind,
      Option.bind_some, List.foldl_cons]
    apply ih
    · intro other hother
      exact hstep other (List.mem_cons_of_mem row hother)
    · rw [hsize, hpixels]

theorem fillRows_eq {start : Nat → Nat} {width : Nat} (colour : UInt32) {rows : List Nat}
    {pixels : Pixels} (h : ∀ row ∈ rows, start row + width ≤ pixels.size) :
    fillRows start width colour rows pixels =
      some (Display.fillRows start width colour rows pixels) := by
  refine foldlM_eq (fun pixels row => size_writeRow _ _ _) rows ?_ pixels rfl
  intro row hrow before hbefore
  apply writeRow_eq
  rw [List.length_replicate, hbefore]
  exact h row hrow

theorem copyRows_eq {source : Pixels} {sourceStart targetStart : Nat → Nat} {width : Nat}
    {rows : List Nat} {target : Pixels}
    (hsource : ∀ row ∈ rows, sourceStart row + width ≤ source.size)
    (htarget : ∀ row ∈ rows, targetStart row + width ≤ target.size) :
    copyRows source sourceStart targetStart width rows target =
      some (Display.copyRows source sourceStart targetStart width rows target) := by
  refine foldlM_eq (fun target row => size_writeRow _ _ _) rows ?_ target rfl
  intro row hrow before hbefore
  exact writeRow_readRow (hsource row hrow) (hbefore ▸ htarget row hrow)

theorem moveRows_eq {sourceStart targetStart : Nat → Nat} {width : Nat} {rows : List Nat}
    {pixels : Pixels} (hsource : ∀ row ∈ rows, sourceStart row + width ≤ pixels.size)
    (htarget : ∀ row ∈ rows, targetStart row + width ≤ pixels.size) :
    moveRows sourceStart targetStart width rows pixels =
      some (Display.moveRows sourceStart targetStart width rows pixels) := by
  refine foldlM_eq (fun pixels row => size_writeRow _ _ _) rows ?_ pixels rfl
  intro row hrow before hbefore
  exact writeRow_readRow (hbefore ▸ hsource row hrow) (hbefore ▸ htarget row hrow)

/-! ## Rows of rectangles -/

/-- A row of a rectangle in the visible part lies in memory. -/
theorem index_add_width_le {frame : FrameBuffer} {x y width height row : Nat}
    (h : frame.Contains x y width height) (hrow : row < height) :
    frame.index x (y + row) + width ≤ frame.pixels.size := by
  have hline : y + row + 1 ≤ frame.height := by
    have hbottom := h.2
    omega
  calc (y + row) * frame.stride + x + width
      = (y + row) * frame.stride + (x + width) := Nat.add_assoc _ _ _
    _ ≤ (y + row) * frame.stride + frame.stride :=
        Nat.add_le_add_left (Nat.le_trans h.1 frame.width_le_stride) _
    _ = (y + row + 1) * frame.stride := (Nat.succ_mul _ _).symm
    _ ≤ frame.height * frame.stride := Nat.mul_le_mul_right _ hline
    _ = frame.stride * frame.height := Nat.mul_comm _ _
    _ ≤ frame.pixels.size := frame.lines_fit

/-- A row of a rectangle in the buffer lies in front of the extent. -/
theorem row_le_of_bufferExtent {request : Request} {x y extent row : Nat}
    (h : request.bufferExtent x y = .ok extent) (hrow : row < request.height) :
    (y + row) * request.bufferStride + x + request.width ≤ extent := by
  have hextent : (y + (request.height - 1)) * request.bufferStride + x + request.width = extent := by
    unfold Request.bufferExtent at h
    split at h
    · cases h
    · dsimp only at h
      split at h
      · cases h
        rfl
      · cases h
  have hline : y + row ≤ y + (request.height - 1) := by omega
  have hrows := Nat.mul_le_mul_right request.bufferStride hline
  omega

/-! ## Transfers -/

/-- What a transfer leaves on both sides. -/
def sides (ended : Except BltError Unit × Canvas) : Except BltError Unit × Pixels × Pixels :=
  (ended.1, ended.2.frame.pixels, ended.2.buffer)

def fill (request : Request) (canvas : Canvas) :
    Option (Except BltError Unit × Pixels × Pixels) :=
  let frame := canvas.frame
  if frame.Contains request.destinationX request.destinationY request.width request.height then do
    let colour ← canvas.buffer[0]?
    let pixels ← fillRows
      (fun row => frame.index request.destinationX (request.destinationY + row))
      request.width colour (List.range request.height) frame.pixels
    return (.ok (), pixels, canvas.buffer)
  else some (.error .outOfBounds, frame.pixels, canvas.buffer)

def copyOut (request : Request) (canvas : Canvas) :
    Option (Except BltError Unit × Pixels × Pixels) :=
  let frame := canvas.frame
  if frame.Contains request.sourceX request.sourceY request.width request.height then do
    let buffer ← copyRows frame.pixels
      (fun row => frame.index request.sourceX (request.sourceY + row))
      (fun row => (request.destinationY + row) * request.bufferStride + request.destinationX)
      request.width (List.range request.height) canvas.buffer
    return (.ok (), frame.pixels, buffer)
  else some (.error .outOfBounds, frame.pixels, canvas.buffer)

def copyIn (request : Request) (canvas : Canvas) :
    Option (Except BltError Unit × Pixels × Pixels) :=
  let frame := canvas.frame
  if frame.Contains request.destinationX request.destinationY request.width request.height then do
    let pixels ← copyRows canvas.buffer
      (fun row => (request.sourceY + row) * request.bufferStride + request.sourceX)
      (fun row => frame.index request.destinationX (request.destinationY + row))
      request.width (List.range request.height) frame.pixels
    return (.ok (), pixels, canvas.buffer)
  else some (.error .outOfBounds, frame.pixels, canvas.buffer)

def move (request : Request) (canvas : Canvas) :
    Option (Except BltError Unit × Pixels × Pixels) :=
  let frame := canvas.frame
  if frame.Contains request.sourceX request.sourceY request.width request.height ∧
      frame.Contains request.destinationX request.destinationY request.width request.height then do
    let pixels ← moveRows
      (fun row => frame.index request.sourceX (request.sourceY + row))
      (fun row => frame.index request.destinationX (request.destinationY + row))
      request.width (moveOrder request) frame.pixels
    return (.ok (), pixels, canvas.buffer)
  else some (.error .outOfBounds, frame.pixels, canvas.buffer)

def transfer (request : Request) (canvas : Canvas) :
    Option (Except BltError Unit × Pixels × Pixels) :=
  match request.bufferLength with
  | .error failure => some (.error failure, canvas.frame.pixels, canvas.buffer)
  | .ok needed =>
    if canvas.buffer.size < needed then
      some (.error .bufferTooSmall, canvas.frame.pixels, canvas.buffer)
    else match request.operation with
      | .videoFill => fill request canvas
      | .videoToBuffer => copyOut request canvas
      | .bufferToVideo => copyIn request canvas
      | .videoToVideo => move request canvas

def transferPixels (request : Request) (width height stride : Nat) (memory : Pixels × Pixels) :
    Option (Except BltError Unit × Pixels × Pixels) :=
  match FrameBuffer.ofPixels memory.1 width height stride with
  | .error failure => some (.error failure, memory)
  | .ok frame => transfer request ⟨frame, memory.2⟩

theorem fill_eq {request : Request} {canvas : Canvas} (hbuffer : 1 ≤ canvas.buffer.size) :
    fill request canvas = some (sides (Display.fill request canvas)) := by
  have hcolour : canvas.buffer[0]? = some (canvas.buffer.getD 0 0) := by
    rw [Array.getD_eq_getD_getElem?, Array.getElem?_eq_getElem hbuffer, Option.getD_some]
  unfold fill Display.fill
  dsimp only
  split
  · next hcontains =>
    rw [hcolour, Option.bind_eq_bind, Option.bind_some, fillRows_eq]
    · rfl
    · intro row hrow
      exact index_add_width_le hcontains (List.mem_range.mp hrow)
  · rfl

theorem copyOut_eq {request : Request} {canvas : Canvas} {extent : Nat}
    (hextent : request.bufferExtent request.destinationX request.destinationY = .ok extent)
    (hbuffer : extent ≤ canvas.buffer.size) :
    copyOut request canvas = some (sides (Display.copyOut request canvas)) := by
  unfold copyOut Display.copyOut
  dsimp only
  split
  · next hcontains =>
    rw [copyRows_eq]
    · rfl
    · intro row hrow
      exact index_add_width_le hcontains (List.mem_range.mp hrow)
    · intro row hrow
      exact Nat.le_trans (row_le_of_bufferExtent hextent (List.mem_range.mp hrow)) hbuffer
  · rfl

theorem copyIn_eq {request : Request} {canvas : Canvas} {extent : Nat}
    (hextent : request.bufferExtent request.sourceX request.sourceY = .ok extent)
    (hbuffer : extent ≤ canvas.buffer.size) :
    copyIn request canvas = some (sides (Display.copyIn request canvas)) := by
  unfold copyIn Display.copyIn
  dsimp only
  split
  · next hcontains =>
    rw [copyRows_eq]
    · rfl
    · intro row hrow
      exact Nat.le_trans (row_le_of_bufferExtent hextent (List.mem_range.mp hrow)) hbuffer
    · intro row hrow
      exact index_add_width_le hcontains (List.mem_range.mp hrow)
  · rfl

theorem mem_moveOrder {request : Request} {row : Nat} :
    row ∈ moveOrder request ↔ row < request.height := by
  unfold moveOrder
  split
  · rw [List.mem_reverse, List.mem_range]
  · exact List.mem_range

theorem move_eq (request : Request) (canvas : Canvas) :
    move request canvas = some (sides (Display.move request canvas)) := by
  unfold move Display.move
  dsimp only
  split
  · next hcontains =>
    rw [moveRows_eq]
    · rfl
    · intro row hrow
      exact index_add_width_le hcontains.1 (mem_moveOrder.mp hrow)
    · intro row hrow
      exact index_add_width_le hcontains.2 (mem_moveOrder.mp hrow)
  · rfl

theorem transfer_eq (request : Request) (canvas : Canvas) :
    transfer request canvas = some (sides (Display.transfer request canvas)) := by
  rw [transfer_byOperation, transfer]
  cases hlength : request.bufferLength with
  | error failure => rfl
  | ok needed =>
    dsimp only
    by_cases hsmall : canvas.buffer.size < needed
    · rw [if_pos hsmall, if_pos hsmall]
      rfl
    · rw [if_neg hsmall, if_neg hsmall]
      have hbuffer : needed ≤ canvas.buffer.size := Nat.le_of_not_lt hsmall
      unfold Request.bufferLength at hlength
      split at hlength
      · cases hlength
      · cases hoperation : request.operation with
        | videoFill =>
          rw [hoperation] at hlength
          cases hlength
          exact fill_eq hbuffer
        | videoToBuffer =>
          rw [hoperation] at hlength
          exact copyOut_eq hlength hbuffer
        | bufferToVideo =>
          rw [hoperation] at hlength
          exact copyIn_eq hlength hbuffer
        | videoToVideo => exact move_eq request canvas

/-- Every row that a transfer reads or writes lies in its pixels. -/
theorem transferPixels_eq (request : Request) (width height stride : Nat)
    (memory : Pixels × Pixels) :
    transferPixels request width height stride memory =
      some (Display.transferPixels request width height stride memory) := by
  unfold transferPixels Display.transferPixels
  cases FrameBuffer.ofPixels memory.1 width height stride with
  | error failure => rfl
  | ok frame => exact transfer_eq request ⟨frame, memory.2⟩

end GuestFirmware.Display.Checked
