import GuestFirmware.Proofs.Display.Moves
import GuestFirmware.Proofs.Display.Verdict
import Mathlib.Data.Nat.SuccPred
import Mathlib.Order.SuccPred.Archimedean

/-!
# Pixels into a frame buffer and out of it

A fill and a copy into the frame buffer write rows of scan lines, which have no
pixel in common.  A copy out of the frame buffer writes rows of the caller's
buffer.  These may overlap, because a row of the buffer may start before the one
in front of it has ended.  Then the row that is written last decides.

There are five groups.

* Rows.  `writeRows` is the loop of all three.  `getElem?_writeRows_of_greatest`
  says what it leaves where rows were written, and
  `getElem?_writeRows_of_not_inRow` what it leaves everywhere else.
* Transfers that are carried out.  `transfer_eq_ok_iff` says which ones are.
* Into the frame buffer.  No two rows share a pixel (`isGreatest_line`), so that
  each row is the greatest one of its pixels.  `write_exact` is the result.
* Out of the frame buffer.  `read_exact` is the result for rows that may overlap.
* There and back.  `copy_there_and_back` says that a rectangle can be drawn and
  copied back to where it came from, which changes nothing in the buffer.
-/

namespace GuestFirmware.Display

/-! ## Rows -/

/-- Writes rows one after the other. -/
def writeRows (start : Nat → Nat) (content : Nat → List UInt32) (rows : List Nat)
    (pixels : Pixels) : Pixels :=
  rows.foldl (fun pixels row => writeRow pixels (start row) (content row)) pixels

/-- The rows have one width and lie in the array. -/
def RowsFit (start : Nat → Nat) (content : Nat → List UInt32) (width : Nat) (rows : List Nat)
    (pixels : Pixels) : Prop :=
  ∀ row ∈ rows, (content row).length = width ∧ start row + width ≤ pixels.size

section Rows

variable {start : Nat → Nat} {content : Nat → List UInt32} {width index : Nat} {pixels : Pixels}

/-- The rows below `height` that hold the pixel at an index. -/
def rowsAt (start : Nat → Nat) (width height index : Nat) : Set Nat :=
  {row | row < height ∧ InRow (start row) width index}

theorem size_writeRows (rows : List Nat) :
    (writeRows start content rows pixels).size = pixels.size :=
  size_foldl_writeRow start (fun _ => content) rows pixels

/-- A pixel that lies in no row stays as it is. -/
theorem getElem?_writeRows_of_not_inRow {rows : List Nat}
    (hfit : RowsFit start content width rows pixels)
    (hindex : ∀ row ∈ rows, ¬ InRow (start row) width index) :
    (writeRows start content rows pixels)[index]? = pixels[index]? := by
  induction rows generalizing pixels with
  | nil => rfl
  | cons first rest ih =>
    obtain ⟨⟨hlength, hinside⟩, hrest⟩ := List.forall_mem_cons.1 hfit
    obtain ⟨hfirst, hothers⟩ := List.forall_mem_cons.1 hindex
    have hsize := size_writeRow pixels (start first) (content first)
    have hstep : (writeRow pixels (start first) (content first))[index]? = pixels[index]? := by
      unfold InRow at hfirst
      rw [getElem?_writeRow (by omega), if_neg (by omega)]
    refine Eq.trans (ih ?_ hothers) hstep
    intro row hrow
    rw [hsize]
    exact hrest row hrow

/-- The last row that a pixel lies in decides what it is. -/
theorem getElem?_writeRows_of_last {row : Nat} {before after : List Nat}
    (hfit : RowsFit start content width (before ++ row :: after) pixels)
    (hrow : InRow (start row) width index)
    (hafter : ∀ later ∈ after, ¬ InRow (start later) width index) :
    (writeRows start content (before ++ row :: after) pixels)[index]? =
      (content row)[index - start row]? := by
  let reached := writeRows start content before pixels
  have hsize : reached.size = pixels.size := size_writeRows before
  obtain ⟨hlength, hinside⟩ := hfit row (List.mem_append_right _ List.mem_cons_self)
  have hlater : RowsFit start content width after
      (writeRow reached (start row) (content row)) := by
    intro later hlater
    rw [size_writeRow, hsize]
    exact hfit later (List.mem_append_right _ (List.mem_cons_of_mem row hlater))
  have hsplit : writeRows start content (before ++ row :: after) pixels =
      writeRows start content after (writeRow reached (start row) (content row)) :=
    List.foldl_append
  unfold InRow at hrow
  rw [hsplit, getElem?_writeRows_of_not_inRow hlater hafter, getElem?_writeRow (by omega),
    if_pos (by omega)]

/-- Rows are written from the first to the last, so that the greatest one that a
pixel lies in decides what it is. -/
theorem getElem?_writeRows_of_greatest {row height : Nat}
    (hfit : RowsFit start content width (List.range height) pixels)
    (hrow : IsGreatest (rowsAt start width height index) row) :
    (writeRows start content (List.range height) pixels)[index]? =
      (content row)[index - start row]? := by
  obtain ⟨⟨hheight, hinside⟩, hgreatest⟩ := hrow
  obtain ⟨before, after, hrange⟩ := List.append_of_mem (List.mem_range.2 hheight)
  -- the rows that are written later are greater, so that the pixel lies in none of them
  have hsorted : (before ++ row :: after).Pairwise (· < ·) := hrange ▸ List.pairwise_lt_range
  have hlater := (List.pairwise_cons.1 (List.pairwise_append.1 hsorted).2.1).1
  rw [hrange] at hfit ⊢
  refine getElem?_writeRows_of_last hfit hinside fun later hmem hrow => ?_
  have hbelow : later < height := by
    rw [← List.mem_range, hrange]
    exact List.mem_append_right _ (List.mem_cons_of_mem row hmem)
  exact Nat.not_le.2 (hlater later hmem) (hgreatest ⟨hbelow, hrow⟩)

/-- A pixel that lies in a row lies in a greatest one. -/
theorem exists_isGreatest_rowsAt {height : Nat}
    (h : (rowsAt start width height index).Nonempty) :
    ∃ row, IsGreatest (rowsAt start width height index) row :=
  BddAbove.exists_isGreatest_of_nonempty ⟨height, fun _ hrow => hrow.1.le⟩ h

end Rows

/-! ## Transfers that are carried out -/

section Transfers

variable {request : Request} {canvas : Canvas}

/-- What a transfer does once the buffer is found to be large enough. -/
def carryOut (request : Request) (canvas : Canvas) : Except BltError Unit × Canvas :=
  match request.operation with
  | .videoFill => fill request canvas
  | .videoToBuffer => copyOut request canvas
  | .bufferToVideo => copyIn request canvas
  | .videoToVideo => move request canvas

theorem transfer_of_bufferLength {needed : Nat} (hneeded : request.bufferLength = .ok needed)
    (henough : needed ≤ canvas.buffer.size) :
    transfer request canvas = carryOut request canvas := by
  rw [transfer_byOperation, hneeded]
  exact if_neg (Nat.not_lt.2 henough)

theorem carryOut_eq_ok_iff :
    (carryOut request canvas).1 = .ok () ↔ ¬ request.Outside canvas.frame := by
  have hends : ∀ {visible : Prop} [Decidable visible] {done : Canvas},
      (if visible then ((.ok () : Except BltError Unit), done)
        else (.error .outOfBounds, canvas)).1 = .ok () ↔ ¬ ¬ visible := by
    intro visible _ done
    by_cases h : visible <;> simp [h]
  rw [carryOut, Request.Outside]
  cases request.operation with
  | videoFill => exact hends
  | videoToBuffer => exact hends
  | bufferToVideo => exact hends
  | videoToVideo => exact hends

/-- A transfer is carried out if the buffer is large enough and no rectangle leaves
the visible part. -/
theorem transfer_eq_ok_iff :
    (transfer request canvas).1 = .ok () ↔
      ∃ needed, request.bufferLength = .ok needed ∧ needed ≤ canvas.buffer.size ∧
        ¬ request.Outside canvas.frame := by
  cases hlength : request.bufferLength with
  | error failure => simp [transfer_byOperation, hlength]
  | ok needed =>
    by_cases henough : needed ≤ canvas.buffer.size
    · rw [transfer_of_bufferLength hlength henough, carryOut_eq_ok_iff]
      simp [henough]
    · simp [transfer_byOperation, hlength, Nat.not_le.1 henough, henough]

theorem not_empty_of_bufferLength {needed : Nat} (h : request.bufferLength = .ok needed) :
    ¬ request.Empty := by
  intro hempty
  rw [Request.bufferLength_of_empty hempty] at h
  cases h

end Transfers

/-! ## Into the frame buffer -/

namespace Request

/-- Where the buffer holds a pixel of a rectangle. -/
def bufferIndex (request : Request) (x y : Nat) : Nat :=
  y * request.bufferStride + x

/-- A row of pixels that a request writes into the frame buffer. -/
def drawnRow (request : Request) (buffer : Pixels) (row : Nat) : List UInt32 :=
  match request.operation with
  | .videoFill => List.replicate request.width (buffer.getD 0 0)
  | _ => readRow buffer (request.bufferIndex request.sourceX (request.sourceY + row))
      request.width

/-- The memory of the frame buffer with the rows of a request drawn. -/
def drawn (request : Request) (canvas : Canvas) : Pixels :=
  writeRows (fun row => canvas.frame.index request.destinationX (request.destinationY + row))
    (request.drawnRow canvas.buffer) (List.range request.height) canvas.frame.pixels

/-- The request writes into the frame buffer what it takes from the buffer. -/
def Draws (request : Request) : Prop :=
  request.operation = .videoFill ∨ request.operation = .bufferToVideo

variable {request : Request}

theorem drawnRow_of_fill (h : request.operation = .videoFill) (buffer : Pixels) :
    request.drawnRow buffer = fun _ => List.replicate request.width (buffer.getD 0 0) := by
  funext row
  rw [drawnRow, h]

theorem drawnRow_of_copy (h : request.operation = .bufferToVideo) (buffer : Pixels) :
    request.drawnRow buffer = fun row =>
      readRow buffer (request.bufferIndex request.sourceX (request.sourceY + row))
        request.width := by
  funext row
  rw [drawnRow, h]

/-- The rows of a request have its width, and they are drawn on a visible
rectangle. -/
structure Drawable (request : Request) (canvas : Canvas) : Prop where
  contains : canvas.frame.Contains request.destinationX request.destinationY request.width
    request.height
  length : ∀ row < request.height, (request.drawnRow canvas.buffer row).length = request.width

end Request

section Drawing

variable {request : Request} {canvas : Canvas}

/-- A row of a rectangle that is visible shares no pixel with another one. -/
theorem isGreatest_line {frame : FrameBuffer} {x y width height row column : Nat}
    (hcontains : frame.Contains x y width height) (hrow : row < height)
    (hcolumn : column < width) :
    IsGreatest (rowsAt (fun row => frame.index x (y + row)) width height
      (frame.index (x + column) (y + row))) row := by
  have hline : x + width ≤ frame.stride := Nat.le_trans hcontains.1 frame.width_le_stride
  rw [index_add]
  refine ⟨⟨hrow, inRow_add hcolumn⟩, ?_⟩
  rintro other ⟨-, hother⟩
  by_contra hbelow
  have hapart : Apart width (frame.index x (y + other)) (frame.index x (y + row)) :=
    index_apart hline hline (by omega)
  exact hapart.not_inRow (inRow_add hcolumn) hother

/-- The rows that a request draws have its width. -/
theorem length_drawnRow (hdraws : request.Draws) {needed row : Nat}
    (hneeded : request.bufferLength = .ok needed) (henough : needed ≤ canvas.buffer.size)
    (hrow : row < request.height) :
    (request.drawnRow canvas.buffer row).length = request.width := by
  rcases hdraws with hfill | hcopy
  · rw [Request.drawnRow_of_fill hfill, List.length_replicate]
  · rw [Request.drawnRow_of_copy hcopy]
    rw [Request.bufferLength_of_pixels (not_empty_of_bufferLength hneeded), hcopy] at hneeded
    exact length_readRow (Nat.le_trans (Checked.row_le_of_bufferExtent hneeded hrow) henough)

/-- A request that draws and is carried out draws its rows on a visible
rectangle. -/
theorem transfer_draws (hdraws : request.Draws) (hdone : (transfer request canvas).1 = .ok ()) :
    request.Drawable canvas ∧
      (transfer request canvas).2 =
        { canvas with
          frame := canvas.frame.withPixels (request.drawn canvas) (size_writeRows _) } := by
  obtain ⟨needed, hneeded, henough, hinside⟩ := transfer_eq_ok_iff.1 hdone
  have hcontains : canvas.frame.Contains request.destinationX request.destinationY request.width
      request.height := by
    rw [Request.Outside] at hinside
    rcases hdraws with hoperation | hoperation <;> rw [hoperation] at hinside <;>
      exact not_not.1 hinside
  refine ⟨⟨hcontains, fun row => length_drawnRow hdraws hneeded henough⟩, ?_⟩
  rw [transfer_of_bufferLength hneeded henough, carryOut]
  rcases hdraws with hfill | hcopy
  · simp only [hfill, fill, if_pos hcontains, Request.drawn, Request.drawnRow_of_fill hfill]
    rfl
  · simp only [hcopy, copyIn, if_pos hcontains, Request.drawn, Request.drawnRow_of_copy hcopy]
    rfl

theorem getElem?_drawnRow_of_fill (hfill : request.operation = .videoFill) {row column : Nat}
    (hcolumn : column < request.width) (hbuffer : 0 < canvas.buffer.size) :
    (request.drawnRow canvas.buffer row)[column]? = canvas.buffer[0]? := by
  rw [Request.drawnRow_of_fill hfill, List.getElem?_replicate, if_pos hcolumn,
    Array.getD_eq_getD_getElem?, Array.getElem?_eq_getElem hbuffer, Option.getD_some]

theorem getElem?_drawnRow_of_copy (hcopy : request.operation = .bufferToVideo) {row column : Nat}
    (hcolumn : column < request.width) :
    (request.drawnRow canvas.buffer row)[column]? =
      canvas.buffer[request.bufferIndex request.sourceX (request.sourceY + row) + column]? := by
  rw [Request.drawnRow_of_copy hcopy, getElem?_readRow hcolumn]

/-- A fill is carried out with a buffer that holds a pixel. -/
theorem buffer_pos_of_fill (hfill : request.operation = .videoFill)
    (hdone : (transfer request canvas).1 = .ok ()) : 0 < canvas.buffer.size := by
  obtain ⟨needed, hneeded, henough, -⟩ := transfer_eq_ok_iff.1 hdone
  rw [Request.bufferLength_of_pixels (not_empty_of_bufferLength hneeded), hfill] at hneeded
  cases hneeded
  exact henough

theorem rowsFit_drawn (h : request.Drawable canvas) :
    RowsFit (fun row => canvas.frame.index request.destinationX (request.destinationY + row))
      (request.drawnRow canvas.buffer) request.width (List.range request.height)
      canvas.frame.pixels := by
  intro row hrow
  have hbelow := List.mem_range.1 hrow
  exact ⟨h.length row hbelow, Checked.index_add_width_le h.contains hbelow⟩

theorem getElem?_drawn (h : request.Drawable canvas) {row column : Nat}
    (hrow : row < request.height) (hcolumn : column < request.width) :
    (request.drawn canvas)[canvas.frame.index (request.destinationX + column)
        (request.destinationY + row)]? = (request.drawnRow canvas.buffer row)[column]? := by
  rw [Request.drawn, getElem?_writeRows_of_greatest (rowsFit_drawn h)
    (isGreatest_line h.contains hrow hcolumn), index_add, Nat.add_sub_cancel_left]

theorem getElem?_drawn_of_ne (h : request.Drawable canvas) {index : Nat}
    (hindex : ∀ row < request.height, ∀ column < request.width,
      index ≠ canvas.frame.index (request.destinationX + column) (request.destinationY + row)) :
    (request.drawn canvas)[index]? = canvas.frame.pixels[index]? := by
  refine getElem?_writeRows_of_not_inRow (rowsFit_drawn h) fun row hrow => ?_
  exact not_inRow_of_ne (hindex row (List.mem_range.1 hrow))

/-- A request that draws and is carried out draws exactly its rectangle.  A fill
draws the first pixel of the buffer, and a copy the pixels of a rectangle of the
buffer whose rows are `delta` bytes apart, or follow each other if `delta` is zero.
All other pixels of the memory stay, those behind the visible part of a scan line and
those behind the last scan line included, and so does the buffer. -/
theorem write_exact {request : Request} {canvas : Canvas}
    (hoperation : request.operation = .videoFill ∨ request.operation = .bufferToVideo)
    (hdone : (transfer request canvas).1 = .ok ()) :
    let stride := if request.delta = 0 then request.width else request.delta / bytesPerPixel
    let frame := canvas.frame
    let written := (transfer request canvas).2
    (∀ row < request.height, ∀ column < request.width, ∃ pixel,
      written.frame.pixels[frame.index (request.destinationX + column)
          (request.destinationY + row)]? = some pixel ∧
        (request.operation = .videoFill → canvas.buffer[0]? = some pixel) ∧
        (request.operation = .bufferToVideo →
          canvas.buffer[(request.sourceY + row) * stride + request.sourceX + column]? =
            some pixel)) ∧
    (∀ index, (∀ row < request.height, ∀ column < request.width,
        index ≠ frame.index (request.destinationX + column) (request.destinationY + row)) →
      written.frame.pixels[index]? = frame.pixels[index]?) ∧
    written.frame.pixels.size = frame.pixels.size ∧ written.frame.width = frame.width ∧
    written.frame.height = frame.height ∧ written.frame.stride = frame.stride ∧
    written.buffer = canvas.buffer := by
  intro stride frame written
  obtain ⟨hdrawable, hdrawn⟩ := transfer_draws hoperation hdone
  have hwritten : written = _ := hdrawn
  rw [hwritten]
  refine ⟨fun row hrow column hcolumn => ?_, fun index hindex => ?_, size_writeRows _, rfl, rfl,
    rfl, rfl⟩
  · have hpixel := List.getElem?_eq_getElem ((hdrawable.length row hrow).symm ▸ hcolumn)
    refine ⟨_, (getElem?_drawn hdrawable hrow hcolumn).trans hpixel, ?_, ?_⟩
    · intro hfill
      rw [← hpixel, getElem?_drawnRow_of_fill hfill hcolumn (buffer_pos_of_fill hfill hdone)]
    · intro hcopy
      rw [← hpixel, getElem?_drawnRow_of_copy hcopy hcolumn]
      rfl
  · exact getElem?_drawn_of_ne hdrawable hindex

/-- Draws two rows of three pixels that start two pixels apart in the buffer. -/
def overlappingRows : Request where
  operation := .bufferToVideo
  sourceX := 1
  sourceY := 0
  destinationX := 1
  destinationY := 1
  width := 3
  height := 2
  delta := 8

theorem write_exact_overlappingRows :
    overlappingRows.operation = .bufferToVideo ∧
    (transfer overlappingRows ⟨numberedFrame, #[30, 31, 32, 33, 34, 35]⟩).1 = .ok () ∧
    (transfer overlappingRows ⟨numberedFrame, #[30, 31, 32, 33, 34, 35]⟩).2.frame.pixels =
      #[0, 1, 2, 3, 4, 5, 31, 32, 33, 9, 10, 33, 34, 35, 14, 15] ∧
    ∃ pixel, (transfer overlappingRows ⟨numberedFrame, #[30, 31, 32, 33, 34, 35]⟩).2.frame.pixels[
        numberedFrame.index 1 2]? = some pixel ∧
      (#[30, 31, 32, 33, 34, 35] : Pixels)[3]? = some pixel := by
  have hdone :
      (transfer overlappingRows ⟨numberedFrame, #[30, 31, 32, 33, 34, 35]⟩).1 = .ok () := by rfl
  obtain ⟨hdrawn, -⟩ := write_exact (.inr rfl) hdone
  obtain ⟨pixel, hpixel, -, hcopied⟩ := hdrawn 1 (by decide) 0 (by decide)
  exact ⟨rfl, hdone, by decide +kernel, pixel, hpixel, hcopied rfl⟩

end Drawing

/-! ## Out of the frame buffer -/

namespace Request

/-- The row of the frame buffer that a request reads. -/
def readLine (request : Request) (frame : FrameBuffer) (row : Nat) : List UInt32 :=
  readRow frame.pixels (frame.index request.sourceX (request.sourceY + row)) request.width

/-- The buffer with the rows of a request copied into it. -/
def copied (request : Request) (canvas : Canvas) : Pixels :=
  writeRows (fun row => request.bufferIndex request.destinationX (request.destinationY + row))
    (request.readLine canvas.frame) (List.range request.height) canvas.buffer

/-- The rows of the destination in the buffer that hold the pixel at an index. -/
def holding (request : Request) (index : Nat) : Set Nat :=
  rowsAt (fun row => request.bufferIndex request.destinationX (request.destinationY + row))
    request.width request.height index

/-- The rows that a request reads have its width, and they are copied to rows that
lie in the buffer. -/
def Copyable (request : Request) (canvas : Canvas) : Prop :=
  RowsFit (fun row => request.bufferIndex request.destinationX (request.destinationY + row))
    (request.readLine canvas.frame) request.width (List.range request.height) canvas.buffer

end Request

section Reading

variable {request : Request} {canvas : Canvas}

theorem transfer_copyOut (hoperation : request.operation = .videoToBuffer)
    (hdone : (transfer request canvas).1 = .ok ()) :
    canvas.frame.Contains request.sourceX request.sourceY request.width request.height ∧
      request.Copyable canvas ∧
      (transfer request canvas).2 = { canvas with buffer := request.copied canvas } := by
  obtain ⟨needed, hneeded, henough, hinside⟩ := transfer_eq_ok_iff.1 hdone
  have hcontains : canvas.frame.Contains request.sourceX request.sourceY request.width
      request.height := by
    rw [Request.Outside, hoperation] at hinside
    exact not_not.1 hinside
  refine ⟨hcontains, fun row hrow => ?_, ?_⟩
  · have hbelow := List.mem_range.1 hrow
    rw [Request.bufferLength_of_pixels (not_empty_of_bufferLength hneeded), hoperation] at hneeded
    exact ⟨length_readRow (Checked.index_add_width_le hcontains hbelow),
      Nat.le_trans (Checked.row_le_of_bufferExtent hneeded hbelow) henough⟩
  · rw [transfer_of_bufferLength hneeded henough]
    simp only [carryOut, hoperation, copyOut, if_pos hcontains]
    rfl

/-- A pixel of the buffer that is copied to comes from the last row that holds it. -/
theorem getElem?_copied (hfit : request.Copyable canvas) {row index : Nat}
    (hrow : IsGreatest (request.holding index) row) :
    (request.copied canvas)[index]? =
      canvas.frame.pixels[canvas.frame.index (request.sourceX + (index -
        request.bufferIndex request.destinationX (request.destinationY + row)))
        (request.sourceY + row)]? := by
  have hinside : InRow (request.bufferIndex request.destinationX (request.destinationY + row))
      request.width index := hrow.1.2
  unfold InRow at hinside
  rw [Request.copied, getElem?_writeRows_of_greatest hfit hrow, Request.readLine,
    getElem?_readRow (by omega), index_add]

theorem getElem?_copied_of_not_holding (hfit : request.Copyable canvas) {index : Nat}
    (h : ¬ (request.holding index).Nonempty) :
    (request.copied canvas)[index]? = canvas.buffer[index]? :=
  getElem?_writeRows_of_not_inRow hfit fun row hrow hinside =>
    h ⟨row, List.mem_range.1 hrow, hinside⟩

/-- A copy out of the frame buffer that is carried out fills each pixel of the
buffer from the last row of the rectangle that holds it.  The rows start `delta`
bytes apart, or follow each other if `delta` is zero, and they overlap if that is
less than their width.  All other pixels of the buffer stay, and so does the frame
buffer. -/
theorem read_exact {request : Request} {canvas : Canvas}
    (hoperation : request.operation = .videoToBuffer)
    (hdone : (transfer request canvas).1 = .ok ()) :
    let stride := if request.delta = 0 then request.width else request.delta / bytesPerPixel
    let start := fun row => (request.destinationY + row) * stride + request.destinationX
    let holding := fun index =>
      {row | row < request.height ∧ start row ≤ index ∧ index < start row + request.width}
    let frame := canvas.frame
    let read := (transfer request canvas).2
    (∀ index, (holding index).Nonempty → ∃ row pixel, IsGreatest (holding index) row ∧
      read.buffer[index]? = some pixel ∧
      frame.pixels[frame.index (request.sourceX + (index - start row))
        (request.sourceY + row)]? = some pixel) ∧
    (∀ index, ¬ (holding index).Nonempty → read.buffer[index]? = canvas.buffer[index]?) ∧
    read.buffer.size = canvas.buffer.size ∧ read.frame = frame := by
  intro stride start holding frame read
  obtain ⟨hcontains, hfit, hcopied⟩ := transfer_copyOut hoperation hdone
  have hread : read = _ := hcopied
  rw [hread]
  refine ⟨fun index hnonempty => ?_, fun index hempty => ?_, size_writeRows _, rfl⟩
  · obtain ⟨row, hrow⟩ := exists_isGreatest_rowsAt hnonempty
    have hstart : start row ≤ index := hrow.1.2.1
    have hend : index < start row + request.width := hrow.1.2.2
    have hline : frame.index request.sourceX (request.sourceY + row) + request.width ≤
        frame.pixels.size := Checked.index_add_width_le hcontains hrow.1.1
    have hinside : frame.index (request.sourceX + (index - start row)) (request.sourceY + row) <
        frame.pixels.size := by
      rw [index_add]
      omega
    have hpixel := Array.getElem?_eq_getElem hinside
    exact ⟨row, _, hrow, (getElem?_copied hfit hrow).trans hpixel, hpixel⟩
  · exact getElem?_copied_of_not_holding hfit hempty

/-- Copies three lines of three pixels to rows that start one pixel apart. -/
def stackedRows : Request where
  operation := .videoToBuffer
  sourceX := 1
  sourceY := 0
  destinationX := 0
  destinationY := 0
  width := 3
  height := 3
  delta := 4

/-- All three rows hold the third pixel of the buffer. -/
theorem read_exact_stackedRows :
    stackedRows.operation = .videoToBuffer ∧
    (transfer stackedRows ⟨numberedFrame, #[30, 31, 32, 33, 34, 35]⟩).1 = .ok () ∧
    (transfer stackedRows ⟨numberedFrame, #[30, 31, 32, 33, 34, 35]⟩).2.buffer =
      #[1, 6, 11, 12, 13, 35] ∧
    ∃ row pixel, IsGreatest (stackedRows.holding 2) row ∧
      (transfer stackedRows ⟨numberedFrame, #[30, 31, 32, 33, 34, 35]⟩).2.buffer[2]? =
        some pixel := by
  have hdone : (transfer stackedRows ⟨numberedFrame, #[30, 31, 32, 33, 34, 35]⟩).1 = .ok () := by
    rfl
  obtain ⟨hheld, -⟩ := read_exact rfl hdone
  obtain ⟨row, pixel, hrow, hpixel, -⟩ := hheld 2 ⟨0, by decide, by decide, by decide⟩
  exact ⟨rfl, hdone, by decide +kernel, row, pixel, hrow, hpixel⟩

end Reading

/-! ## There and back -/

/-- The request that copies the drawn rectangle out again, to where it came from. -/
def Request.reversed (request : Request) : Request :=
  { request with
    operation := .videoToBuffer
    sourceX := request.destinationX
    sourceY := request.destinationY
    destinationX := request.sourceX
    destinationY := request.sourceY }

section Reversed

variable {request : Request} {canvas : Canvas}

theorem Request.bufferLength_reversed (hoperation : request.operation = .bufferToVideo) :
    request.reversed.bufferLength = request.bufferLength := by
  unfold Request.bufferLength
  rw [hoperation]
  rfl

/-- Both directions use the same rectangles. -/
theorem transfer_reversed_ok (hoperation : request.operation = .bufferToVideo)
    (hdone : (transfer request canvas).1 = .ok ()) :
    (transfer request.reversed (transfer request canvas).2).1 = .ok () := by
  obtain ⟨needed, hneeded, henough, hinside⟩ := transfer_eq_ok_iff.1 hdone
  rw [(transfer_draws (.inr hoperation) hdone).2]
  refine transfer_eq_ok_iff.2 ⟨needed, ?_, henough, ?_⟩
  · rw [Request.bufferLength_reversed hoperation, hneeded]
  · rw [Request.Outside, hoperation] at hinside
    exact hinside

/-- The pixel that comes back is the one that went in, because both directions agree
on where a row of the buffer and a row of the frame buffer begin. -/
theorem getElem?_drawn_of_holding (hoperation : request.operation = .bufferToVideo)
    (h : request.Drawable canvas) {row index : Nat}
    (hrow : row ∈ request.reversed.holding index) :
    (request.drawn canvas)[canvas.frame.index (request.destinationX + (index -
        request.bufferIndex request.sourceX (request.sourceY + row)))
        (request.destinationY + row)]? = canvas.buffer[index]? := by
  obtain ⟨hbelow, hstart, hend⟩ := hrow
  change request.bufferIndex request.sourceX (request.sourceY + row) ≤ index at hstart
  change index < request.bufferIndex request.sourceX (request.sourceY + row) + request.width
    at hend
  have hcolumn : index - request.bufferIndex request.sourceX (request.sourceY + row) <
      request.width := by omega
  rw [getElem?_drawn h hbelow hcolumn, getElem?_drawnRow_of_copy hoperation hcolumn,
    Nat.add_sub_cancel' hstart]

/-- A rectangle that was copied from the buffer into the frame buffer can be copied
back, and then the buffer is what it was.  Rows of the buffer that overlap are read
several times and written several times, always with the same pixels. -/
theorem copy_there_and_back {request : Request} {canvas : Canvas}
    (hoperation : request.operation = .bufferToVideo)
    (hdone : (transfer request canvas).1 = .ok ()) :
    let drawn := (transfer request canvas).2
    let back := transfer request.reversed drawn
    back.1 = .ok () ∧ back.2.buffer = canvas.buffer ∧ back.2.frame = drawn.frame := by
  intro drawn back
  have hback : back.1 = .ok () := transfer_reversed_ok hoperation hdone
  obtain ⟨hdrawable, hdrawn⟩ := transfer_draws (.inr hoperation) hdone
  obtain ⟨-, hfit, hcopied⟩ := transfer_copyOut rfl hback
  have hresult : back.2 = { drawn with buffer := request.reversed.copied drawn } := hcopied
  have hsame : drawn = _ := hdrawn
  rw [hresult]
  refine ⟨hback, Array.ext_getElem? fun index => ?_, rfl⟩
  by_cases hheld : (request.reversed.holding index).Nonempty
  · obtain ⟨row, hrow⟩ := exists_isGreatest_rowsAt hheld
    rw [getElem?_copied hfit hrow, hsame]
    exact getElem?_drawn_of_holding hoperation hdrawable hrow.1
  · rw [getElem?_copied_of_not_holding hfit hheld, hsame]

theorem copy_there_and_back_overlappingRows :
    overlappingRows.operation = .bufferToVideo ∧
    (transfer overlappingRows ⟨numberedFrame, #[30, 31, 32, 33, 34, 35]⟩).1 = .ok () ∧
    (transfer overlappingRows.reversed
      (transfer overlappingRows ⟨numberedFrame, #[30, 31, 32, 33, 34, 35]⟩).2).2.buffer =
        #[30, 31, 32, 33, 34, 35] := by
  have hdone :
      (transfer overlappingRows ⟨numberedFrame, #[30, 31, 32, 33, 34, 35]⟩).1 = .ok () := by rfl
  obtain ⟨-, hbuffer, -⟩ := copy_there_and_back rfl hdone
  exact ⟨rfl, hdone, hbuffer⟩

end Reversed

end GuestFirmware.Display
