import GuestFirmware.Proofs.Display.Bounds
import Mathlib.Tactic.SplitIfs

/-!
# Transfers in machine words

The sizes and positions that a transfer computes with are machine words.  This
module repeats the transfer with words.  A result that is no word ends the
repeated transfer with nothing, and so does a row that leaves its pixels.  In two
places a result that is no word is expected and answered with a refusal: where the
pixels are counted that the buffer must hold, and where a rectangle is compared
with the visible part.

There is one lemma for each function.  `Words.transfer_eq` is the lemma for the
whole transfer: with sizes that are words it answers, and it answers what the
transfer answers, whatever was asked for.
-/

namespace GuestFirmware.Display

/-- The sizes that a transfer compares with are machine words. -/
structure Canvas.InWords (canvas : Canvas) : Prop where
  width : canvas.frame.width < wordLimit
  height : canvas.frame.height < wordLimit
  pixels : canvas.frame.pixels.size < wordLimit
  buffer : canvas.buffer.size < wordLimit

namespace Words

/-! ## Numbers -/

/-- A number as a machine word, nothing if it is none. -/
def word (value : Nat) : Option Nat :=
  if value < wordLimit then some value else none

/-- Where row `row` of a rectangle starts, in lines of `stride` pixels. -/
def rowStart (stride x y row : Nat) : Option Nat := do
  let line ← word (y + row)
  let start ← word (line * stride)
  word (start + x)

theorem word_of_lt {value : Nat} (h : value < wordLimit) : word value = some value :=
  if_pos h

/-- A sum or product is the last word of the steps that lead to it. -/
theorem word_bind {value last : Nat} {next : Nat → Option Nat} (hle : value ≤ last)
    (hnext : next value = word last) : (word value).bind next = word last := by
  by_cases hword : value < wordLimit
  · rw [word_of_lt hword, Option.bind_some, hnext]
  · have hlast : ¬ last < wordLimit := fun h => hword (Nat.lt_of_le_of_lt hle h)
    rw [word, word, if_neg hword, if_neg hlast, Option.bind_none]

theorem rowStart_eq {stride : Nat} (hstride : 0 < stride) (x y row : Nat) :
    rowStart stride x y row = word ((y + row) * stride + x) := by
  have hline : y + row ≤ (y + row) * stride := Nat.le_mul_of_pos_right _ hstride
  have hstart : (y + row) * stride ≤ (y + row) * stride + x := Nat.le_add_right _ _
  exact word_bind (Nat.le_trans hline hstart) (word_bind hstart rfl)

theorem rowStart_of_lt {stride x y row width : Nat} (hstride : 0 < stride)
    (h : (y + row) * stride + x + width < wordLimit) :
    rowStart stride x y row = some ((y + row) * stride + x) := by
  rw [rowStart_eq hstride, word_of_lt (by omega)]

/-! ## The pixels of the buffer -/

/-- The last row of a rectangle, nothing if it has no rows. -/
def lastRow (request : Request) : Option Nat :=
  if 1 ≤ request.height then some (request.height - 1) else none

/-- The end of a rectangle in the buffer.  An end that is no word is refused. -/
def bufferExtent (request : Request) (x y : Nat) : Option (Except BltError Nat) :=
  if request.delta % bytesPerPixel ≠ 0 then some (.error (.invalidDelta request.delta))
  else do
    let last ← lastRow request
    let extent := (rowStart request.bufferStride x y last).bind fun start =>
      word (start + request.width)
    return extent.elim (.error .bufferTooSmall) .ok

def bufferLength (request : Request) : Option (Except BltError Nat) :=
  if request.width = 0 ∨ request.height = 0 then some (.error .emptyRectangle)
  else match request.operation with
    | .videoFill => some (.ok 1)
    | .videoToVideo => some (.ok 0)
    | .videoToBuffer => bufferExtent request request.destinationX request.destinationY
    | .bufferToVideo => bufferExtent request request.sourceX request.sourceY

/-- Rows of whole pixels are at least one pixel apart. -/
theorem bufferStride_pos {request : Request} (hwidth : 0 < request.width)
    (hdelta : request.delta % bytesPerPixel = 0) : 0 < request.bufferStride := by
  have hpixel : bytesPerPixel = 4 := rfl
  rw [Request.bufferStride]
  split
  · exact hwidth
  · rw [hpixel] at hdelta ⊢
    omega

theorem bufferExtent_eq {request : Request} (hwidth : 0 < request.width)
    (hheight : 0 < request.height) (x y : Nat) :
    bufferExtent request x y = some (request.bufferExtent x y) := by
  unfold bufferExtent Request.bufferExtent
  by_cases hdelta : request.delta % bytesPerPixel ≠ 0
  · rw [if_pos hdelta, if_pos hdelta]
  · have hstride := bufferStride_pos hwidth (Decidable.not_not.1 hdelta)
    let start := (y + (request.height - 1)) * request.bufferStride + x
    have hextent : ((word start).bind fun start => word (start + request.width)) =
        word (start + request.width) :=
      word_bind (Nat.le_add_right start request.width) rfl
    rw [if_neg hdelta, if_neg hdelta, lastRow, if_pos (Nat.one_le_iff_ne_zero.2 (by omega)),
      Option.bind_eq_bind, Option.bind_some, rowStart_eq hstride, hextent, word]
    dsimp only
    split <;> rfl

theorem bufferLength_eq (request : Request) :
    bufferLength request = some request.bufferLength := by
  unfold bufferLength Request.bufferLength
  split
  · rfl
  · next hempty =>
    have hwidth : 0 < request.width := by omega
    have hheight : 0 < request.height := by omega
    cases request.operation with
    | videoFill => rfl
    | videoToBuffer => exact bufferExtent_eq hwidth hheight _ _
    | bufferToVideo => exact bufferExtent_eq hwidth hheight _ _
    | videoToVideo => rfl

/-! ## Rows -/

/-- The pixels of a row, up to an end that must be a word. -/
def readRow (pixels : Pixels) (start width : Nat) : Option (List UInt32) := do
  let _ ← word (start + width)
  Checked.readRow pixels start width

/-- The array with a row written, up to an end that must be a word. -/
def writeRow (pixels : Pixels) (start width : Nat) (row : List UInt32) : Option Pixels := do
  let _ ← word (start + width)
  Checked.writeRow pixels start row

def fillRows (start : Nat → Option Nat) (width : Nat) (colour : UInt32) (rows : List Nat)
    (pixels : Pixels) : Option Pixels :=
  rows.foldlM
    (fun pixels row => do
      writeRow pixels (← start row) width (List.replicate width colour))
    pixels

def copyRows (source : Pixels) (sourceStart targetStart : Nat → Option Nat) (width : Nat)
    (rows : List Nat) (target : Pixels) : Option Pixels :=
  rows.foldlM
    (fun target row => do
      let read ← sourceStart row
      let written ← targetStart row
      writeRow target written width (← readRow source read width))
    target

def moveRows (sourceStart targetStart : Nat → Option Nat) (width : Nat) (rows : List Nat)
    (pixels : Pixels) : Option Pixels :=
  rows.foldlM
    (fun pixels row => do
      let read ← sourceStart row
      let written ← targetStart row
      writeRow pixels written width (← readRow pixels read width))
    pixels

theorem readRow_eq {start width : Nat} (h : start + width < wordLimit) (pixels : Pixels) :
    readRow pixels start width = Checked.readRow pixels start width := by
  rw [readRow, word_of_lt h, Option.bind_eq_bind, Option.bind_some]

theorem writeRow_eq {start width : Nat} (h : start + width < wordLimit) (pixels : Pixels)
    (row : List UInt32) :
    writeRow pixels start width row = Checked.writeRow pixels start row := by
  rw [writeRow, word_of_lt h, Option.bind_eq_bind, Option.bind_some]

theorem foldlM_congr {words checked : Pixels → Nat → Option Pixels} {rows : List Nat}
    (h : ∀ row ∈ rows, ∀ pixels, words pixels row = checked pixels row) (pixels : Pixels) :
    rows.foldlM words pixels = rows.foldlM checked pixels := by
  induction rows generalizing pixels with
  | nil => rfl
  | cons row rest ih =>
    rw [List.foldlM_cons, List.foldlM_cons, h row List.mem_cons_self]
    congr 1
    funext after
    exact ih (fun other hother => h other (List.mem_cons_of_mem row hother)) after

/-- The rows start where they should, and they end at words. -/
def Starts (words : Nat → Option Nat) (starts : Nat → Nat) (width : Nat) (rows : List Nat) :
    Prop :=
  ∀ row ∈ rows, words row = some (starts row) ∧ starts row + width < wordLimit

variable {words sourceWords targetWords : Nat → Option Nat}
  {starts sourceStarts targetStarts : Nat → Nat} {width : Nat} {rows : List Nat}

theorem fillRows_eq (h : Starts words starts width rows) (colour : UInt32) (pixels : Pixels) :
    fillRows words width colour rows pixels = Checked.fillRows starts width colour rows pixels := by
  refine foldlM_congr (fun row hrow before => ?_) pixels
  obtain ⟨hstart, hend⟩ := h row hrow
  rw [hstart, Option.bind_eq_bind, Option.bind_some, writeRow_eq hend]

theorem copyRows_eq (hsource : Starts sourceWords sourceStarts width rows)
    (htarget : Starts targetWords targetStarts width rows) (source target : Pixels) :
    copyRows source sourceWords targetWords width rows target =
      Checked.copyRows source sourceStarts targetStarts width rows target := by
  refine foldlM_congr (fun row hrow before => ?_) target
  obtain ⟨hread, hreadEnd⟩ := hsource row hrow
  obtain ⟨hwritten, hwrittenEnd⟩ := htarget row hrow
  simp only [hread, hwritten, Option.bind_eq_bind, Option.bind_some, readRow_eq hreadEnd,
    writeRow_eq hwrittenEnd]

theorem moveRows_eq (hsource : Starts sourceWords sourceStarts width rows)
    (htarget : Starts targetWords targetStarts width rows) (pixels : Pixels) :
    moveRows sourceWords targetWords width rows pixels =
      Checked.moveRows sourceStarts targetStarts width rows pixels := by
  refine foldlM_congr (fun row hrow before => ?_) pixels
  obtain ⟨hread, hreadEnd⟩ := hsource row hrow
  obtain ⟨hwritten, hwrittenEnd⟩ := htarget row hrow
  simp only [hread, hwritten, Option.bind_eq_bind, Option.bind_some, readRow_eq hreadEnd,
    writeRow_eq hwrittenEnd]

/-! ## Transfers -/

/-- A rectangle lies in the visible part.  One with a right or lower end that is
no word does not. -/
def contains (frame : FrameBuffer) (x y width height : Nat) : Bool :=
  (word (x + width)).any (· ≤ frame.width) && (word (y + height)).any (· ≤ frame.height)

theorem any_word {bound : Nat} (h : bound < wordLimit) (value : Nat) :
    (word value).any (· ≤ bound) = decide (value ≤ bound) := by
  by_cases hword : value < wordLimit
  · rw [word_of_lt hword, Option.any_some]
  · have hbound : ¬ value ≤ bound := fun hle => hword (Nat.lt_of_le_of_lt hle h)
    rw [word, if_neg hword, Option.any_none, decide_eq_false hbound]

theorem contains_eq {canvas : Canvas} (h : canvas.InWords) (x y width height : Nat) :
    contains canvas.frame x y width height =
      decide (canvas.frame.Contains x y width height) := by
  rw [contains, any_word h.width, any_word h.height]
  exact (Bool.decide_and _ _).symm

/-- Where the rows of a rectangle in the frame buffer start. -/
def lineStart (frame : FrameBuffer) (x y row : Nat) : Option Nat :=
  rowStart frame.stride x y row

def fill (request : Request) (canvas : Canvas) :
    Option (Except BltError Unit × Pixels × Pixels) :=
  let frame := canvas.frame
  if contains frame request.destinationX request.destinationY request.width request.height then do
    let colour ← canvas.buffer[0]?
    let pixels ← fillRows (lineStart frame request.destinationX request.destinationY)
      request.width colour (List.range request.height) frame.pixels
    return (.ok (), pixels, canvas.buffer)
  else some (.error .outOfBounds, frame.pixels, canvas.buffer)

def copyOut (request : Request) (canvas : Canvas) :
    Option (Except BltError Unit × Pixels × Pixels) :=
  let frame := canvas.frame
  if contains frame request.sourceX request.sourceY request.width request.height then do
    let buffer ← copyRows frame.pixels (lineStart frame request.sourceX request.sourceY)
      (rowStart request.bufferStride request.destinationX request.destinationY)
      request.width (List.range request.height) canvas.buffer
    return (.ok (), frame.pixels, buffer)
  else some (.error .outOfBounds, frame.pixels, canvas.buffer)

def copyIn (request : Request) (canvas : Canvas) :
    Option (Except BltError Unit × Pixels × Pixels) :=
  let frame := canvas.frame
  if contains frame request.destinationX request.destinationY request.width request.height then do
    let pixels ← copyRows canvas.buffer
      (rowStart request.bufferStride request.sourceX request.sourceY)
      (lineStart frame request.destinationX request.destinationY)
      request.width (List.range request.height) frame.pixels
    return (.ok (), pixels, canvas.buffer)
  else some (.error .outOfBounds, frame.pixels, canvas.buffer)

def move (request : Request) (canvas : Canvas) :
    Option (Except BltError Unit × Pixels × Pixels) :=
  let frame := canvas.frame
  if contains frame request.sourceX request.sourceY request.width request.height &&
      contains frame request.destinationX request.destinationY request.width request.height then do
    let pixels ← moveRows (lineStart frame request.sourceX request.sourceY)
      (lineStart frame request.destinationX request.destinationY)
      request.width (moveOrder request) frame.pixels
    return (.ok (), pixels, canvas.buffer)
  else some (.error .outOfBounds, frame.pixels, canvas.buffer)

def transfer (request : Request) (canvas : Canvas) :
    Option (Except BltError Unit × Pixels × Pixels) := do
  match ← bufferLength request with
  | .error failure => return (.error failure, canvas.frame.pixels, canvas.buffer)
  | .ok needed =>
    if canvas.buffer.size < needed then
      return (.error .bufferTooSmall, canvas.frame.pixels, canvas.buffer)
    else match request.operation with
      | .videoFill => fill request canvas
      | .videoToBuffer => copyOut request canvas
      | .bufferToVideo => copyIn request canvas
      | .videoToVideo => move request canvas

theorem starts_lines {frame : FrameBuffer} {x y width height : Nat} {rows : List Nat}
    (hwords : frame.pixels.size < wordLimit) (hwidth : 0 < width)
    (hcontains : frame.Contains x y width height) (hrows : ∀ row ∈ rows, row < height) :
    Starts (lineStart frame x y) (fun row => frame.index x (y + row)) width rows := by
  intro row hrow
  have hstride : 0 < frame.stride := by
    have hvisible := hcontains.1
    have hline := frame.width_le_stride
    omega
  have hend : (y + row) * frame.stride + x + width < wordLimit :=
    Nat.lt_of_le_of_lt (Checked.index_add_width_le hcontains (hrows row hrow)) hwords
  exact ⟨rowStart_of_lt hstride hend, hend⟩

theorem starts_buffer {request : Request} {x y extent : Nat} (hwidth : 0 < request.width)
    (hextent : request.bufferExtent x y = .ok extent) :
    Starts (rowStart request.bufferStride x y) (fun row => (y + row) * request.bufferStride + x)
      request.width (List.range request.height) := by
  intro row hrow
  have hle := Checked.row_le_of_bufferExtent hextent (List.mem_range.1 hrow)
  unfold Request.bufferExtent at hextent
  split_ifs at hextent with hdelta
  dsimp only at hextent
  split_ifs at hextent with hword
  cases hextent
  have hend := Nat.lt_of_le_of_lt hle hword
  exact ⟨rowStart_of_lt (bufferStride_pos hwidth (Decidable.not_not.1 hdelta)) hend, hend⟩

variable {request : Request} {canvas : Canvas}

theorem fill_eq (hwords : canvas.InWords) (hwidth : 0 < request.width) :
    fill request canvas = Checked.fill request canvas := by
  unfold fill Checked.fill
  simp only [contains_eq hwords, decide_eq_true_eq]
  split
  · next hcontains =>
    have hlines := starts_lines hwords.pixels hwidth hcontains fun row => List.mem_range.1
    simp only [fillRows_eq hlines]
  · rfl

theorem copyOut_eq (hwords : canvas.InWords) (hwidth : 0 < request.width) {extent : Nat}
    (hextent : request.bufferExtent request.destinationX request.destinationY = .ok extent) :
    copyOut request canvas = Checked.copyOut request canvas := by
  unfold copyOut Checked.copyOut
  simp only [contains_eq hwords, decide_eq_true_eq]
  split
  · next hcontains =>
    rw [copyRows_eq (starts_lines hwords.pixels hwidth hcontains fun row => List.mem_range.1)
      (starts_buffer hwidth hextent)]
  · rfl

theorem copyIn_eq (hwords : canvas.InWords) (hwidth : 0 < request.width) {extent : Nat}
    (hextent : request.bufferExtent request.sourceX request.sourceY = .ok extent) :
    copyIn request canvas = Checked.copyIn request canvas := by
  unfold copyIn Checked.copyIn
  simp only [contains_eq hwords, decide_eq_true_eq]
  split
  · next hcontains =>
    rw [copyRows_eq (starts_buffer hwidth hextent)
      (starts_lines hwords.pixels hwidth hcontains fun row => List.mem_range.1)]
  · rfl

theorem move_eq (hwords : canvas.InWords) (hwidth : 0 < request.width) :
    move request canvas = Checked.move request canvas := by
  unfold move Checked.move
  simp only [contains_eq hwords, Bool.and_eq_true, decide_eq_true_eq]
  split
  · next hcontains =>
    rw [moveRows_eq
      (starts_lines hwords.pixels hwidth hcontains.1 fun row => Checked.mem_moveOrder.1)
      (starts_lines hwords.pixels hwidth hcontains.2 fun row => Checked.mem_moveOrder.1)]
  · rfl

/-- Every result of a transfer whose sizes are words is a word, except where a
refusal is the answer to one that is not. -/
theorem transfer_eq (hwords : canvas.InWords) :
    transfer request canvas = some (Checked.sides (Display.transfer request canvas)) := by
  rw [← Checked.transfer_eq, transfer, Checked.transfer, bufferLength_eq, Option.bind_eq_bind,
    Option.bind_some]
  cases hlength : request.bufferLength with
  | error failure => rfl
  | ok needed =>
    dsimp only
    split
    · rfl
    · unfold Request.bufferLength at hlength
      split_ifs at hlength with hempty
      have hwidth : 0 < request.width := by omega
      cases hoperation : request.operation with
      | videoFill => exact fill_eq hwords hwidth
      | videoToBuffer =>
        rw [hoperation] at hlength
        exact copyOut_eq hwords hwidth hlength
      | bufferToVideo =>
        rw [hoperation] at hlength
        exact copyIn_eq hwords hwidth hlength
      | videoToVideo => exact move_eq hwords hwidth

end Words

end GuestFirmware.Display
