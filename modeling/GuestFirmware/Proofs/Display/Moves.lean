import GuestFirmware.Proofs.Display.Bounds
import Mathlib.Tactic.SplitIfs

/-!
# Moving a rectangle inside a frame buffer

A move reads its source and writes its destination in the same memory, row by
row, and the two may overlap.  `moveOrder` makes up for that: no row is written
over before it was read.

There are three groups.

* Rows.  `getElem?_moveRows` is the invariant of the loop.  If no row is written
  over before it is read, and no two rows are written to the same place, then the
  loop copies what was there before it began.
* Rectangles.  Rows of different scan lines are apart (`index_apart`), and
  `moveOrder` meets the condition of the loop (`moveOrder_pairwise`).
* `move_simultaneous` is the result for transfers.
-/

namespace GuestFirmware.Display

/-! ## Rows -/

/-- Two rows of one width have no pixel in common. -/
def Apart (width first second : Nat) : Prop :=
  first + width ≤ second ∨ second + width ≤ first

/-- A pixel lies in a row. -/
def InRow (start width index : Nat) : Prop :=
  start ≤ index ∧ index < start + width

theorem inRow_add {start width column : Nat} (h : column < width) :
    InRow start width (start + column) :=
  ⟨Nat.le_add_right _ _, Nat.add_lt_add_left h _⟩

theorem Apart.symm {width first second : Nat} (h : Apart width first second) :
    Apart width second first :=
  Or.symm h

theorem Apart.not_inRow {width first second index : Nat} (h : Apart width first second)
    (hindex : InRow second width index) : ¬ InRow first width index := by
  unfold Apart at h
  unfold InRow at hindex ⊢
  omega

theorem getElem?_copyRow_self {source target : Pixels} {sourceStart targetStart width column : Nat}
    (hsource : sourceStart + width ≤ source.size) (htarget : targetStart + width ≤ target.size)
    (hcolumn : column < width) :
    (writeRow target targetStart (readRow source sourceStart width))[targetStart + column]? =
      source[sourceStart + column]? := by
  have hlength := length_readRow hsource
  rw [getElem?_writeRow (by omega), if_pos (by omega), Nat.add_sub_cancel_left,
    getElem?_readRow hcolumn]

theorem getElem?_copyRow_of_not_inRow {source target : Pixels}
    {sourceStart targetStart width index : Nat} (hsource : sourceStart + width ≤ source.size)
    (htarget : targetStart + width ≤ target.size) (hindex : ¬ InRow targetStart width index) :
    (writeRow target targetStart (readRow source sourceStart width))[index]? = target[index]? := by
  have hlength := length_readRow hsource
  unfold InRow at hindex
  rw [getElem?_writeRow (by omega), if_neg (by omega)]

/-- Rows that are moved one after the other hold what their sources held before,
and all other pixels stay.  A row is read before another one is written over it,
and is not written over after it was written. -/
theorem getElem?_moveRows {sourceStart targetStart : Nat → Nat} {width : Nat} {rows : List Nat}
    {pixels : Pixels} (hsource : ∀ row ∈ rows, sourceStart row + width ≤ pixels.size)
    (htarget : ∀ row ∈ rows, targetStart row + width ≤ pixels.size)
    (hread : rows.Pairwise fun earlier later =>
      Apart width (targetStart earlier) (sourceStart later))
    (hwritten : rows.Pairwise fun earlier later =>
      Apart width (targetStart earlier) (targetStart later)) :
    (∀ row ∈ rows, ∀ column < width,
      (moveRows sourceStart targetStart width rows pixels)[targetStart row + column]? =
        pixels[sourceStart row + column]?) ∧
    ∀ index, (∀ row ∈ rows, ¬ InRow (targetStart row) width index) →
      (moveRows sourceStart targetStart width rows pixels)[index]? = pixels[index]? := by
  induction rows generalizing pixels with
  | nil => exact ⟨fun row hrow => absurd hrow List.not_mem_nil, fun index _ => rfl⟩
  | cons first rest ih =>
    obtain ⟨hreadFirst, hreadRest⟩ := List.pairwise_cons.1 hread
    obtain ⟨hwrittenFirst, hwrittenRest⟩ := List.pairwise_cons.1 hwritten
    obtain ⟨hsourceFirst, hsourceRest⟩ := List.forall_mem_cons.1 hsource
    obtain ⟨htargetFirst, htargetRest⟩ := List.forall_mem_cons.1 htarget
    let next := writeRow pixels (targetStart first) (readRow pixels (sourceStart first) width)
    have hsize : next.size = pixels.size := size_writeRow _ _ _
    have hmoved : moveRows sourceStart targetStart width (first :: rest) pixels =
        moveRows sourceStart targetStart width rest next := rfl
    obtain ⟨hrows, hothers⟩ := @ih next (hsize ▸ hsourceRest) (hsize ▸ htargetRest)
      hreadRest hwrittenRest
    rw [hmoved]
    refine ⟨?_, ?_⟩
    · intro row hrow column hcolumn
      rcases List.mem_cons.1 hrow with rfl | hlater
      · -- the later rows are written elsewhere
        have hkept : ∀ later ∈ rest, ¬ InRow (targetStart later) width (targetStart row + column) :=
          fun later hlater => (hwrittenFirst later hlater).symm.not_inRow (inRow_add hcolumn)
        rw [hothers _ hkept]
        exact getElem?_copyRow_self hsourceFirst htargetFirst hcolumn
      · -- the first row was not written over the source of a later one
        rw [hrows row hlater column hcolumn]
        exact getElem?_copyRow_of_not_inRow hsourceFirst htargetFirst
          ((hreadFirst row hlater).not_inRow (inRow_add hcolumn))
    · intro index hindex
      obtain ⟨hfirst, hrest⟩ := List.forall_mem_cons.1 hindex
      rw [hothers index hrest]
      exact getElem?_copyRow_of_not_inRow hsourceFirst htargetFirst hfirst

/-! ## Rectangles -/

/-- A row does not reach into another scan line. -/
theorem index_apart {frame : FrameBuffer} {x x' y y' width : Nat} (hx : x + width ≤ frame.stride)
    (hx' : x' + width ≤ frame.stride) (hy : y ≠ y') :
    Apart width (frame.index x y) (frame.index x' y') := by
  unfold Apart ScanLines.index
  rcases Nat.lt_or_gt_of_ne hy with habove | hbelow
  · have hline := Nat.mul_le_mul_right frame.stride habove
    rw [Nat.succ_mul] at hline
    omega
  · have hline := Nat.mul_le_mul_right frame.stride hbelow
    rw [Nat.succ_mul] at hline
    omega

/-- Rows are moved in an order in which none is written over before it is read,
and each is moved once. -/
theorem moveOrder_pairwise (request : Request) :
    (moveOrder request).Pairwise fun earlier later =>
      request.destinationY + earlier ≠ request.sourceY + later ∧
        request.destinationY + earlier ≠ request.destinationY + later := by
  unfold moveOrder
  split
  · next hdown =>
    rw [List.pairwise_reverse]
    refine List.pairwise_lt_range.imp fun {later earlier} hlt => ?_
    omega
  · next hup =>
    refine List.pairwise_lt_range.imp fun {earlier later} hlt => ?_
    omega

/-- An index that is no pixel of a rectangle lies in none of its rows. -/
theorem not_inRow_of_ne {frame : FrameBuffer} {x y width index : Nat}
    (h : ∀ column < width, index ≠ frame.index (x + column) y) :
    ¬ InRow (frame.index x y) width index := by
  rintro ⟨hstart, hend⟩
  refine h (index - frame.index x y) (by omega) ?_
  unfold ScanLines.index at hstart ⊢
  omega

theorem index_add (frame : FrameBuffer) (x y column : Nat) :
    frame.index (x + column) y = frame.index x y + column :=
  (Nat.add_assoc _ _ _).symm

/-! ## Transfers -/

/-- A move that is not refused is carried out on two visible rectangles. -/
theorem transfer_move {request : Request} {canvas : Canvas}
    (hoperation : request.operation = .videoToVideo)
    (hdone : (transfer request canvas).1 = .ok ()) :
    canvas.frame.Contains request.sourceX request.sourceY request.width request.height ∧
      canvas.frame.Contains request.destinationX request.destinationY request.width
        request.height ∧
      transfer request canvas = move request canvas := by
  have hmove : transfer request canvas = move request canvas := by
    rw [transfer_byOperation] at hdone ⊢
    unfold Request.bufferLength at hdone ⊢
    split_ifs at hdone ⊢ with hempty
    rw [hoperation]
    dsimp only
    rw [if_neg (Nat.not_lt_zero _)]
  rw [hmove] at hdone
  unfold move at hdone
  dsimp only at hdone
  split_ifs at hdone with hcontains
  exact ⟨hcontains.1, hcontains.2, hmove⟩

/-- A move that is not refused copies all pixels of the source at once: each
pixel of the destination is what the pixel of the source was before, however the
two overlap.  All other pixels of the memory stay, those behind the visible part
of a scan line and those behind the last scan line included. -/
theorem move_simultaneous {request : Request} {canvas : Canvas}
    (hoperation : request.operation = .videoToVideo)
    (hdone : (transfer request canvas).1 = .ok ()) :
    let frame := canvas.frame
    let moved := (transfer request canvas).2
    (∀ row < request.height, ∀ column < request.width, ∃ pixel,
      frame.pixels[frame.index (request.sourceX + column) (request.sourceY + row)]? =
          some pixel ∧
        moved.frame.pixels[frame.index (request.destinationX + column)
          (request.destinationY + row)]? = some pixel) ∧
    (∀ index, (∀ row < request.height, ∀ column < request.width,
        index ≠ frame.index (request.destinationX + column) (request.destinationY + row)) →
      moved.frame.pixels[index]? = frame.pixels[index]?) ∧
    moved.frame.pixels.size = frame.pixels.size ∧ moved.frame.width = frame.width ∧
    moved.frame.height = frame.height ∧ moved.frame.stride = frame.stride ∧
    moved.buffer = canvas.buffer := by
  intro frame moved
  obtain ⟨hsource, hdestination, hmove⟩ := transfer_move hoperation hdone
  have hmoved : moved = (move request canvas).2 := by rw [← hmove]
  rw [move, if_pos ⟨hsource, hdestination⟩] at hmoved
  have hstride := frame.width_le_stride
  have hread : ∀ row ∈ moveOrder request,
      frame.index request.sourceX (request.sourceY + row) + request.width ≤ frame.pixels.size :=
    fun row hrow => Checked.index_add_width_le hsource (Checked.mem_moveOrder.1 hrow)
  have hwritten : ∀ row ∈ moveOrder request,
      frame.index request.destinationX (request.destinationY + row) + request.width ≤
        frame.pixels.size :=
    fun row hrow => Checked.index_add_width_le hdestination (Checked.mem_moveOrder.1 hrow)
  obtain ⟨hrows, hothers⟩ := getElem?_moveRows hread hwritten
    ((moveOrder_pairwise request).imp fun hlines =>
      index_apart (Nat.le_trans hdestination.1 hstride) (Nat.le_trans hsource.1 hstride) hlines.1)
    ((moveOrder_pairwise request).imp fun hlines =>
      index_apart (Nat.le_trans hdestination.1 hstride) (Nat.le_trans hdestination.1 hstride)
        hlines.2)
  rw [hmoved]
  refine ⟨?_, ?_, size_moveRows .., rfl, rfl, rfl, rfl⟩
  · intro row hrow column hcolumn
    have hinside := Checked.index_add_width_le hsource hrow
    refine ⟨frame.pixels[frame.index request.sourceX (request.sourceY + row) + column], ?_, ?_⟩
    · rw [index_add, Array.getElem?_eq_getElem]
    · rw [index_add]
      refine (hrows row (Checked.mem_moveOrder.2 hrow) column hcolumn).trans ?_
      exact Array.getElem?_eq_getElem _
  · intro index hindex
    refine hothers index fun row hrow => not_inRow_of_ne ?_
    exact hindex row (Checked.mem_moveOrder.1 hrow)

/-- Three scan lines of five pixels, four of them visible, and one pixel behind
them.  The pixels are numbered. -/
def numberedFrame : FrameBuffer where
  pixels := #[0, 1, 2, 3, 4, 5, 6, 7, 8, 9, 10, 11, 12, 13, 14, 15]
  width := 4
  height := 3
  stride := 5
  width_le_stride := by decide
  lines_fit := by decide

/-- Moves three columns of two rows down and to the right by one pixel. -/
def diagonalMove : Request where
  operation := .videoToVideo
  sourceX := 0
  sourceY := 0
  destinationX := 1
  destinationY := 1
  width := 3
  height := 2
  delta := 0

theorem move_simultaneous_diagonal :
    diagonalMove.operation = .videoToVideo ∧
    (transfer diagonalMove ⟨numberedFrame, #[]⟩).1 = .ok () ∧
    (transfer diagonalMove ⟨numberedFrame, #[]⟩).2.frame.pixels =
      #[0, 1, 2, 3, 4, 5, 0, 1, 2, 9, 10, 5, 6, 7, 14, 15] ∧
    ∃ pixel, numberedFrame.pixels[numberedFrame.index 1 1]? = some pixel ∧
      (transfer diagonalMove ⟨numberedFrame, #[]⟩).2.frame.pixels[numberedFrame.index 2 2]? =
        some pixel := by
  have hdone : (transfer diagonalMove ⟨numberedFrame, #[]⟩).1 = .ok () := by rfl
  obtain ⟨hmoved, -⟩ := move_simultaneous rfl hdone
  exact ⟨rfl, hdone, by decide +kernel, hmoved 1 (by decide) 1 (by decide)⟩

end GuestFirmware.Display
