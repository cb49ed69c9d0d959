import GuestFirmware.Proofs.Display.Words

/-!
# Which transfers are refused

A request can be refused for four reasons, which are looked at in this order: its
rectangle has no pixels (`Empty`), the rows of its buffer are no whole number of
pixels apart (`Ragged`), the buffer holds fewer pixels than it needs
(`pixelsNeeded`), a rectangle in the frame buffer leaves the visible part
(`Outside`).  All four are said in exact numbers.

There is one lemma for each of the first three reasons, and `transfer_of_rectangles`
for the last one and for the transfers that are carried out.  `transfer_decides`
joins them.
-/

namespace GuestFirmware.Display

namespace Request

/-- The rectangle has no pixels. -/
def Empty (request : Request) : Prop :=
  request.width = 0 ∨ request.height = 0

/-- The request uses the buffer row by row, and the rows are no whole number of
pixels apart. -/
def Ragged (request : Request) : Prop :=
  (request.operation = .videoToBuffer ∨ request.operation = .bufferToVideo) ∧
    request.delta ≠ 0 ∧ ¬ bytesPerPixel ∣ request.delta

/-- The end of a rectangle in the buffer. -/
def bufferEnd (request : Request) (x y : Nat) : Nat :=
  (y + request.height - 1) * request.bufferStride + x + request.width

/-- The pixels that the buffer must hold. -/
def pixelsNeeded (request : Request) : Nat :=
  match request.operation with
  | .videoFill => 1
  | .videoToBuffer => request.bufferEnd request.destinationX request.destinationY
  | .bufferToVideo => request.bufferEnd request.sourceX request.sourceY
  | .videoToVideo => 0

/-- A rectangle that the request uses in the frame buffer leaves the visible
part. -/
def Outside (request : Request) (frame : FrameBuffer) : Prop :=
  let source := frame.Contains request.sourceX request.sourceY request.width request.height
  let destination :=
    frame.Contains request.destinationX request.destinationY request.width request.height
  match request.operation with
  | .videoFill => ¬ destination
  | .videoToBuffer => ¬ source
  | .bufferToVideo => ¬ destination
  | .videoToVideo => ¬ (source ∧ destination)

/-! ## The pixels that the buffer must hold -/

variable {request : Request}

theorem bufferLength_of_empty (h : request.Empty) :
    request.bufferLength = .error .emptyRectangle :=
  if_pos h

theorem bufferLength_of_pixels (hpixels : ¬ request.Empty) :
    request.bufferLength =
      match request.operation with
      | .videoFill => .ok 1
      | .videoToVideo => .ok 0
      | .videoToBuffer => request.bufferExtent request.destinationX request.destinationY
      | .bufferToVideo => request.bufferExtent request.sourceX request.sourceY :=
  if_neg hpixels

theorem bufferLength_of_ragged (hpixels : ¬ request.Empty) (h : request.Ragged) :
    request.bufferLength = .error (.invalidDelta request.delta) := by
  obtain ⟨hoperation, -, hdelta⟩ := h
  have hextent : ∀ x y, request.bufferExtent x y = .error (.invalidDelta request.delta) :=
    fun x y => if_pos fun hwhole => hdelta (Nat.dvd_of_mod_eq_zero hwhole)
  rw [bufferLength_of_pixels hpixels]
  rcases hoperation with hoperation | hoperation
  · rw [hoperation]
    exact hextent _ _
  · rw [hoperation]
    exact hextent _ _

theorem bufferExtent_of_whole (hpixels : ¬ request.Empty)
    (hdelta : request.delta % bytesPerPixel = 0) (x y : Nat) :
    request.bufferExtent x y =
      if request.bufferEnd x y < wordLimit then .ok (request.bufferEnd x y)
      else .error .bufferTooSmall := by
  have hlast : y + (request.height - 1) = y + request.height - 1 := by
    unfold Empty at hpixels
    omega
  rw [bufferExtent, if_neg (not_not_intro hdelta), bufferEnd, hlast]

theorem bufferLength_of_whole (hpixels : ¬ request.Empty) (hwhole : ¬ request.Ragged) :
    request.bufferLength =
      if request.pixelsNeeded < wordLimit then .ok request.pixelsNeeded
      else .error .bufferTooSmall := by
  have hdelta : request.operation = .videoToBuffer ∨ request.operation = .bufferToVideo →
      request.delta % bytesPerPixel = 0 := by
    intro hoperation
    by_cases hzero : request.delta = 0
    · rw [hzero]
      rfl
    · refine Nat.mod_eq_zero_of_dvd (Decidable.not_not.1 fun hdvd => ?_)
      exact hwhole ⟨hoperation, hzero, hdvd⟩
  rw [bufferLength_of_pixels hpixels, pixelsNeeded]
  cases hoperation : request.operation with
  | videoFill => rfl
  | videoToBuffer => exact bufferExtent_of_whole hpixels (hdelta (.inl hoperation)) _ _
  | bufferToVideo => exact bufferExtent_of_whole hpixels (hdelta (.inr hoperation)) _ _
  | videoToVideo => rfl

end Request

/-! ## The ends of a transfer -/

variable {request : Request} {canvas : Canvas}

theorem transfer_of_empty (h : request.Empty) :
    transfer request canvas = (.error .emptyRectangle, canvas) := by
  rw [transfer_byOperation, Request.bufferLength_of_empty h]

theorem transfer_of_ragged (hpixels : ¬ request.Empty) (h : request.Ragged) :
    transfer request canvas = (.error (.invalidDelta request.delta), canvas) := by
  rw [transfer_byOperation, Request.bufferLength_of_ragged hpixels h]

theorem transfer_of_small (hpixels : ¬ request.Empty) (hwhole : ¬ request.Ragged)
    (h : canvas.buffer.size < request.pixelsNeeded) :
    transfer request canvas = (.error .bufferTooSmall, canvas) := by
  rw [transfer_byOperation, Request.bufferLength_of_whole hpixels hwhole]
  by_cases hword : request.pixelsNeeded < wordLimit
  · rw [if_pos hword]
    dsimp only
    rw [if_pos h]
  · rw [if_neg hword]

/-- A request that needs no more than the buffer holds gets to its operation. -/
theorem transfer_of_enough (hbuffer : canvas.buffer.size < wordLimit)
    (hpixels : ¬ request.Empty) (hwhole : ¬ request.Ragged)
    (h : request.pixelsNeeded ≤ canvas.buffer.size) :
    transfer request canvas =
      match request.operation with
      | .videoFill => fill request canvas
      | .videoToBuffer => copyOut request canvas
      | .bufferToVideo => copyIn request canvas
      | .videoToVideo => move request canvas := by
  rw [transfer_byOperation, Request.bufferLength_of_whole hpixels hwhole, if_pos (Nat.lt_of_le_of_lt h hbuffer)]
  exact if_neg (Nat.not_lt.2 h)

/-- An operation looks at its rectangles before it touches a pixel. -/
theorem transfer_of_rectangles (hbuffer : canvas.buffer.size < wordLimit)
    (hpixels : ¬ request.Empty) (hwhole : ¬ request.Ragged)
    (henough : request.pixelsNeeded ≤ canvas.buffer.size) :
    (request.Outside canvas.frame → transfer request canvas = (.error .outOfBounds, canvas)) ∧
      (¬ request.Outside canvas.frame → (transfer request canvas).1 = .ok ()) := by
  have hdone : ∀ {visible : Prop} [Decidable visible] {failed done : Except BltError Unit × Canvas},
      ¬ ¬ visible → (if visible then done else failed).1 = done.1 := fun hvisible =>
    congrArg Prod.fst (if_pos (Decidable.not_not.1 hvisible))
  rw [transfer_of_enough hbuffer hpixels hwhole henough, Request.Outside]
  cases request.operation with
  | videoFill => exact ⟨fun houtside => if_neg houtside, hdone⟩
  | videoToBuffer => exact ⟨fun houtside => if_neg houtside, hdone⟩
  | bufferToVideo => exact ⟨fun houtside => if_neg houtside, hdone⟩
  | videoToVideo => exact ⟨fun houtside => if_neg houtside, hdone⟩

/-- A transfer whose sizes are machine words computes with words only and stays in
its pixels.  It is refused for the first of the four reasons that holds, and
carried out if there is none.  A transfer that is refused changes neither side. -/
theorem transfer_decides (request : Request) {canvas : Canvas} (hwords : canvas.InWords) :
    let result := (transfer request canvas).1
    let tooSmall := canvas.buffer.size < request.pixelsNeeded
    let outside := request.Outside canvas.frame
    Words.transfer request canvas = some (Checked.sides (transfer request canvas)) ∧
    (result = .error .emptyRectangle ↔ request.Empty) ∧
    (result = .error (.invalidDelta request.delta) ↔ ¬ request.Empty ∧ request.Ragged) ∧
    (result = .error .bufferTooSmall ↔ ¬ request.Empty ∧ ¬ request.Ragged ∧ tooSmall) ∧
    (result = .error .outOfBounds ↔
      ¬ request.Empty ∧ ¬ request.Ragged ∧ ¬ tooSmall ∧ outside) ∧
    (result = .ok () ↔ ¬ request.Empty ∧ ¬ request.Ragged ∧ ¬ tooSmall ∧ ¬ outside) ∧
    ∀ failure, result = .error failure → (transfer request canvas).2 = canvas := by
  intro result tooSmall outside
  refine ⟨Words.transfer_eq hwords, ?_⟩
  by_cases hempty : request.Empty
  · have hresult : transfer request canvas = _ := transfer_of_empty hempty
    simp [result, hresult, hempty]
  by_cases hragged : request.Ragged
  · have hresult : transfer request canvas = _ := transfer_of_ragged hempty hragged
    simp [result, hresult, hempty, hragged]
  by_cases hsmall : tooSmall
  · have hresult : transfer request canvas = _ := transfer_of_small hempty hragged hsmall
    simp [result, hresult, hempty, hragged, hsmall]
  have henough : request.pixelsNeeded ≤ canvas.buffer.size := Nat.not_lt.1 hsmall
  obtain ⟨hrefused, hdone⟩ := transfer_of_rectangles hwords.buffer hempty hragged henough
  by_cases houtside : outside
  · have hresult := hrefused houtside
    simp [result, hresult, hempty, hragged, hsmall, houtside]
  · have hresult := hdone houtside
    simp [result, hresult, hempty, hragged, hsmall, houtside]

/-- One visible pixel in front of a buffer without pixels. -/
def onePixel : Canvas where
  frame :=
    { pixels := #[7], width := 1, height := 1, stride := 1,
      width_le_stride := by decide, lines_fit := by decide }
  buffer := #[]

/-- Copies the pixel to the last place that a machine word can name. -/
def farCopy : Request where
  operation := .videoToBuffer
  sourceX := 0
  sourceY := 0
  destinationX := wordLimit - 1
  destinationY := wordLimit - 1
  width := 1
  height := 1
  delta := 0

/-- A buffer whose pixels are not counted by a machine word is too small. -/
theorem transfer_decides_farCopy :
    onePixel.InWords ∧ farCopy.destinationX < wordLimit ∧ farCopy.destinationY < wordLimit ∧
    wordLimit ≤ farCopy.pixelsNeeded ∧
    (transfer farCopy onePixel).1 = .error .bufferTooSmall ∧
    Words.transfer farCopy onePixel = some (.error .bufferTooSmall, #[7], #[]) := by
  have hwords : onePixel.InWords := ⟨by decide, by decide, by decide, by decide⟩
  have hneeded : wordLimit ≤ farCopy.pixelsNeeded := by decide
  have hempty : ¬ farCopy.Empty := by
    unfold Request.Empty
    decide
  have hragged : ¬ farCopy.Ragged := fun h => h.2.1 rfl
  obtain ⟨hwordsOnly, -, -, hsmall, -, -, hkept⟩ := transfer_decides farCopy hwords
  have hresult := hsmall.2 ⟨hempty, hragged, Nat.lt_of_lt_of_le hwords.buffer hneeded⟩
  refine ⟨hwords, by decide, by decide, hneeded, hresult, ?_⟩
  rw [hwordsOnly, Checked.sides, hkept _ hresult, hresult]
  rfl

end GuestFirmware.Display
