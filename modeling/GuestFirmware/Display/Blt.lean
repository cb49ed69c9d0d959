import GuestFirmware.Display.Pixels
import GuestFirmware.Status

/-!
# Block transfers

A block transfer moves a rectangle of pixels between a frame buffer and a
buffer of the caller, or inside the frame buffer, or fills one.  A `Request`
names the rectangles, and `Request.run` is the transfer: it checks the request
and then reads and writes row by row.

The transfer runs wherever rows of pixels can be read and written
(`MonadPixels`).  `MonadPixels` says nothing about where the pixels are.
-/

namespace GuestFirmware.Display

/-! ## Requests -/

/-- What a transfer does. -/
inductive Operation
  /-- Fill a rectangle of the frame buffer with the first pixel of the buffer. -/
  | videoFill
  /-- Copy a rectangle of the frame buffer into the buffer. -/
  | videoToBuffer
  /-- Copy a rectangle of the buffer into the frame buffer. -/
  | bufferToVideo
  /-- Copy a rectangle of the frame buffer to another place in it. -/
  | videoToVideo
  deriving DecidableEq, Repr

/-- Why a transfer was refused. -/
inductive BltError
  | invalidOperation (code : UInt32)
  | emptyRectangle
  /-- A rectangle leaves the visible part of the frame buffer. -/
  | outOfBounds
  /-- The distance of two rows of the buffer is no whole number of pixels. -/
  | invalidDelta (delta : Nat)
  | bufferTooSmall
  /-- The memory does not hold the scan lines. -/
  | invalidFrameBuffer
  deriving DecidableEq, Repr

/-- The name of an operation in messages. -/
def Operation.text : Operation → String
  | videoFill => "VideoFill"
  | videoToBuffer => "VideoToBuffer"
  | bufferToVideo => "BufferToVideo"
  | videoToVideo => "VideoToVideo"

/-- The name of a refusal in messages. -/
def BltError.text : BltError → String
  | invalidOperation _ => "InvalidOperation"
  | emptyRectangle => "EmptyRectangle"
  | outOfBounds => "OutOfBounds"
  | invalidDelta _ => "InvalidDelta"
  | bufferTooSmall => "BufferTooSmall"
  | invalidFrameBuffer => "InvalidFrameBuffer"

/-- The status that every refusal is reported with. -/
def BltError.status : BltError → Status :=
  fun _ => .invalidParameter

/-- The operation with the given code. -/
def Operation.ofCode (code : UInt32) : Except BltError Operation :=
  if code = 0 then .ok videoFill
  else if code = 1 then .ok videoToBuffer
  else if code = 2 then .ok bufferToVideo
  else if code = 3 then .ok videoToVideo
  else .error (.invalidOperation code)

/-- The arguments of a transfer, as machine words. -/
structure Request where
  operation : Operation
  sourceX : Nat
  sourceY : Nat
  destinationX : Nat
  destinationY : Nat
  width : Nat
  height : Nat
  /-- Bytes from one row of the buffer to the next.  Zero stands for rows that
  follow each other without a gap. -/
  delta : Nat
  deriving DecidableEq, Repr

/-- Bytes of a pixel. -/
def bytesPerPixel : Nat := 4

/-- Sizes and positions are below this number. -/
def wordLimit : Nat := UInt64.size

namespace Request

/-- Pixels from one row of the buffer to the next. -/
def bufferStride (request : Request) : Nat :=
  if request.delta = 0 then request.width else request.delta / bytesPerPixel

/-- The pixels up to the end of a rectangle in the buffer.  A number that is no
machine word is more than any buffer holds. -/
def bufferExtent (request : Request) (x y : Nat) : Except BltError Nat :=
  if request.delta % bytesPerPixel ≠ 0 then .error (.invalidDelta request.delta)
  else
    let extent := (y + (request.height - 1)) * request.bufferStride + x + request.width
    if extent < wordLimit then .ok extent else .error .bufferTooSmall

/-- The number of pixels that the buffer must hold. -/
def bufferLength (request : Request) : Except BltError Nat :=
  if request.width = 0 ∨ request.height = 0 then .error .emptyRectangle
  else match request.operation with
    | .videoFill => .ok 1
    | .videoToVideo => .ok 0
    | .videoToBuffer => request.bufferExtent request.destinationX request.destinationY
    | .bufferToVideo => request.bufferExtent request.sourceX request.sourceY

end Request

/-! ## Frame buffers -/

/-- The layout of a frame buffer: `height` scan lines of `stride` pixels, of which
`width` are visible. -/
structure ScanLines where
  width : Nat
  height : Nat
  stride : Nat
  deriving DecidableEq, Repr

namespace ScanLines

/-- A rectangle lies in the visible part. -/
def Contains (lines : ScanLines) (x y width height : Nat) : Prop :=
  x + width ≤ lines.width ∧ y + height ≤ lines.height

instance (lines : ScanLines) (x y width height : Nat) :
    Decidable (lines.Contains x y width height) :=
  inferInstanceAs (Decidable (_ ∧ _))

/-- Where a pixel lies in memory. -/
def index (lines : ScanLines) (x y : Nat) : Nat :=
  y * lines.stride + x

end ScanLines

/-- Memory that holds its scan lines. -/
structure FrameBuffer extends ScanLines where
  pixels : Pixels
  width_le_stride : width ≤ stride
  lines_fit : stride * height ≤ pixels.size

namespace FrameBuffer

/-- A frame buffer in the given memory, if its scan lines fit. -/
def ofPixels (pixels : Pixels) (width height stride : Nat) : Except BltError FrameBuffer :=
  if h : width ≤ stride ∧ stride * height ≤ pixels.size then
    .ok { width, height, stride, pixels, width_le_stride := h.1, lines_fit := h.2 }
  else .error .invalidFrameBuffer

/-- The same scan lines with other pixels. -/
def withPixels (frame : FrameBuffer) (pixels : Pixels) (h : pixels.size = frame.pixels.size) :
    FrameBuffer :=
  { frame with pixels := pixels, lines_fit := h ▸ frame.lines_fit }

end FrameBuffer

/-! ## Reading and writing pixels -/

/-- The sides of a transfer: the frame buffer, and the buffer of the caller. -/
inductive Side
  | video
  | buffer
  deriving DecidableEq, Repr

/-- Where rows of pixels are read and written. -/
class MonadPixels (m : Type → Type) where
  /-- The pixels of a side from a start on. -/
  readPixels (side : Side) (start width : Nat) : m (List UInt32)
  /-- Puts a row of pixels on a side. -/
  writePixels (side : Side) (start : Nat) (row : List UInt32) : m Unit

export MonadPixels (readPixels writePixels)

/-! ## Transfers -/

section Transfers

variable {m : Type → Type} [Monad m] [MonadPixels m]

/-- Fills rows of the frame buffer with one colour.  `start` is where each row
begins. -/
def fillEach (start : Nat → Nat) (width : Nat) (colour : UInt32) (rows : List Nat) : m Unit :=
  rows.forM fun row => writePixels .video (start row) (List.replicate width colour)

/-- Copies rows of one side to the other side, or to another place of it. -/
def copyEach (source target : Side) (sourceStart targetStart : Nat → Nat) (width : Nat)
    (rows : List Nat) : m Unit :=
  rows.forM fun row => do
    writePixels target (targetStart row) (← readPixels source (sourceStart row) width)

/-- Moves rows if the rectangles that they belong to are visible.  The rows are not even
listed otherwise, since a refused request may name more of them than any memory has. -/
@[macro_inline] def whenVisible (visible : Prop) [Decidable visible] (rows : m Unit) :
    m (Except BltError Unit) := do
  if visible then
    rows
    return .ok ()
  else return .error .outOfBounds

namespace Request

/-- Where a row of the source begins in the frame buffer. -/
def videoSource (request : Request) (lines : ScanLines) (row : Nat) : Nat :=
  lines.index request.sourceX (request.sourceY + row)

/-- Where a row of the destination begins in the frame buffer. -/
def videoDestination (request : Request) (lines : ScanLines) (row : Nat) : Nat :=
  lines.index request.destinationX (request.destinationY + row)

/-- Where a row of the source begins in the buffer. -/
def bufferSource (request : Request) (row : Nat) : Nat :=
  (request.sourceY + row) * request.bufferStride + request.sourceX

/-- Where a row of the destination begins in the buffer. -/
def bufferDestination (request : Request) (row : Nat) : Nat :=
  (request.destinationY + row) * request.bufferStride + request.destinationX

/-- The source in the frame buffer lies in the visible part. -/
def SourceVisible (request : Request) (lines : ScanLines) : Prop :=
  lines.Contains request.sourceX request.sourceY request.width request.height

/-- The destination in the frame buffer lies in the visible part. -/
def DestinationVisible (request : Request) (lines : ScanLines) : Prop :=
  lines.Contains request.destinationX request.destinationY request.width request.height

instance (request : Request) (lines : ScanLines) : Decidable (request.SourceVisible lines) :=
  inferInstanceAs (Decidable (lines.Contains ..))

instance (request : Request) (lines : ScanLines) : Decidable (request.DestinationVisible lines) :=
  inferInstanceAs (Decidable (lines.Contains ..))

end Request

/-- The rows of a move, in the order they are moved.  A move down starts at the
bottom, so that each row is read before it is written over. -/
def moveOrder (request : Request) : List Nat :=
  if request.sourceY < request.destinationY then (List.range request.height).reverse
  else List.range request.height

namespace Request

/-- Moves the rows of a request, unless a rectangle of it leaves the visible part. -/
def runRows (request : Request) (lines : ScanLines) : m (Except BltError Unit) :=
  match request.operation with
  | .videoFill =>
    whenVisible (request.DestinationVisible lines) do
      let first ← readPixels .buffer 0 1
      fillEach (request.videoDestination lines) request.width (first.headD 0)
        (List.range request.height)
  | .videoToBuffer =>
    whenVisible (request.SourceVisible lines) <|
      copyEach .video .buffer (request.videoSource lines) request.bufferDestination
        request.width (List.range request.height)
  | .bufferToVideo =>
    whenVisible (request.DestinationVisible lines) <|
      copyEach .buffer .video request.bufferSource (request.videoDestination lines)
        request.width (List.range request.height)
  | .videoToVideo =>
    whenVisible (request.SourceVisible lines ∧ request.DestinationVisible lines) <|
      copyEach .video .video (request.videoSource lines) (request.videoDestination lines)
        request.width (moveOrder request)

/-- Carries out a request with a buffer of a size, or refuses it and moves nothing. -/
def run (request : Request) (lines : ScanLines) (bufferSize : Nat) :
    m (Except BltError Unit) :=
  match request.bufferLength with
  | .error failure => return .error failure
  | .ok needed =>
    if bufferSize < needed then return .error .bufferTooSmall else request.runRows lines

end Request

end Transfers

end GuestFirmware.Display
