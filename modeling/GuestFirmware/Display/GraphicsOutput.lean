import GuestFirmware.Display.Blt
import GuestFirmware.Display.HostFrame

/-!
# Graphics output

A graphics output shows the frame buffer of the host in one fixed mode.
`GraphicsOutput` is what consumers of the protocol see of it.  It has no frame
buffer until `attach` gives it one, and no current mode until `setMode` selects
the only one.  Both answer how they ended, and the output after them.
-/

namespace GuestFirmware.Display

/-- What can be set about the graphics driver. -/
structure DisplayConfig where
  driverVersion : UInt32 := 0x10
  /-- Width of the only mode, in pixels. -/
  horizontal : UInt32 := 1024
  /-- Height of the only mode, in pixels. -/
  vertical : UInt32 := 768
  deriving DecidableEq, Repr

/-- Which bits of a pixel hold which colour. -/
structure PixelMasks where
  red : UInt32 := 0
  green : UInt32 := 0
  blue : UInt32 := 0
  reserved : UInt32 := 0
  deriving DecidableEq, Repr

/-- The code of pixels with a byte each for blue, green, red and nothing. -/
def blueGreenRed : UInt32 := 1

/-- The description of a mode. -/
structure ModeInfo where
  version : UInt32 := 0
  horizontal : UInt32
  vertical : UInt32
  pixelFormat : UInt32 := blueGreenRed
  masks : PixelMasks := {}
  pixelsPerScanLine : UInt32
  deriving DecidableEq, Repr

/-- Bytes of a description. -/
def ModeInfo.size : Nat := 36

/-- The state of a graphics output, as consumers see it. -/
structure GraphicsOutput where
  maxMode : UInt32
  mode : UInt32
  info : ModeInfo
  frameBufferBase : UInt64
  /-- Bytes of the frame buffer. -/
  frameBufferSize : Nat
  deriving DecidableEq, Repr

namespace GraphicsOutput

/-- The number of modes. -/
def modeCount : UInt32 := 1

/-- The current mode as long as none was selected. -/
def noMode : UInt32 := 0xFFFF

/-- The output in front of a frame buffer. -/
def ofConfig (config : DisplayConfig) : GraphicsOutput where
  maxMode := modeCount
  mode := noMode
  info :=
    { horizontal := config.horizontal, vertical := config.vertical,
      pixelsPerScanLine := config.horizontal }
  frameBufferBase := 0
  frameBufferSize := 0

/-- Gives the output the host's frame buffer, which must cover the mode. -/
def attach (frame : HostFrame) (output : GraphicsOutput) :
    Except DisplayError Unit × GraphicsOutput :=
  if frame.Usable ∧ output.info.horizontal ≤ frame.width ∧ output.info.vertical ≤ frame.height then
    (.ok (), { output with
      frameBufferBase := frame.base.toUInt64
      frameBufferSize := frame.size.toNat
      info := { output.info with pixelsPerScanLine := frame.pitch / 4 } })
  else (.error .unusableFrame, output)

/-- Selects a mode. -/
def setMode (number : UInt32) (output : GraphicsOutput) : Except Status Unit × GraphicsOutput :=
  if output.maxMode ≤ number then (.error .unsupported, output)
  else (.ok (), { output with mode := number })

/-- The pixels of the frame buffer. -/
def pixelCount (output : GraphicsOutput) : Nat :=
  output.frameBufferSize / bytesPerPixel

/-- The frame buffer of the output in video memory. -/
def frameBuffer (output : GraphicsOutput) (video : Pixels) : Except BltError FrameBuffer :=
  FrameBuffer.ofPixels video output.info.horizontal.toNat output.info.vertical.toNat
    output.info.pixelsPerScanLine.toNat

end GraphicsOutput

end GuestFirmware.Display
