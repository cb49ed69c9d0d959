import GuestFirmware.Display.State

/-!
# The protocol of a graphics output

Consumers ask an output for its modes, select one, and transfer pixels.  The pixels of a
transfer are read and written in the memory of the platform, row by row, at the level of
notifications.  The calls through the protocol are the same, with an output that may be
missing and codes that may be unknown.
-/

namespace GuestFirmware.Display

open PlatformM

namespace GraphicsOutput

variable {δ : Type}

/-- A copy of the description of a mode, in newly allocated memory. -/
def queryMode (number : UInt32) (output : GraphicsOutput) :
    DisplayM δ (Except Status ModeInfo) := do
  if output.maxMode ≤ number then return .error .invalidParameter
  else
    match ← call (Services.allocatePool ModeInfo.size) with
    | .error status => return .error status
    | .ok false => return .error .outOfResources
    | .ok true => return .ok output.info

/-- Carries out a transfer between the frame buffer and a buffer.  Without a
buffer there is only a transfer that needs none. -/
def blt (request : Request) (hasBuffer : Bool) (output : GraphicsOutput) :
    DisplayM δ (Except Status Unit × GraphicsOutput) := do
  if output.frameBufferBase = 0 then return (.error .deviceError, output)
  else
    match request.bufferLength with
    | .error failure => return (.error failure.status, output)
    | .ok needed =>
      if 0 < needed ∧ !hasBuffer then return (.error .invalidParameter, output)
      else
        let memory ← currentMemory
        match output.frameBuffer memory.video with
        | .error failure => return (.error failure.status, output)
        | .ok frame =>
          let ended ← withTpl .notify (request.run frame.toScanLines memory.buffer.size)
          return (ended.mapError BltError.status, output)

/-! ## Calls through the protocol -/

/-- Describes a mode.  The second part of the answer is what is written to the
caller's variables: the size of a description and the description. -/
def protocolQueryMode (this : Option GraphicsOutput) (number : UInt32) (hasOutputs : Bool) :
    DisplayM δ (Status × Option (Nat × ModeInfo)) := do
  match hasOutputs, this with
  | false, _ => return (.invalidParameter, none)
  | true, none => return (.invalidParameter, none)
  | true, some output =>
    match ← output.queryMode number with
    | .error status => return (status, none)
    | .ok info => return (.success, some (ModeInfo.size, info))

/-- Selects a mode.  Answers the output after it. -/
def protocolSetMode (this : Option GraphicsOutput) (number : UInt32) :
    Status × Option GraphicsOutput :=
  match this with
  | none => (.invalidParameter, none)
  | some output =>
    let (result, output) := output.setMode number
    (.ofResult result, some output)

/-- Carries out a transfer that is given by the code of its operation.  Answers the
output after it. -/
def protocolBlt (this : Option GraphicsOutput) (code : UInt32) (request : Operation → Request)
    (hasBuffer : Bool) : DisplayM δ (Status × Option GraphicsOutput) := do
  match this with
  | none => return (.invalidParameter, none)
  | some output =>
    match Operation.ofCode code with
    | .error failure => return (failure.status, some output)
    | .ok operation =>
      let (result, output) ← output.blt (request operation) hasBuffer
      return (.ofResult result, some output)

end GraphicsOutput

end GuestFirmware.Display
