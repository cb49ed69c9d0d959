import GuestFirmware.Display.VideoBios

/-!
# Graphics policy

The policy protocol answers a graphics driver about its platform: the state of
the lid, which is not known here, and the video BIOS table.
-/

namespace GuestFirmware.Display

open PlatformM

/-- The firmware volumes of the platform and the table found on them. -/
structure Policy where
  volumes : Volumes
  cache : VbtCache := {}

/-- Something to do on a platform with a graphics policy. -/
abbrev PolicyM (α : Type) : Type :=
  PlatformM Policy Empty α

/-- Installs the policy protocol on a new handle. -/
def installPolicy : PolicyM (Except Status Handle) := do
  call (Services.install 0 .graphicsPolicy (← makeInterface))

/-- The component that installs the policy protocol. -/
def runPolicyComponent : PolicyM (Except ComponentError Unit) := do
  match ← installPolicy with
  | .error status => return .error (.ofStatus status)
  | .ok _ => return .ok ()

/-- The state of the lid.  It is not known, and no state is written. -/
def lidStatus : Status × Option UInt32 :=
  (.unsupported, none)

/-- The video BIOS table of the platform. -/
def currentVbt : PolicyM (Option Vbt) := do
  let policy := (← get).device
  let (vbt, cache) ← policy.cache.get (locateVbt policy.volumes)
  modify fun platform => { platform with device := { platform.device with cache := cache } }
  return vbt

/-- What a caller is told about the table.  The second part of the answer is
what is written to its variables. -/
def reportVbt (vbt : Option Vbt) (hasOutputs : Bool) : Status × Option Vbt :=
  if hasOutputs then
    match vbt with
    | none => (.notFound, none)
    | some vbt => (.success, some vbt)
  else (.invalidParameter, none)

/-- Tells a caller about the table.  It is searched for even when the caller
gives no variables. -/
def protocolVbt (hasOutputs : Bool) : PolicyM (Status × Option Vbt) := do
  return reportVbt (← currentVbt) hasOutputs

end GuestFirmware.Display
