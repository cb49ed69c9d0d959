import GuestFirmware.Platform.Monad

/-!
# The video BIOS table

Graphics drivers need the video BIOS table (VBT), which lies in a file on some
firmware volume.  `findVbt` searches given volumes in order.  `locateVbt` first
looks up all volumes of the platform.  `VbtCache` keeps the first table that was
found and searches as long as there is none.
-/

namespace GuestFirmware.Display

open PlatformM

/-- Where the table lies in memory. -/
structure Vbt where
  address : UInt64
  size : UInt32
  deriving DecidableEq, Repr

/-- Memory that was read from a volume. -/
structure Section where
  address : UInt64
  size : UInt64
  deriving DecidableEq, Repr

/-- The table in a section, whose size must fit the protocol. -/
def Section.vbt (contents : Section) : Option Vbt :=
  if contents.size.toNat < UInt32.size then some ⟨contents.address, contents.size.toUInt32⟩ else none

variable {δ ε ν : Type}

/-- The first table in volumes.  `read` reads the section of a file from a
volume.  Volumes after the first one with a table are not read. -/
def findVbt (read : ν → Guid → PlatformM δ ε (Except Status Section)) :
    List ν → PlatformM δ ε (Option Vbt)
  | [] => return none
  | volume :: rest => do
    match ← read volume .videoBiosFile with
    | .error _ => findVbt read rest
    | .ok contents =>
      match contents.vbt with
      | none => findVbt read rest
      | some vbt => return some vbt

/-! ## The volumes of a platform -/

/-- What is known of a volume: how its interface is found, and what a read of
the section answers. -/
structure Volume where
  located : Located := {}
  status : Status := .success
  contents : Section := ⟨0, 0⟩
  deriving DecidableEq, Repr

/-- The volumes of the platform, or the status of a search that finds none. -/
abbrev Volumes : Type := Except Status (List Volume)

/-- The volumes with their handles, which are numbered from one. -/
def numbered (volumes : List Volume) : List (Handle × Volume) :=
  volumes.mapIdx fun index volume => (UInt64.ofNat (index + 1), volume)

/-- The volumes whose interface is found. -/
def usableVolumes : List (Handle × Volume) → PlatformM δ ε (List (Handle × Volume))
  | [] => return []
  | (handle, volume) :: rest => do
    record (.service (.handleProtocol handle .firmwareVolume volume.located.status))
    let others ← usableVolumes rest
    return match volume.located.answer with
      | .ok true => (handle, volume) :: others
      | _ => others

/-- Reads a section from a volume.  A section at address zero is none. -/
def readSection (volume : Handle × Volume) (file : Guid) :
    PlatformM δ ε (Except Status Section) := do
  let (handle, volume) := volume
  record (.service (.readSection handle file volume.status))
  return match volume.status.guard volume.contents with
    | .error status => .error status
    | .ok contents => if contents.address = 0 then .error .notFound else .ok contents

/-- The first table on the volumes behind some handles, or on none when the search
for handles fails.  All handles are looked up before the first volume is read. -/
def locateAmong (handles : Except Status (List (Handle × Volume))) :
    PlatformM δ ε (Option Vbt) := do
  match handles with
  | .error status =>
    record (.service (.locateHandles .firmwareVolume status))
    return none
  | .ok handles =>
    record (.service (.locateHandles .firmwareVolume .success))
    findVbt readSection (← usableVolumes handles)

/-- The first table on the volumes of the platform. -/
def locateVbt (volumes : Volumes) : PlatformM δ ε (Option Vbt) :=
  locateAmong (volumes.map numbered)

/-! ## Keeping the table -/

/-- The table that was found first. -/
structure VbtCache where
  found : Option Vbt := none
  deriving DecidableEq, Repr

/-- The kept table.  As long as there is none, it is searched for. -/
def VbtCache.get {σ : Type} (cache : VbtCache) (search : StateM σ (Option Vbt)) :
    StateM σ (Option Vbt × VbtCache) := do
  match cache.found with
  | some vbt => return (some vbt, cache)
  | none =>
    let found ← search
    return (found, ⟨found⟩)

end GuestFirmware.Display
