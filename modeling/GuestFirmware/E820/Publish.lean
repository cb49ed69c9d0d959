import GuestFirmware.E820.Summary
import GuestFirmware.Handoff.Builder

/-!
# Publishing guest memory

Each RAM range and each aperture of the memory map is announced to the next
phase.  A RAM range is made write-back cacheable right after it is announced,
if the processor can do that; a failure to do so is not an error.

`publish` makes these steps.  What it does to the outside is the list of
`Step`s, and `handOver` takes the ranges among them to the builder of the hand-off
list.
-/

namespace GuestFirmware.E820

open Handoff (Builder)

/-- Control over the cache attributes of memory.  It has a state of its own and
may fail for any range. -/
structure Caching (κ : Type) where
  /-- The processor has cache attributes. -/
  isSupported : κ → Bool × κ
  /-- Makes a range write-back cacheable and answers whether that worked. -/
  setWriteBack : UInt64 → UInt64 → κ → Bool × κ

/-- Caching that fails for some ranges.  The state lists, range by range, which. -/
def Caching.listed (supported : Bool) : Caching (List Bool) where
  isSupported fails := (supported, fails)
  setWriteBack _ _ fails := (!fails.headD false, fails.tail)

/-- One step of publishing, as the outside sees it. -/
inductive Step
  /-- Caching was asked whether it is supported. -/
  | cachingSupported (answer : Bool)
  /-- A range of RAM was announced. -/
  | addMemory (base length : UInt64)
  /-- A window of device registers was announced. -/
  | addIoMemory (base length : UInt64)
  /-- A range was to become write-back cacheable. -/
  | setWriteBack (base length : UInt64) (succeeded : Bool)
  deriving DecidableEq, Repr

/-- The list under construction after a step.  Only the steps that announce a range
are about it. -/
def Step.handTo (builder : Builder) : Step → Builder
  | addMemory base length => builder.addMemory base length
  | addIoMemory base length => builder.addIoMemory base length
  | cachingSupported _ => builder
  | setWriteBack _ _ _ => builder

/-- The list under construction after steps in order. -/
def handOver (steps : List Step) (builder : Builder) : Builder :=
  steps.foldl Step.handTo builder

variable {κ : Type}

/-- The number of ranges that are announced for one entry, and the steps.  An
aperture is announced as device registers, RAM as memory, and nothing else is
announced. -/
def publishEntry (caching : Caching κ) (supported : Bool) (entry : Entry) (state : κ) :
    Nat × List Step × κ :=
  if entry.isAperture then (1, [.addIoMemory entry.base entry.length], state)
  else if entry.isRam then
    if supported then
      let (succeeded, state) := caching.setWriteBack entry.base entry.length state
      (1, [.addMemory entry.base entry.length,
        .setWriteBack entry.base entry.length succeeded], state)
    else (1, [.addMemory entry.base entry.length], state)
  else (0, [], state)

/-- The number of ranges that are announced for entries in order, and the steps. -/
def publishEntries (caching : Caching κ) (supported : Bool) :
    List Entry → κ → Nat × List Step × κ
  | [], state => (0, [], state)
  | entry :: rest, state =>
    let (count, steps, state) := publishEntry caching supported entry state
    let (others, later, state) := publishEntries caching supported rest state
    (count + others, steps ++ later, state)

/-- Publishes a whole map.  Answers how many ranges were announced, and the
steps. -/
def publish (caching : Caching κ) (entries : List Entry) (state : κ) : Nat × List Step × κ :=
  let (supported, state) := caching.isSupported state
  let (count, steps, state) := publishEntries caching supported entries state
  (count, .cachingSupported supported :: steps, state)

/-- Publishes the map at its fixed address and then computes its summary.  Without a
usable map there is no step.  The steps are made even if the firmware stops at the
summary. -/
def publishGuestMemory (memory : GuestMemory) (caching : Caching κ) (state : κ) :
    Except Overflow (Except E820Error Summary) × List Step × κ :=
  match ofMemory memory mapAddress with
  | .error failure => (.ok (.error failure), [], state)
  | .ok entries =>
    let (_, steps, state) := publish caching entries state
    ((summarize entries).map .ok, steps, state)

end GuestFirmware.E820
