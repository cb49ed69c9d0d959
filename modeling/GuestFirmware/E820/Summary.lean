import GuestFirmware.E820.Map

/-!
# Sizes of guest memory

What the rest of the firmware asks of the memory map: where RAM below 4 GiB
ends, how much RAM there is above, where the address space ends, and the
aperture of the PCI host.  The amount of high RAM is a running total of machine
words, and the firmware stops when it leaves them.
-/

namespace GuestFirmware.E820

open Entry (fourGiB)

/-- The 64-bit aperture of the PCI host. -/
structure Aperture where
  base : UInt64
  size : UInt64
  deriving DecidableEq, Repr

/-- The RAM of a map. -/
def ram (entries : List Entry) : List Entry :=
  entries.filter Entry.isRam

/-- The greatest of some addresses. -/
def greatest : List UInt64 → Option UInt64 :=
  List.foldl (fun best address => some (max (best.getD 0) address)) none

/-- The first address past every entry, if it is high. -/
def firstNonAddress (entries : List Entry) : Except E820Error UInt64 :=
  match greatest (entries.map Entry.limit) with
  | none => .error .empty
  | some highest => if fourGiB ≤ highest then .ok highest else .error .notFound

/-- The first high reserved entry. -/
def aperture (entries : List Entry) : Except E820Error Aperture :=
  match entries.find? Entry.isAperture with
  | none => .error .notFound
  | some entry => .ok ⟨entry.base, entry.length⟩

/-- One past the greatest RAM address below 4 GiB. -/
def lowMemorySize (entries : List Entry) : UInt64 :=
  (greatest (((ram entries).filter fun entry => entry.base < fourGiB).map
    fun entry => min entry.limit fourGiB)).getD 0

/-- The bytes of an entry at or above 4 GiB. -/
def highPart (entry : Entry) : Except Overflow UInt64 :=
  checkedSub entry.limit (max entry.base fourGiB)

/-- A running total with the high bytes of one more entry. -/
def addHighPart (total : UInt64) (entry : Entry) : Except Overflow UInt64 := do
  checkedAdd total (← highPart entry)

/-- The number of RAM bytes at or above 4 GiB. -/
def highMemorySize (entries : List Entry) : Except Overflow UInt64 :=
  ((ram entries).filter fun entry => fourGiB < entry.limit).foldlM addHighPart 0

/-- All of these facts about a map. -/
structure Summary where
  lowMemorySize : UInt64
  highMemorySize : UInt64
  firstNonAddress : Option UInt64
  aperture : Option Aperture
  deriving DecidableEq, Repr

/-- The summary of a map. -/
def summarize (entries : List Entry) : Except Overflow Summary := do
  let high ← highMemorySize entries
  return {
    lowMemorySize := lowMemorySize entries
    highMemorySize := high
    firstNonAddress := (firstNonAddress entries).toOption
    aperture := (aperture entries).toOption }

end GuestFirmware.E820
