import GuestFirmware.Handoff.List

/-!
# Building a hand-off list

A `Builder` takes resource descriptors one by one.  `Builder.finish` lays them out as
a list and packs its bytes into an `Image` of 64-bit words, so that the list starts at
an aligned address.
-/

namespace GuestFirmware.Handoff

open LittleEndian

/-! ## The finished list -/

/-- A hand-off list as it lies in memory. -/
structure Image where
  words : List UInt64
  deriving DecidableEq, Repr

namespace Image

/-- Bytes of a word. -/
def wordSize : Nat := 8

/-- The words that bytes are packed into.  Bytes that fill no word are dropped. -/
def ofBytes (bytes : List UInt8) : Image where
  words := (rows wordSize (bytes.length / wordSize) bytes).map (word64At · 0)

/-- The bytes of the words. -/
def bytes (image : Image) : List UInt8 :=
  image.words.flatMap ofWord64

/-- The number of bytes. -/
def size (image : Image) : Nat :=
  image.words.length * wordSize

/-- There are no words. -/
def isEmpty (image : Image) : Bool :=
  image.words.isEmpty

end Image

/-! ## The builder -/

/-- The descriptors that were added, in order. -/
structure Builder where
  resources : List ResourceDescriptor
  deriving DecidableEq, Repr

namespace Builder

/-- Nothing was added yet. -/
def empty : Builder := ⟨[]⟩

/-- Adds a descriptor behind the others. -/
def addResource (builder : Builder) (descriptor : ResourceDescriptor) : Builder :=
  ⟨builder.resources ++ [descriptor]⟩

/-- Adds a range of guest RAM. -/
def addMemory (builder : Builder) (base length : UInt64) : Builder :=
  builder.addResource (.ofMemory base length)

/-- Adds a window of device registers. -/
def addIoMemory (builder : Builder) (base length : UInt64) : Builder :=
  builder.addResource (.ofMappedIo base length)

/-- The list of what was added. -/
def finish (builder : Builder) : Image :=
  .ofBytes (layOut builder.resources)

end Builder

/-- One call of a builder. -/
inductive Addition
  | resource (descriptor : ResourceDescriptor)
  | memory (base length : UInt64)
  | ioMemory (base length : UInt64)
  deriving DecidableEq, Repr

/-- Carries out a call. -/
def Builder.add (builder : Builder) : Addition → Builder
  | .resource descriptor => builder.addResource descriptor
  | .memory base length => builder.addMemory base length
  | .ioMemory base length => builder.addIoMemory base length

/-- Carries out calls in order. -/
def Builder.addAll (builder : Builder) (additions : List Addition) : Builder :=
  additions.foldl Builder.add builder

end GuestFirmware.Handoff
