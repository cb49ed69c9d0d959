import GuestFirmware.LittleEndian

/-!
# Resource descriptors

Before the driver environment starts, memory is described to it by hand-off
blocks (HOBs).  A `ResourceDescriptor` is the block that describes one range.
`encode` and `decode` are its 48-byte form.
-/

namespace GuestFirmware.Handoff

open LittleEndian

/-! ## Types and attributes of resources -/

/-- The resource is memory that the system may use. -/
def systemMemory : UInt32 := 0

/-- The resource is a window of device registers. -/
def mappedIo : UInt32 := 1

/-- The memory is present, initialised and tested. -/
def testedAttributes : UInt32 := 0x1 ||| 0x2 ||| 0x4

/-- The range may be used without a cache. -/
def uncacheable : UInt32 := 0x400

/-- The range may be used with combined writes. -/
def writeCombineable : UInt32 := 0x800

/-- The range may be used with a write-through cache. -/
def writeThroughCacheable : UInt32 := 0x1000

/-- The range may be used with a write-back cache. -/
def writeBackCacheable : UInt32 := 0x2000

/-- Attributes of guest RAM, which may be cached in every way. -/
def systemMemoryAttributes : UInt32 :=
  testedAttributes ||| uncacheable ||| writeCombineable ||| writeThroughCacheable
    ||| writeBackCacheable

/-- Attributes of a window of device registers, which is not cached. -/
def mappedIoAttributes : UInt32 :=
  testedAttributes ||| uncacheable

/-! ## Descriptors -/

/-- A described range, which has no owner. -/
structure ResourceDescriptor where
  resourceType : UInt32
  attributes : UInt32
  start : UInt64
  length : UInt64
  deriving DecidableEq, Repr

namespace ResourceDescriptor

/-- A range of guest RAM. -/
def ofMemory (base length : UInt64) : ResourceDescriptor :=
  ⟨systemMemory, systemMemoryAttributes, base, length⟩

/-- A window of device registers. -/
def ofMappedIo (base length : UInt64) : ResourceDescriptor :=
  ⟨mappedIo, mappedIoAttributes, base, length⟩

/-- The type of the block. -/
def blockType : UInt16 := 0x0003

/-- Bytes of the block, its header included. -/
def blockSize : Nat := 48

/-- The header of a block: its type, its length, and four reserved bytes. -/
def header (type : UInt16) (size : Nat) : List UInt8 :=
  ofWord16 type ++ LittleEndian.encode 2 size ++ List.replicate 4 0

/-- The block: the header, an owner of 16 zero bytes, and the fields. -/
def encode (descriptor : ResourceDescriptor) : List UInt8 :=
  header blockType blockSize ++ List.replicate 16 0
    ++ ofWord32 descriptor.resourceType ++ ofWord32 descriptor.attributes
    ++ ofWord64 descriptor.start ++ ofWord64 descriptor.length

/-- The descriptor in a block of `blockSize` bytes. -/
def decode (block : List UInt8) : ResourceDescriptor where
  resourceType := word32At block 24
  attributes := word32At block 28
  start := word64At block 32
  length := word64At block 40

end ResourceDescriptor

end GuestFirmware.Handoff
