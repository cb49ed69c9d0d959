import GuestFirmware.Handoff.Descriptor

/-!
# Hand-off lists

A hand-off list is a row of blocks in memory, each with its type and length in
front, closed by an end block.  `layOut` writes descriptors as such a list.
`walk` reads the blocks of a list by following their lengths, and
`resourceDescriptors` are the resource descriptors among blocks.
-/

namespace GuestFirmware.Handoff

open LittleEndian

/-- The type of the block that closes a list. -/
def endType : UInt16 := 0xFFFF

/-- Bytes of a header, which is all of the end block. -/
def headerSize : Nat := 8

/-- The block that closes a list. -/
def endBlock : List UInt8 :=
  ResourceDescriptor.header endType headerSize

/-- The list of some descriptors. -/
def layOut (descriptors : List ResourceDescriptor) : List UInt8 :=
  descriptors.flatMap ResourceDescriptor.encode ++ endBlock

/-- A block as a reader of the list sees it. -/
inductive Block
  | resource (descriptor : ResourceDescriptor)
  /-- A block of another type. -/
  | other (type : UInt16)
  deriving DecidableEq, Repr

/-- The block that starts a list of bytes. -/
def Block.decode (bytes : List UInt8) : Block :=
  let type := word16At bytes 0
  if type = ResourceDescriptor.blockType then .resource (.decode bytes) else .other type

/-- Reads at most `count` blocks.  The list ends at its end block.  A block
shorter than its header ends it as well, for it leads nowhere. -/
def walkUpTo : Nat → List UInt8 → List Block
  | 0, _ => []
  | count + 1, bytes =>
    let size := (word16At bytes 2).toNat
    if word16At bytes 0 = endType ∨ size < headerSize ∨ bytes.length < size then []
    else .decode bytes :: walkUpTo count (bytes.drop size)

/-- The blocks of a list. -/
def walk (bytes : List UInt8) : List Block :=
  walkUpTo (bytes.length / headerSize) bytes

/-- The resource descriptors among blocks. -/
def resourceDescriptors (blocks : List Block) : List ResourceDescriptor :=
  blocks.filterMap fun block => match block with
    | .resource descriptor => some descriptor
    | _ => none

end GuestFirmware.Handoff
