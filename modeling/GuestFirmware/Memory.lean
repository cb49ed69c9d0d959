/-!
# Guest memory

Hypervisors hand data to the firmware by placing it at fixed guest physical
addresses.  `GuestMemory` answers reads of such data.  Which ranges are
readable is up to the memory; what every memory promises is that an answer has
the length that was asked for, and that a shorter read at the same address is
answered with the beginning of the longer one.

Two memories are provided.  `GuestMemory.identityMapped` reads from an address
space in which every address is mapped, and `GuestMemory.window` is such a space with
regions in it.  `GuestMemory.sparse` reads from the regions alone.

`GuestMemory.firstAligned` searches a range on 16-byte boundaries, as the
legacy BIOS area is searched for its tables.
-/

namespace GuestFirmware

/-- Read access to guest physical memory. -/
structure GuestMemory where
  /-- The bytes of a range, or nothing when the range is not readable. -/
  read : UInt64 → Nat → Option (List UInt8)
  /-- An answer is as long as the range. -/
  length_of_read : ∀ {address length bytes},
    read address length = some bytes → bytes.length = length
  /-- The beginning of a readable range is readable. -/
  read_take : ∀ {address length bytes count},
    read address length = some bytes → count ≤ length →
      read address count = some (bytes.take count)

namespace GuestMemory

/-! ## The identity-mapped address space -/

/-- Memory in which every address holds a byte.  Address 0 and ranges that end
past the last address are refused. -/
def identityMapped (byteAt : UInt64 → UInt8) : GuestMemory where
  read address length :=
    if address = 0 ∨ UInt64.size ≤ address.toNat + length then none
    else some ((List.range length).map fun index => byteAt (address + UInt64.ofNat index))
  length_of_read h := by
    split at h
    · cases h
    · cases h
      simp
  read_take {address length bytes count} h hcount := by
    split at h
    · cases h
    · next hmapped =>
      cases h
      rw [if_neg fun h => hmapped (h.imp_right fun _ => by omega), ← List.map_take,
        List.take_range, Nat.min_eq_left hcount]

/-! ## Separate regions -/

/-- Bytes at consecutive addresses. -/
structure Region where
  /-- The address of the first byte. -/
  base : UInt64
  bytes : Array UInt8

/-- The region that answers for an address: of those that start at or below it
the one with the greatest base, the later one if two have the same base. -/
def governing (regions : List Region) (address : UInt64) : Option Region :=
  regions.foldl
    (fun best region =>
      if address < region.base then best
      else match best with
        | none => some region
        | some chosen => if region.base < chosen.base then some chosen else some region)
    none

/-- Where an address lies in a region that starts at or below it. -/
def Region.offset (region : Region) (address : UInt64) : Nat :=
  address.toNat - region.base.toNat

/-- The part of a region that starts at an address, if it is that long. -/
def Region.read (region : Region) (address : UInt64) (length : Nat) : Option (List UInt8) :=
  if region.base ≤ address ∧ region.offset address + length ≤ region.bytes.size then
    some (region.bytes.extract (region.offset address) (region.offset address + length)).toList
  else none

theorem Region.length_of_read {region : Region} {address : UInt64} {length : Nat}
    {bytes : List UInt8} (h : region.read address length = some bytes) :
    bytes.length = length := by
  unfold Region.read at h
  split at h
  · cases h
    simp
    omega
  · cases h

theorem Region.read_take {region : Region} {address : UInt64} {length count : Nat}
    {bytes : List UInt8} (h : region.read address length = some bytes) (hcount : count ≤ length) :
    region.read address count = some (bytes.take count) := by
  unfold Region.read at h ⊢
  split at h
  · next hfits =>
    cases h
    rw [if_pos ⟨hfits.1, by omega⟩]
    simp [Array.toList_extract, List.take_take, Nat.min_eq_left hcount, List.extract_eq_take_drop]
  · cases h

/-- Memory made of regions.  A read is answered by the governing region of its
address alone, and only if the whole range lies in it. -/
def sparse (regions : List Region) : GuestMemory where
  read address length := (governing regions address).bind (·.read address length)
  length_of_read h := by
    obtain ⟨region, _, h⟩ := Option.bind_eq_some_iff.1 h
    exact region.length_of_read h
  read_take h hcount := by
    obtain ⟨region, hregion, h⟩ := Option.bind_eq_some_iff.1 h
    rw [hregion]
    exact region.read_take h hcount

/-! ## A window of an identity-mapped space -/

/-- The regions without those that a later one with the same base replaces. -/
def replaced (regions : List Region) : List Region :=
  regions.foldl (fun kept region =>
    kept.filter (fun other => other.base != region.base) ++ [region]) []

/-- Writes the bytes of a region into an array that holds those from `start`
on. -/
def Region.writeTo (start : Nat) (bytes : Array UInt8) (region : Region) : Array UInt8 :=
  (region.bytes.foldl (fun (bytes, index) byte => (bytes.setIfInBounds index byte, index + 1))
    (bytes, region.base.toNat - start)).1

/-- The bytes from `start` up to `stop`. -/
def windowBytes (start stop : Nat) (regions : List Region) : Array UInt8 :=
  (replaced regions).foldl (Region.writeTo start) (Array.replicate (stop - start) 0)

/-- Memory whose bytes from `start` up to `stop` are those of the regions.  All
other bytes are zero. -/
def window (start stop : Nat) (regions : List Region) : GuestMemory :=
  let bytes := windowBytes start stop regions
  .identityMapped fun address => bytes.getD (address.toNat - start) 0

/-! ## Search on 16-byte boundaries -/

/-- The first of `count` addresses, 16 bytes apart, that passes a test. -/
def firstOf (test : UInt64 → Bool) (address : UInt64) : Nat → Option UInt64
  | 0 => none
  | count + 1 => if test address then some address else firstOf test (address + 16) count

/-- The first address `start`, `start + 16`, … below `stop` that passes a test. -/
def firstAligned (test : UInt64 → Bool) (start stop : UInt64) : Option UInt64 :=
  firstOf test start ((stop.toNat - start.toNat + 15) / 16)

/-- What a search finds passes the test. -/
theorem test_of_firstOf {test : UInt64 → Bool} {start address : UInt64} {count : Nat}
    (h : firstOf test start count = some address) : test address = true := by
  induction count generalizing start with
  | zero => cases h
  | succ count ih =>
    rw [firstOf] at h
    split at h
    · next htest =>
      cases h
      exact htest
    · exact ih h

end GuestMemory

end GuestFirmware
