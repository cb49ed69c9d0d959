import GuestFirmware.Proofs.E820.ReadBack

/-!
# The memory map in any readable stretch

The map is read from memory in two goes: the header first, and then as many bytes as
the header calls for.  This module compares that with decoding the bytes of any
readable stretch that starts at the same address, be it too short or too long.

* `take_eq_take_of_read` says that two stretches begin alike, and `entryCount_of_read`
  that both state the same number of entries.
* `ofMemory_of_read` is the second go, once some stretch with room for a header is
  readable.
* `decode_take` says that decoding needs no byte behind the table.

`ofMemory_agrees` is the result.  It holds for every memory, and so for the
identity-mapped one and for one made of regions.
-/

namespace GuestFirmware.E820

open LittleEndian

variable {memory : GuestMemory} {address : UInt64} {length other : Nat} {bytes table : List UInt8}

/-! ## Two stretches at one address -/

theorem take_eq_take_of_read (hbytes : memory.read address length = some bytes)
    (htable : memory.read address other = some table) {count : Nat} (hlength : count ≤ length)
    (hother : count ≤ other) : table.take count = bytes.take count := by
  have hfirst := memory.read_take hbytes hlength
  rw [memory.read_take htable hother] at hfirst
  exact Option.some.inj hfirst

theorem entryCount_of_read (hbytes : memory.read address length = some bytes)
    (htable : memory.read address other = some table) (hlength : 8 ≤ length) (hother : 8 ≤ other) :
    entryCount table = entryCount bytes := by
  have hheader : table.take headerSize = bytes.take headerSize :=
    take_eq_take_of_read hbytes htable hlength hother
  rw [← entryCount_take table, hheader, entryCount_take]

/-- What the header calls for is read next, and decoded. -/
theorem ofMemory_of_read (hread : memory.read address length = some bytes) (hlength : 8 ≤ length) :
    ofMemory memory address = (entryCount bytes).bind fun count =>
      (memory.read address (8 + 20 * count)).elim (.error .truncated) decode := by
  have hheader : memory.read address headerSize = some (bytes.take headerSize) :=
    memory.read_take hread hlength
  rw [ofMemory, hheader]
  dsimp only
  rw [entryCount_take]
  cases entryCount bytes with
  | error failure => rfl
  | ok count =>
    have hsize : headerSize + count * Entry.size = 8 + 20 * count := by
      rw [headerSize, Entry.size, Nat.mul_comm]
    dsimp only [Except.bind]
    rw [hsize]
    cases memory.read address (8 + 20 * count) <;> rfl

/-! ## Decoding a whole table -/

/-- A stretch as long as its header calls for holds as many entries as stated, and no
other bytes. -/
theorem decode_of_length {count : Nat} (hcount : entryCount table = .ok count)
    (hlength : table.length = 8 + 20 * count) :
    ∃ entries, decode table = .ok entries ∧ entries.length = count ∧
      entries.flatMap Entry.encode = table.drop 8 := by
  obtain ⟨hsignature, hword, hzero⟩ := entryCount_eq_ok_iff.1 hcount
  have hstated : statedCount table = count := hword
  have hwell : WellFormed table :=
    ⟨by omega, hsignature, by rwa [hstated], by omega⟩
  have hdecode := decode_of_wellFormed hwell
  obtain ⟨-, hentries, hbody⟩ := decode_eq_ok_iff.1 hdecode
  refine ⟨_, hdecode, hentries.trans hstated, ?_⟩
  rw [hbody, hstated, slice, List.take_of_length_le (by rw [List.length_drop]; omega)]

/-- The bytes behind a table are not looked at. -/
theorem decode_take {entries : List Entry} (h : decode bytes = .ok entries) :
    decode (bytes.take (8 + 20 * statedCount bytes)) = .ok entries := by
  obtain ⟨hwell, hlength, hbody⟩ := decode_eq_ok_iff.1 h
  have hstated : statedCount (bytes.take (8 + 20 * statedCount bytes)) = statedCount bytes := by
    rw [statedCount, word32At, slice_take (by omega), ← word32At, ← statedCount]
  have htable : (bytes.take (8 + 20 * statedCount bytes)).length = 8 + 20 * statedCount bytes :=
    List.length_take_of_le hwell.entries
  refine decode_eq_ok_iff.2 ⟨⟨?_, ?_, ?_, ?_⟩, ?_, ?_⟩
  · rw [htable]
    omega
  · rw [List.take_take, Nat.min_eq_left (by omega)]
    exact hwell.signature
  · rw [hstated]
    exact hwell.count
  · omega
  · rw [hstated]
    exact hlength
  · rw [hstated, slice_take (Nat.le_refl _)]
    exact hbody

/-! ## What a stretch says about the map at its address -/

/-- A map that lies in a stretch is the one that is read. -/
theorem ofMemory_of_decode (hread : memory.read address length = some bytes)
    {entries : List Entry} (h : decode bytes = .ok entries) :
    ofMemory memory address = .ok entries := by
  obtain ⟨hwell, -, -⟩ := decode_eq_ok_iff.1 h
  have hentries := hwell.entries
  rw [memory.length_of_read hread] at hentries
  have htable := memory.read_take hread hentries
  rw [ofMemory_of_read hread (by omega),
    entryCount_eq_ok_iff.2 ⟨hwell.signature, rfl, hwell.count⟩]
  show (memory.read address (8 + 20 * statedCount bytes)).elim _ _ = _
  rw [htable]
  exact decode_take h

/-- Anything but a missing end is wrong with the header. -/
theorem entryCount_of_decode_error {failure : E820Error} (hne : failure ≠ .truncated)
    (h : decode bytes = .error failure) :
    entryCount bytes = .error failure := by
  cases decode_eq_error_iff.1 h with
  | noHeader _ => exact absurd rfl hne
  | cutOff _ _ _ _ => exact absurd rfl hne
  | notSigned _ hsignature => exact if_pos hsignature
  | noEntries _ hsignature hcount =>
    rw [entryCount, if_neg fun hother => hother hsignature]
    exact if_pos hcount

/-- Nothing is wrong with the header of a map that is cut off behind it. -/
theorem entryCount_of_truncated (hheader : 8 ≤ bytes.length)
    (h : decode bytes = .error .truncated) : entryCount bytes = .ok (statedCount bytes) := by
  cases decode_eq_error_iff.1 h with
  | noHeader hshort => exact absurd hheader (Nat.not_le.2 hshort)
  | cutOff _ hsignature hcount _ => exact entryCount_eq_ok_iff.2 ⟨hsignature, rfl, hcount⟩

/-! ## Reading and decoding -/

/-- Reading a map from memory agrees with decoding any readable stretch at its address
that has room for a header.  A map that lies in the stretch is read, and what is wrong
with its header is found.  A stretch that is too short for the map says nothing about the
bytes behind it: the map is read if they are readable, and cut off if not.  What is read
depends on no other bytes than those of the table, wherever they lie. -/
theorem ofMemory_agrees (memory : GuestMemory) (address : UInt64) :
    (∀ length bytes, 8 ≤ length → memory.read address length = some bytes →
      (∀ entries, decode bytes = .ok entries → ofMemory memory address = .ok entries) ∧
      (∀ failure, failure ≠ .truncated → decode bytes = .error failure →
        ofMemory memory address = .error failure) ∧
      (decode bytes = .error .truncated →
        (∀ table, memory.read address (8 + 20 * statedCount bytes) = some table →
          ∃ entries, ofMemory memory address = .ok entries ∧
            entries.length = statedCount bytes ∧
            entries.flatMap Entry.encode = table.drop 8) ∧
        (memory.read address (8 + 20 * statedCount bytes) = none →
          ofMemory memory address = .error .truncated))) ∧
    (memory.read address 8 = none → ofMemory memory address = .error .truncated) ∧
    ∀ (elsewhere : GuestMemory) (place : UInt64) (entries : List Entry),
      ofMemory memory address = .ok entries →
      elsewhere.read place (8 + 20 * entries.length) =
        memory.read address (8 + 20 * entries.length) →
      ofMemory elsewhere place = .ok entries := by
  refine ⟨fun length bytes hlength hread => ⟨?_, ?_, ?_⟩, ?_, ?_⟩
  · intro entries hdecode
    exact ofMemory_of_decode hread hdecode
  · intro failure hne hdecode
    rw [ofMemory_of_read hread hlength, entryCount_of_decode_error hne hdecode]
    rfl
  · intro hdecode
    have hheader : 8 ≤ bytes.length := by rwa [memory.length_of_read hread]
    have hcount := entryCount_of_truncated hheader hdecode
    have hnext : ofMemory memory address =
        (memory.read address (8 + 20 * statedCount bytes)).elim (.error .truncated) decode := by
      rw [ofMemory_of_read hread hlength, hcount]
      rfl
    constructor
    · intro table htable
      -- The table begins with the header of the stretch, so it states the same count.
      have hsame := entryCount_of_read hread htable hlength (by omega)
      rw [hnext, htable]
      exact decode_of_length (hsame.trans hcount) (memory.length_of_read htable)
    · intro hnone
      rw [hnext, hnone]
      rfl
  · intro hnone
    have hheader : memory.read address headerSize = none := hnone
    rw [ofMemory, hheader]
  · intro elsewhere place entries hok hsame
    obtain ⟨table, hread, hmap⟩ := ofMemory_eq_ok_iff.1 hok
    refine ofMemory_eq_ok_iff.2 ⟨table, ?_, hmap⟩
    rw [Nat.mul_comm, hsame, Nat.mul_comm]
    exact hread

/-- Memory with a map in the middle of a region. -/
def regionWithMap : GuestMemory :=
  .sparse [⟨0xEEFFF, (0 :: encode 0x20 twoEntries).toArray⟩, ⟨0xF0000, #[0, 0]⟩]

/-- Memory in which every address is mapped, with the header of a map in its last bytes
and on every sixteenth address. -/
def headerAtTop : GuestMemory :=
  .identityMapped fun address => (encode 0x20 twoEntries).getD (address.toNat % 16) 0

/-- A stretch of twenty bytes is too short for two entries, but the bytes behind it are
readable in the one memory.  In the other the table would end past the last address. -/
theorem ofMemory_agrees_cutOff :
    (regionWithMap.read mapAddress 20 = some ((encode 0x20 twoEntries).take 20) ∧
      decode ((encode 0x20 twoEntries).take 20) = .error .truncated ∧
      ∃ entries, ofMemory regionWithMap mapAddress = .ok entries ∧ entries.length = 2 ∧
        entries.flatMap Entry.encode = (encode 0x20 twoEntries).drop 8) ∧
    headerAtTop.read 0xFFFFFFFFFFFFFFF0 8 = some ((encode 0x20 twoEntries).take 8) ∧
      decode ((encode 0x20 twoEntries).take 8) = .error .truncated ∧
      ofMemory headerAtTop 0xFFFFFFFFFFFFFFF0 = .error .truncated := by
  have hregion : regionWithMap.read mapAddress 20 = some ((encode 0x20 twoEntries).take 20) := by
    rfl
  have htop : headerAtTop.read 0xFFFFFFFFFFFFFFF0 8 = some ((encode 0x20 twoEntries).take 8) := by
    rfl
  have hcut : decode ((encode 0x20 twoEntries).take 20) = .error .truncated := by rfl
  have hbare : decode ((encode 0x20 twoEntries).take 8) = .error .truncated := by rfl
  have htwo : statedCount ((encode 0x20 twoEntries).take 20) = 2 := by rfl
  have htwoAtTop : statedCount ((encode 0x20 twoEntries).take 8) = 2 := by rfl
  have htable : regionWithMap.read mapAddress 48 = some (encode 0x20 twoEntries) := by rfl
  have hnone : headerAtTop.read 0xFFFFFFFFFFFFFFF0 48 = none := by rfl
  refine ⟨⟨hregion, hcut, ?_⟩, htop, hbare, ?_⟩
  · obtain ⟨-, -, hbehind⟩ :=
      (ofMemory_agrees regionWithMap mapAddress).1 20 _ (by decide) hregion
    have hnext := (hbehind hcut).1
    rw [htwo] at hnext
    exact hnext _ htable
  · obtain ⟨-, -, hbehind⟩ :=
      (ofMemory_agrees headerAtTop 0xFFFFFFFFFFFFFFF0).1 8 _ (by decide) htop
    have hnext := (hbehind hbare).2
    rw [htwoAtTop] at hnext
    exact hnext hnone

end GuestFirmware.E820
