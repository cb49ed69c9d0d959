import GuestFirmware.E820.Map
import GuestFirmware.Proofs.LittleEndian.Slices
import Mathlib.Tactic.SplitIfs

/-!
# The format of the memory map

A buffer holds a map when it begins with the signature, states a number of
entries that is not zero, and is long enough for them.  `WellFormed` says so of
a buffer, and `Rejected` says what is wrong with any other.

The result is `decode_format`.  Reading accepts exactly the buffers that are
well formed, and the entries that are read are the ones whose written form
stands behind the header.  What was written is read back, whatever follows it.
`Entry.decode_encode` and `Entry.encode_decode` are the two round trips of one
entry, and `decode_of_entryCount` is the step from the header to the entries.
-/

namespace GuestFirmware.E820

open LittleEndian

/-! ## Entries -/

namespace Entry

@[simp] theorem length_encode (entry : Entry) : entry.encode.length = size := by
  simp [encode, size]

theorem decode_encode (entry : Entry) : decode entry.encode = entry := by
  have hfields : entry.encode =
      ofWord64 entry.base ++ (ofWord64 entry.length ++ (ofWord32 entry.typeCode ++ [])) := by
    rw [encode, List.append_nil, List.append_assoc]
  rw [hfields, decode]
  simp only [word32At_append, word64At_append, word32At_ofWord32, word64At_ofWord64,
    length_ofWord64, Nat.reduceLeDiff, Nat.reduceSub, Nat.le_refl]

theorem encode_decode {bytes : List UInt8} (h : bytes.length = size) :
    (decode bytes).encode = bytes := by
  have hlength : bytes.length = 20 := h
  have hwhole : slice bytes 0 20 = bytes := by
    rw [slice, List.drop_zero, List.take_of_length_le (by omega)]
  rw [encode, decode, ofWord64_word64At (by omega), ofWord64_word64At (by omega),
    ofWord32_word32At (by omega), slice_append_slice, slice_append_slice, hwhole]

end Entry

/-! ## The header -/

theorem entryCount_eq_ok_iff {header : List UInt8} {count : Nat} :
    entryCount header = .ok count ↔
      header.take 3 = signature ∧ (word32At header 4).toNat = count ∧ count ≠ 0 := by
  unfold entryCount
  by_cases hsignature : header.take 3 = signature
  · rw [if_neg fun h => h hsignature]
    dsimp only
    split_ifs with hzero
    · constructor
      · intro h
        cases h
      · rintro ⟨-, hstated, hcount⟩
        exact absurd (hstated.symm.trans hzero) hcount
    · constructor
      · intro h
        cases h
        exact ⟨hsignature, rfl, hzero⟩
      · rintro ⟨-, rfl, -⟩
        rfl
  · rw [if_pos hsignature]
    constructor
    · intro h
      cases h
    · rintro ⟨hmatch, -, -⟩
      exact absurd hmatch hsignature

/-- The header of a table is its beginning. -/
theorem entryCount_take (table : List UInt8) :
    entryCount (table.take headerSize) = entryCount table := by
  have htake : (table.take headerSize).take 3 = table.take 3 := by
    rw [List.take_take]
    rfl
  have hcount : word32At (table.take headerSize) 4 = word32At table 4 := by
    rw [word32At, word32At, slice_take (by decide)]
  rw [entryCount, entryCount, htake, hcount]

/-- The number of entries that a buffer states. -/
def statedCount (bytes : List UInt8) : Nat :=
  (word32At bytes 4).toNat

/-- A buffer that holds a map: a header with the signature and a number of
entries, and the entries. -/
structure WellFormed (bytes : List UInt8) : Prop where
  header : 8 ≤ bytes.length
  signature : bytes.take 3 = signature
  count : statedCount bytes ≠ 0
  entries : 8 + 20 * statedCount bytes ≤ bytes.length

/-- What is wrong with a buffer that holds no map.  What is found first counts. -/
inductive Rejected (bytes : List UInt8) : E820Error → Prop
  | noHeader (h : bytes.length < 8) : Rejected bytes .truncated
  | notSigned (hheader : 8 ≤ bytes.length) (h : bytes.take 3 ≠ signature) :
      Rejected bytes .invalidSignature
  | noEntries (hheader : 8 ≤ bytes.length) (hsignature : bytes.take 3 = signature)
      (h : statedCount bytes = 0) : Rejected bytes .empty
  | cutOff (hheader : 8 ≤ bytes.length) (hsignature : bytes.take 3 = signature)
      (hcount : statedCount bytes ≠ 0) (h : bytes.length < 8 + 20 * statedCount bytes) :
      Rejected bytes .truncated

/-! ## Reading -/

/-- Behind the number of entries that a header states are the rows of a table. -/
theorem decode_of_header {bytes : List UInt8} (h : 8 ≤ bytes.length) :
    decode bytes = (entryCount bytes).bind fun count =>
      if bytes.length < 8 + 20 * count then .error .truncated
      else .ok ((rows Entry.size count (bytes.drop 8)).map Entry.decode) := by
  have hlong : ¬ bytes.length < headerSize := Nat.not_lt.2 h
  have hbody : ∀ count, (bytes.drop headerSize).length < count * Entry.size ↔
      bytes.length < 8 + 20 * count := by
    intro count
    rw [List.length_drop, headerSize, Entry.size]
    omega
  rw [decode, if_neg hlong, entryCount_take]
  simp only [hbody]
  cases entryCount bytes <;> rfl

theorem decode_of_wellFormed {bytes : List UInt8} (h : WellFormed bytes) :
    decode bytes =
      .ok ((rows Entry.size (statedCount bytes) (bytes.drop 8)).map Entry.decode) := by
  rw [decode_of_header h.header, entryCount_eq_ok_iff.2 ⟨h.signature, rfl, h.count⟩]
  exact if_neg (Nat.not_lt.2 h.entries)

theorem decode_of_rejected {bytes : List UInt8} {failure : E820Error}
    (h : Rejected bytes failure) : decode bytes = .error failure := by
  cases h with
  | noHeader h => exact if_pos h
  | notSigned hheader h =>
    rw [decode_of_header hheader, entryCount, if_pos h]
    rfl
  | noEntries hheader hsignature h =>
    have hcount : entryCount bytes = .error .empty := by
      rw [entryCount, if_neg fun hother => hother hsignature]
      exact if_pos h
    rw [decode_of_header hheader, hcount]
    rfl
  | cutOff hheader hsignature hcount h =>
    rw [decode_of_header hheader, entryCount_eq_ok_iff.2 ⟨hsignature, rfl, hcount⟩]
    exact if_pos h

/-- A buffer holds a map or something is wrong with it. -/
theorem wellFormed_or_rejected (bytes : List UInt8) :
    WellFormed bytes ∨ ∃ failure, Rejected bytes failure := by
  by_cases hheader : 8 ≤ bytes.length
  · by_cases hsignature : bytes.take 3 = signature
    · by_cases hcount : statedCount bytes = 0
      · exact Or.inr ⟨_, .noEntries hheader hsignature hcount⟩
      · by_cases hentries : 8 + 20 * statedCount bytes ≤ bytes.length
        · exact Or.inl ⟨hheader, hsignature, hcount, hentries⟩
        · exact Or.inr ⟨_, .cutOff hheader hsignature hcount (Nat.not_le.1 hentries)⟩
    · exact Or.inr ⟨_, .notSigned hheader hsignature⟩
  · exact Or.inr ⟨_, .noHeader (Nat.not_le.1 hheader)⟩

theorem decode_eq_error_iff {bytes : List UInt8} {failure : E820Error} :
    decode bytes = .error failure ↔ Rejected bytes failure := by
  refine ⟨fun h => ?_, decode_of_rejected⟩
  rcases wellFormed_or_rejected bytes with hwell | ⟨other, hother⟩
  · rw [decode_of_wellFormed hwell] at h
    cases h
  · rw [decode_of_rejected hother] at h
    cases h
    exact hother

/-! ## Entries behind a header -/

/-- The rows that entries were written as are these entries. -/
theorem map_decode_rows (entries : List Entry) (rest : List UInt8) :
    (rows Entry.size entries.length (entries.flatMap Entry.encode ++ rest)).map Entry.decode =
      entries := by
  have hwidth : ∀ part ∈ entries.map Entry.encode, part.length = Entry.size := by
    intro part hpart
    obtain ⟨entry, -, rfl⟩ := List.mem_map.1 hpart
    exact entry.length_encode
  have hrows := rows_flatten hwidth rest
  rw [List.length_map, ← List.flatMap_def] at hrows
  rw [hrows, List.map_map]
  exact (List.map_congr_left fun entry _ => entry.decode_encode).trans (List.map_id entries)

/-- The entries that rows are read as are written as these rows. -/
theorem flatMap_encode_decode {count : Nat} {body : List UInt8}
    (h : count * Entry.size ≤ body.length) :
    ((rows Entry.size count body).map Entry.decode).flatMap Entry.encode =
      body.take (count * Entry.size) := by
  have hrows : (rows Entry.size count body).map (Entry.encode ∘ Entry.decode) =
      (rows Entry.size count body).map id :=
    List.map_congr_left fun row hrow => Entry.encode_decode (length_of_mem_rows h hrow)
  rw [List.flatMap_def, List.map_map, hrows, List.map_id, flatten_rows]

theorem decode_eq_ok_iff {bytes : List UInt8} {entries : List Entry} :
    decode bytes = .ok entries ↔
      WellFormed bytes ∧ entries.length = statedCount bytes ∧
        entries.flatMap Entry.encode = slice bytes 8 (20 * statedCount bytes) := by
  have hcut : ∀ count, slice bytes 8 (20 * count) = (bytes.drop 8).take (count * Entry.size) := by
    intro count
    rw [slice, Entry.size, Nat.mul_comm]
  constructor
  · intro h
    rcases wellFormed_or_rejected bytes with hwell | ⟨failure, hrejected⟩
    · rw [decode_of_wellFormed hwell] at h
      cases h
      refine ⟨hwell, by rw [List.length_map, length_rows], ?_⟩
      rw [hcut, flatMap_encode_decode]
      have hentries := hwell.entries
      rw [List.length_drop, Entry.size]
      omega
    · rw [decode_of_rejected hrejected] at h
      cases h
  · rintro ⟨hwell, hlength, hbody⟩
    have hsplit : bytes.drop 8 =
        entries.flatMap Entry.encode ++ (bytes.drop 8).drop (statedCount bytes * Entry.size) := by
      rw [hbody, hcut, List.take_append_drop]
    rw [decode_of_wellFormed hwell, hsplit, ← hlength, map_decode_rows]

/-! ## Writing -/

/-- The header of a map, in front of the rest. -/
theorem encode_append (mark : UInt8) (entries : List Entry) (rest : List UInt8) :
    encode mark entries ++ rest =
      (signature ++ [mark]) ++
        (LittleEndian.encode 4 entries.length ++ (entries.flatMap Entry.encode ++ rest)) := by
  simp only [encode, List.append_assoc]

theorem statedCount_encode {entries : List Entry} (h : entries.length < UInt32.size) (mark : UInt8)
    (rest : List UInt8) : statedCount (encode mark entries ++ rest) = entries.length := by
  have hword : LittleEndian.encode 4 entries.length = ofWord32 (UInt32.ofNat entries.length) := by
    rw [ofWord32, UInt32.toNat_ofNat', Nat.mod_eq_of_lt h]
  rw [statedCount, encode_append, word32At_append (Nat.le_refl 4), hword]
  show (word32At _ 0).toNat = entries.length
  rw [word32At_ofWord32, UInt32.toNat_ofNat', Nat.mod_eq_of_lt h]

theorem length_flatMap_encode (entries : List Entry) :
    (entries.flatMap Entry.encode).length = 20 * entries.length := by
  induction entries with
  | nil => rfl
  | cons entry rest ih =>
    rw [List.flatMap_cons, List.length_append, ih, Entry.length_encode, Entry.size,
      List.length_cons]
    omega

theorem decode_encode_append {entries : List Entry} (hne : entries ≠ [])
    (hsize : entries.length < UInt32.size) (mark : UInt8) (rest : List UInt8) :
    decode (encode mark entries ++ rest) = .ok entries := by
  have hcount := statedCount_encode hsize mark rest
  have hlength : (encode mark entries ++ rest).length =
      8 + 20 * entries.length + rest.length := by
    rw [encode_append]
    simp only [List.length_append, length_flatMap_encode, LittleEndian.length_encode]
    rw [signature]
    simp
    omega
  refine decode_eq_ok_iff.2 ⟨⟨?_, ?_, ?_, ?_⟩, hcount.symm, ?_⟩
  · omega
  · rfl
  · rw [hcount]
    exact fun hzero => hne (List.length_eq_zero_iff.1 hzero)
  · rw [hcount]
    omega
  · rw [hcount, encode_append, ← List.append_assoc, slice_append_of_ge (by simp [signature])]
    have hfront : (signature ++ [mark] ++ LittleEndian.encode 4 entries.length).length = 8 := by
      simp [signature]
    rw [hfront, ← length_flatMap_encode, slice_front]

/-- A map is read from exactly the buffers that are well formed, and the entries
that are read are as many as stated and written as the bytes behind the header.
Any other buffer is rejected for what is found first.  Every map that can be
written is read back, whatever its fourth byte is and whatever follows it. -/
theorem decode_format :
    (∀ bytes, (∃ entries, decode bytes = .ok entries) ↔ WellFormed bytes) ∧
    (∀ bytes entries, decode bytes = .ok entries ↔
      WellFormed bytes ∧ entries.length = statedCount bytes ∧
        entries.flatMap Entry.encode = slice bytes 8 (20 * statedCount bytes)) ∧
    (∀ bytes failure, decode bytes = .error failure ↔ Rejected bytes failure) ∧
    ∀ mark entries rest, entries ≠ [] → entries.length < UInt32.size →
      decode (encode mark entries ++ rest) = .ok entries := by
  refine ⟨fun bytes => ⟨?_, ?_⟩, fun bytes entries => decode_eq_ok_iff,
    fun bytes failure => decode_eq_error_iff, ?_⟩
  · rintro ⟨entries, h⟩
    exact (decode_eq_ok_iff.1 h).1
  · intro hwell
    exact ⟨_, decode_of_wellFormed hwell⟩
  · intro mark entries rest hne hsize
    exact decode_encode_append hne hsize mark rest

/-- Low RAM, and a range of an unknown type that ends past the last address. -/
def twoEntries : List Entry :=
  [⟨0, 0xA0000, 1⟩, ⟨0xFFFFFFFFFFFFF000, 0x2000, 0xFFFFFFFF⟩]

theorem decode_format_twoEntries :
    twoEntries ≠ [] ∧ twoEntries.length < UInt32.size ∧
      decode (encode 0xFF twoEntries ++ [1, 2, 3]) = .ok twoEntries := by
  have hne : twoEntries ≠ [] := by decide
  have hsize : twoEntries.length < UInt32.size := by decide
  exact ⟨hne, hsize, decode_format.2.2.2 0xFF twoEntries [1, 2, 3] hne hsize⟩

end GuestFirmware.E820
