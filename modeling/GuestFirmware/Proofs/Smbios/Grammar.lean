import GuestFirmware.Proofs.Smbios.RoundTrip
import Mathlib.Order.Bounds.Basic
import Mathlib.Order.Nat

/-!
# The grammar of a structure table

Any bytes may be given as a structure table.  This module says what their records
are without the reader: which bytes are a record (`IsRecord`), and which bytes no
record can be taken from (`Ended`).  A table has one cut into records and bytes
that are left over, and the reader finds it.

There are three groups.

* Pairs of zero bytes.  The search for the end of a string set finds the first
  pair at or behind an offset (`stringSetLength_drop_eq_some_iff`), and nothing if
  there is none (`stringSetLength_drop_eq_none_iff`).
* One record.  `nextRecord_eq_some_iff` and `nextRecord_eq_none_iff` are the two
  ends of the reader.
* Whole tables.  `recordsAndRest_eq_iff` says that the cut is the only one, and
  `records_grammar` is the result.
-/

namespace GuestFirmware.Smbios

/-! ## Pairs of zero bytes -/

/-- Two zero bytes in a row. -/
def ZeroPair (bytes : List UInt8) (offset : Nat) : Prop :=
  bytes[offset]? = some 0 ∧ bytes[offset + 1]? = some 0

instance (bytes : List UInt8) (offset : Nat) : Decidable (ZeroPair bytes offset) :=
  inferInstanceAs (Decidable (_ ∧ _))

/-- The pairs of zero bytes at or behind an offset. -/
def pairsFrom (start : Nat) (bytes : List UInt8) : Set Nat :=
  {offset | start ≤ offset ∧ ZeroPair bytes offset}

theorem ZeroPair.lt {bytes : List UInt8} {offset : Nat} (h : ZeroPair bytes offset) :
    offset + 1 < bytes.length :=
  (List.getElem?_eq_some_iff.1 h.2).1

theorem zeroPair_cons_succ (byte : UInt8) (bytes : List UInt8) (offset : Nat) :
    ZeroPair (byte :: bytes) (offset + 1) ↔ ZeroPair bytes offset := by
  simp only [ZeroPair, List.getElem?_cons_succ]

theorem zeroPair_drop (bytes : List UInt8) (start offset : Nat) :
    ZeroPair (bytes.drop start) offset ↔ ZeroPair bytes (start + offset) := by
  simp only [ZeroPair, List.getElem?_drop, Nat.add_assoc]

/-- What follows the second byte of a pair does not matter. -/
theorem zeroPair_append {bytes : List UInt8} {offset : Nat} (h : offset + 1 < bytes.length)
    (rest : List UInt8) : ZeroPair (bytes ++ rest) offset ↔ ZeroPair bytes offset := by
  rw [ZeroPair, ZeroPair, List.getElem?_append_left (by omega), List.getElem?_append_left h]

/-- The search looks at the first two bytes and then goes on behind the first one. -/
theorem stringSetLength_cons (byte : UInt8) (bytes : List UInt8) :
    stringSetLength (byte :: bytes) =
      if ZeroPair (byte :: bytes) 0 then some 2 else (stringSetLength bytes).map (· + 1) := by
  cases bytes with
  | nil =>
    have halone : ¬ ZeroPair [byte] 0 := fun h => absurd h.lt (Nat.lt_irrefl 1)
    rw [if_neg halone]
    rfl
  | cons second rest =>
    have hpair : ZeroPair (byte :: second :: rest) 0 ↔ byte = 0 ∧ second = 0 := by
      simp [ZeroPair]
    simp only [stringSetLength, hpair]

theorem stringSetLength_eq_none_iff {bytes : List UInt8} :
    stringSetLength bytes = none ↔ ∀ offset, ¬ ZeroPair bytes offset := by
  induction bytes with
  | nil =>
    refine iff_of_true rfl fun offset h => ?_
    exact Nat.not_lt_zero _ h.lt
  | cons byte bytes ih =>
    rw [stringSetLength_cons]
    split
    · next hpair => exact iff_of_false (fun h => nomatch h) fun h => h 0 hpair
    · next hpair =>
      rw [Option.map_eq_none_iff, ih]
      refine ⟨fun h offset => ?_, fun h offset => ?_⟩
      · cases offset with
        | zero => exact hpair
        | succ offset => rw [zeroPair_cons_succ]; exact h offset
      · rw [← zeroPair_cons_succ byte]
        exact h (offset + 1)

/-- The pairs of a list are those behind its first byte, one place further on, and
perhaps one at the front. -/
theorem isLeast_zeroPair_cons {byte : UInt8} {bytes : List UInt8} {offset : Nat}
    (h : ¬ ZeroPair (byte :: bytes) 0) :
    IsLeast {offset | ZeroPair (byte :: bytes) offset} (offset + 1) ↔
      IsLeast {offset | ZeroPair bytes offset} offset := by
  refine ⟨fun hleast => ⟨?_, fun other hother => ?_⟩, fun hleast => ⟨?_, fun other hother => ?_⟩⟩
  · exact (zeroPair_cons_succ byte bytes offset).1 hleast.1
  · exact Nat.le_of_succ_le_succ (hleast.2 ((zeroPair_cons_succ byte bytes other).2 hother))
  · exact (zeroPair_cons_succ byte bytes offset).2 hleast.1
  · cases other with
    | zero => exact absurd hother h
    | succ other =>
      exact Nat.succ_le_succ (hleast.2 ((zeroPair_cons_succ byte bytes other).1 hother))

/-- The search ends behind the first pair. -/
theorem stringSetLength_eq_some_iff {bytes : List UInt8} {offset : Nat} :
    stringSetLength bytes = some (offset + 2) ↔
      IsLeast {offset | ZeroPair bytes offset} offset := by
  induction bytes generalizing offset with
  | nil =>
    refine iff_of_false (fun h => nomatch h) fun h => ?_
    exact Nat.not_lt_zero _ (ZeroPair.lt h.1)
  | cons byte bytes ih =>
    rw [stringSetLength_cons]
    split
    · next hpair =>
      have hzero : IsLeast {offset | ZeroPair (byte :: bytes) offset} 0 :=
        ⟨hpair, fun other _ => Nat.zero_le other⟩
      refine ⟨fun h => ?_, fun h => ?_⟩
      · obtain rfl : offset = 0 := by simpa using h.symm
        exact hzero
      · rw [h.unique hzero]
    · next hpair =>
      cases offset with
      | zero =>
        -- a search that goes on passes more than one pair of bytes
        refine iff_of_false (fun h => ?_) fun h => hpair h.1
        obtain ⟨count, hcount, htwo⟩ := Option.map_eq_some_iff.1 h
        have hbounds := (stringSetLength_bounds hcount).1
        omega
      | succ offset =>
        rw [isLeast_zeroPair_cons hpair, ← ih]
        simp

theorem stringSetLength_drop_eq_none_iff {start : Nat} {bytes : List UInt8} :
    stringSetLength (bytes.drop start) = none ↔
      ∀ offset, start ≤ offset → ¬ ZeroPair bytes offset := by
  rw [stringSetLength_eq_none_iff]
  refine ⟨fun h offset hstart => ?_, fun h offset => ?_⟩
  · obtain ⟨distance, rfl⟩ := Nat.exists_eq_add_of_le hstart
    rw [← zeroPair_drop]
    exact h distance
  · rw [zeroPair_drop]
    exact h (start + offset) (Nat.le_add_right _ _)

theorem stringSetLength_drop_eq_some_iff {start offset : Nat} {bytes : List UInt8} :
    stringSetLength (bytes.drop start) = some (offset + 2) ↔
      IsLeast (pairsFrom start bytes) (start + offset) := by
  rw [stringSetLength_eq_some_iff]
  refine ⟨fun h => ⟨⟨Nat.le_add_right _ _, ?_⟩, ?_⟩, fun h => ⟨?_, fun other hother => ?_⟩⟩
  · exact (zeroPair_drop bytes start offset).1 h.1
  · rintro other ⟨hstart, hother⟩
    obtain ⟨distance, rfl⟩ := Nat.exists_eq_add_of_le hstart
    exact Nat.add_le_add_left (h.2 ((zeroPair_drop bytes start distance).2 hother)) start
  · exact (zeroPair_drop bytes start offset).2 h.1.2
  · have hpair := (zeroPair_drop bytes start other).1 hother
    exact Nat.le_of_add_le_add_left (h.2 ⟨Nat.le_add_right _ _, hpair⟩)

/-- Bytes behind the first pair do not matter. -/
theorem isLeast_pairsFrom_append {start last : Nat} {bytes : List UInt8}
    (h : last + 1 < bytes.length) (rest : List UInt8) :
    IsLeast (pairsFrom start (bytes ++ rest)) last ↔ IsLeast (pairsFrom start bytes) last := by
  refine ⟨fun hleast => ⟨⟨hleast.1.1, (zeroPair_append h rest).1 hleast.1.2⟩, ?_⟩,
    fun hleast => ⟨⟨hleast.1.1, (zeroPair_append h rest).2 hleast.1.2⟩, ?_⟩⟩
  · rintro other ⟨hstart, hother⟩
    exact hleast.2 ⟨hstart, (zeroPair_append hother.lt rest).2 hother⟩
  · rintro other ⟨hstart, hother⟩
    by_contra hbelow
    have hinside : other + 1 < bytes.length := by omega
    exact hbelow (hleast.2 ⟨hstart, (zeroPair_append hinside rest).1 hother⟩)

/-! ## One record -/

/-- A record does not have the type that ends a table.  Its second byte says how
long its formatted part is, at least as long as a header, and the record ends with
the first two zero bytes in a row at or behind the end of that part. -/
def IsRecord (record : List UInt8) : Prop :=
  ∃ type length : UInt8, ∃ last : Nat,
    record[0]? = some type ∧ type ≠ endOfTable ∧
    record[1]? = some length ∧ headerSize ≤ length.toNat ∧
    IsLeast (pairsFrom length.toNat record) last ∧
    record.length = last + 2

/-- No record starts these bytes: they are shorter than a header, or have the type
that ends a table, or state a length shorter than a header, or have no two zero bytes
in a row at or behind the stated length. -/
def Ended (bytes : List UInt8) : Prop :=
  bytes.length < headerSize ∨ bytes[0]? = some endOfTable ∨
    ∃ length : UInt8, bytes[1]? = some length ∧
      (length.toNat < headerSize ∨
        ∀ offset, length.toNat ≤ offset → ¬ ZeroPair bytes offset)

/-- A table that is at least as long as a header is read by its first two bytes. -/
theorem nextRecord_of_header {table : List UInt8} (h : headerSize ≤ table.length) :
    ∃ type length : UInt8, table[0]? = some type ∧ table[1]? = some length ∧
      nextRecord table =
        if type = endOfTable ∨ length.toNat < headerSize then none
        else (stringSetLength (table.drop length.toNat)).map fun strings =>
          table.splitAt (length.toNat + strings) := by
  match table, h with
  | type :: length :: low :: high :: rest, _ => exact ⟨type, length, rfl, rfl, rfl⟩

theorem nextRecord_of_short {table : List UInt8} (h : table.length < headerSize) :
    nextRecord table = none := by
  unfold nextRecord
  split
  · simp only [List.length_cons, headerSize] at h
    omega
  · rfl

theorem nextRecord_eq_none_iff {table : List UInt8} :
    nextRecord table = none ↔ Ended table := by
  unfold Ended
  by_cases hshort : table.length < headerSize
  · exact iff_of_true (nextRecord_of_short hshort) (.inl hshort)
  · obtain ⟨type, length, htype, hlength, hnext⟩ := nextRecord_of_header (Nat.not_lt.1 hshort)
    rw [hnext, htype, hlength]
    by_cases hend : type = endOfTable
    · simp [hend]
    · by_cases hsmall : length.toNat < headerSize
      · simp [hsmall]
      · simp [hshort, hend, hsmall, stringSetLength_drop_eq_none_iff]

/-- A valid header and what follows it, up to the first two zero bytes in a row, are a
record. -/
theorem isRecord_take {table : List UInt8} {type length : UInt8} {last : Nat}
    (htype : table[0]? = some type) (hend : type ≠ endOfTable)
    (hlength : table[1]? = some length) (hlong : headerSize ≤ length.toNat)
    (hleast : IsLeast (pairsFrom length.toNat table) last) :
    IsRecord (table.take (last + 2)) := by
  have hlast : last + 1 < table.length := hleast.1.2.lt
  -- the pair is whole in the record, so that it is the first one there as well
  have hsize : (table.take (last + 2)).length = last + 2 := by
    rw [List.length_take]
    omega
  rw [← List.take_append_drop (last + 2) table, isLeast_pairsFrom_append (by omega)] at hleast
  refine ⟨type, length, last, ?_, hend, ?_, hlong, hleast, hsize⟩
  · rw [List.getElem?_take_of_lt (by omega), htype]
  · rw [List.getElem?_take_of_lt (by omega), hlength]

/-- Bytes that the reader takes off are a record. -/
theorem isRecord_of_nextRecord {table record rest : List UInt8}
    (h : nextRecord table = some (record, rest)) : IsRecord record := by
  have hheader : headerSize ≤ table.length := by
    by_contra hshort
    rw [nextRecord_of_short (Nat.not_le.1 hshort)] at h
    cases h
  obtain ⟨type, length, htype, hlength, hnext⟩ := nextRecord_of_header hheader
  rw [hnext] at h
  split at h
  · cases h
  · next hvalid =>
    obtain ⟨hend, hlong⟩ := not_or.1 hvalid
    obtain ⟨strings, hstrings, hsplit⟩ := Option.map_eq_some_iff.1 h
    obtain ⟨offset, rfl⟩ := Nat.exists_eq_add_of_le' (stringSetLength_bounds hstrings).1
    rw [List.splitAt_eq] at hsplit
    cases hsplit
    exact isRecord_take htype hend hlength (Nat.not_lt.1 hlong)
      (stringSetLength_drop_eq_some_iff.1 hstrings)

/-- A record is taken off whatever follows it. -/
theorem nextRecord_of_isRecord {record : List UInt8} (h : IsRecord record) (rest : List UInt8) :
    nextRecord (record ++ rest) = some (record, rest) := by
  obtain ⟨type, length, last, htype, hend, hlength, hlong, hleast, hsize⟩ := h
  have hvalid : ¬ (type = endOfTable ∨ length.toNat < headerSize) :=
    not_or.2 ⟨hend, Nat.not_lt.2 hlong⟩
  have hstart : length.toNat ≤ last := hleast.1.1
  obtain ⟨offset, rfl⟩ := Nat.exists_eq_add_of_le hstart
  have hheader : headerSize ≤ (record ++ rest).length := by
    rw [List.length_append]
    omega
  obtain ⟨type', length', htype', hlength', hnext⟩ := nextRecord_of_header hheader
  unfold headerSize at hlong
  rw [List.getElem?_append_left (by omega), htype] at htype'
  rw [List.getElem?_append_left (by omega), hlength] at hlength'
  cases htype'
  cases hlength'
  have hstrings : stringSetLength ((record ++ rest).drop length.toNat) = some (offset + 2) := by
    rw [stringSetLength_drop_eq_some_iff, isLeast_pairsFrom_append (by omega)]
    exact hleast
  rw [hnext, if_neg hvalid, hstrings, Option.map_some, ← Nat.add_assoc, ← hsize,
    List.splitAt_eq, List.take_left, List.drop_left]

theorem nextRecord_eq_some_iff {table record rest : List UInt8} :
    nextRecord table = some (record, rest) ↔ IsRecord record ∧ record ++ rest = table := by
  refine ⟨fun h => ⟨isRecord_of_nextRecord h, nextRecord_append h⟩, ?_⟩
  rintro ⟨hrecord, rfl⟩
  exact nextRecord_of_isRecord hrecord rest

/-! ## Whole tables -/

/-- A cut of a table into records and bytes that no record can be taken from. -/
structure Cut (table : List UInt8) (found : List (List UInt8)) (left : List UInt8) : Prop where
  joined : found.flatten ++ left = table
  records : ∀ record ∈ found, IsRecord record
  ended : Ended left

theorem cut_recordsAndRest (table : List UInt8) :
    Cut table (recordsAndRest table).1 (recordsAndRest table).2 := by
  induction h : table.length using Nat.strongRecOn generalizing table with
  | ind size ih =>
    cases hnext : nextRecord table with
    | none =>
      rw [recordsAndRest_of_none hnext]
      exact ⟨rfl, fun record hrecord => absurd hrecord List.not_mem_nil,
        nextRecord_eq_none_iff.1 hnext⟩
    | some found =>
      obtain ⟨record, rest⟩ := found
      obtain ⟨hrecord, happend⟩ := nextRecord_eq_some_iff.1 hnext
      have hrest := ih rest.length (h ▸ length_rest_lt hnext) rest rfl
      rw [recordsAndRest_of_some hnext]
      refine ⟨?_, List.forall_mem_cons.2 ⟨hrecord, hrest.records⟩, hrest.ended⟩
      rw [List.flatten_cons, List.append_assoc, records, hrest.joined, happend]

/-- The reader finds every cut, so there is only one. -/
theorem recordsAndRest_of_cut {table left : List UInt8} {found : List (List UInt8)}
    (h : Cut table found left) : recordsAndRest table = (found, left) := by
  obtain ⟨rfl, hrecords, hended⟩ := h
  induction found with
  | nil => exact recordsAndRest_of_none (nextRecord_eq_none_iff.2 hended)
  | cons record found ih =>
    obtain ⟨hrecord, hfound⟩ := List.forall_mem_cons.1 hrecords
    have hnext := nextRecord_of_isRecord hrecord (found.flatten ++ left)
    rw [List.flatten_cons, List.append_assoc, recordsAndRest_of_some hnext, records, ih hfound]

theorem recordsAndRest_eq_iff {table left : List UInt8} {found : List (List UInt8)} :
    recordsAndRest table = (found, left) ↔ Cut table found left := by
  refine ⟨fun h => ?_, recordsAndRest_of_cut⟩
  have hcut := cut_recordsAndRest table
  rwa [h] at hcut

theorem request_eq_some_iff {bytes record rest : List UInt8} :
    request bytes = (some record, rest) ↔ nextRecord bytes = some (record, rest) := by
  unfold request
  cases nextRecord bytes with
  | none => simp
  | some taken => simp [Prod.ext_iff]

theorem request_eq_none_iff {bytes : List UInt8} :
    (request bytes).1 = none ↔ nextRecord bytes = none := by
  unfold request
  cases nextRecord bytes <;> simp

theorem six_le_length_of_isRecord {record : List UInt8} (h : IsRecord record) :
    6 ≤ record.length :=
  six_le_length_of_nextRecord (nextRecord_of_isRecord h [])

/-- A table has room for a record in every six bytes. -/
theorem length_le_of_records {found : List (List UInt8)}
    (h : ∀ record ∈ found, IsRecord record) : 6 * found.length ≤ found.flatten.length := by
  induction found with
  | nil => exact Nat.zero_le _
  | cons record found ih =>
    obtain ⟨hrecord, hfound⟩ := List.forall_mem_cons.1 h
    have hsix := six_le_length_of_isRecord hrecord
    have hrest := ih hfound
    rw [List.flatten_cons, List.length_append, List.length_cons]
    omega

/-- The reader cuts any bytes in the only way in which they are records followed by
bytes that no record starts.  Each request takes one record off, at least six bytes,
or finds that none can be taken, and then it is never answered with a record again. -/
theorem records_grammar (table : List UInt8) :
    (∀ found left, recordsAndRest table = (found, left) ↔
      found.flatten ++ left = table ∧ (∀ record ∈ found, IsRecord record) ∧ Ended left) ∧
    (∀ bytes record rest, request bytes = (some record, rest) ↔
      IsRecord record ∧ record ++ rest = bytes) ∧
    (∀ bytes, (request bytes).1 = none ↔ Ended bytes) ∧
    (∀ record, IsRecord record → 6 ≤ record.length) ∧
    (records table).length ≤ table.length / 6 ∧
    (∀ count, answerAt table count = (records table)[count]?) ∧
    ∀ count, answerAt table count = none →
      ∀ later, count ≤ later → answerAt table later = none := by
  refine ⟨fun found left => ?_, fun bytes record rest => ?_, fun bytes => ?_,
    fun record => six_le_length_of_isRecord, ?_, answerAt_eq table, ?_⟩
  · rw [recordsAndRest_eq_iff]
    exact ⟨fun h => ⟨h.joined, h.records, h.ended⟩, fun h => ⟨h.1, h.2.1, h.2.2⟩⟩
  · rw [request_eq_some_iff, nextRecord_eq_some_iff]
  · rw [request_eq_none_iff, nextRecord_eq_none_iff]
  · have hcut := cut_recordsAndRest table
    have hroom := length_le_of_records hcut.records
    have hsize := congrArg List.length hcut.joined
    rw [List.length_append] at hsize
    rw [records]
    omega
  · intro count hnone later hlater
    rw [answerAt_eq, List.getElem?_eq_none_iff] at hnone ⊢
    exact Nat.le_trans hnone hlater

end GuestFirmware.Smbios
