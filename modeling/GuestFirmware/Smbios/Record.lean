import GuestFirmware.LittleEndian

/-!
# Records of the structure table

A structure table is a row of records.  A record is a formatted part, whose
second byte is its length, and a set of strings that ends with two zero bytes.
`nextRecord` takes the first record off a table and `records` takes all of
them.  `Structure.encode` writes a record.

The lemmas say that a record and what follows it make up the table
(`nextRecord_append`), and that a record is never empty
(`six_le_length_of_nextRecord`), which is why the iteration ends.
`recordsAndRest_of_none` and `recordsAndRest_of_some` are its two steps.
-/

namespace GuestFirmware.Smbios

/-- The type of the structure that ends a table. -/
def endOfTable : UInt8 := 127

/-- Bytes of the header of a structure. -/
def headerSize : Nat := 4

/-- Bytes up to and including the first two zero bytes in a row. -/
def stringSetLength : List UInt8 → Option Nat
  | first :: second :: rest =>
    if first = 0 ∧ second = 0 then some 2
    else (stringSetLength (second :: rest)).map (· + 1)
  | _ => none

/-- The first record of a table and what follows it.  There is none when the
table is shorter than a header, ends here by its type, states a length shorter
than a header, or ends before the record does. -/
def nextRecord (table : List UInt8) : Option (List UInt8 × List UInt8) :=
  match table with
  | type :: length :: _ :: _ :: _ =>
    if type = endOfTable ∨ length.toNat < headerSize then none
    else (stringSetLength (table.drop length.toNat)).map fun strings =>
      table.splitAt (length.toNat + strings)
  | _ => none

/-! ## Lengths -/

theorem stringSetLength_bounds {bytes : List UInt8} {count : Nat}
    (h : stringSetLength bytes = some count) : 2 ≤ count ∧ count ≤ bytes.length := by
  induction bytes generalizing count with
  | nil => simp [stringSetLength] at h
  | cons first rest ih =>
    cases rest with
    | nil => simp [stringSetLength] at h
    | cons second rest =>
      rw [stringSetLength] at h
      split at h
      · cases h
        simp
      · obtain ⟨inner, hinner, rfl⟩ := Option.map_eq_some_iff.1 h
        have := ih hinner
        simp only [List.length_cons] at this ⊢
        omega

/-- A record comes with its length byte, its string set, and the table cut
after both. -/
theorem nextRecord_eq_some {table record rest : List UInt8}
    (h : nextRecord table = some (record, rest)) :
    ∃ length strings : Nat, headerSize ≤ length ∧
      stringSetLength (table.drop length) = some strings ∧
      record = table.take (length + strings) ∧ rest = table.drop (length + strings) := by
  unfold nextRecord at h
  split at h
  · next type length _ _ _ =>
    split at h
    · cases h
    · next hvalid =>
      obtain ⟨strings, hstrings, hsplit⟩ := Option.map_eq_some_iff.1 h
      rw [List.splitAt_eq] at hsplit
      cases hsplit
      exact ⟨length.toNat, strings, by omega, hstrings, rfl, rfl⟩
  · cases h

theorem nextRecord_append {table record rest : List UInt8}
    (h : nextRecord table = some (record, rest)) : record ++ rest = table := by
  obtain ⟨length, strings, _, _, rfl, rfl⟩ := nextRecord_eq_some h
  exact List.take_append_drop _ table

theorem six_le_length_of_nextRecord {table record rest : List UInt8}
    (h : nextRecord table = some (record, rest)) : 6 ≤ record.length := by
  obtain ⟨length, strings, hlength, hstrings, rfl, -⟩ := nextRecord_eq_some h
  have hbounds := stringSetLength_bounds hstrings
  rw [List.length_drop] at hbounds
  rw [List.length_take]
  simp only [headerSize] at hlength
  omega

theorem length_rest_lt {table record rest : List UInt8}
    (h : nextRecord table = some (record, rest)) : rest.length < table.length := by
  have happend := congrArg List.length (nextRecord_append h)
  have hsix := six_le_length_of_nextRecord h
  rw [List.length_append] at happend
  omega

/-! ## The records of a table -/

/-- All records of a table, in order, and the bytes that are left over. -/
def recordsAndRest (table : List UInt8) : List (List UInt8) × List UInt8 :=
  match _h : nextRecord table with
  | none => ([], table)
  | some (record, rest) =>
    let (records, left) := recordsAndRest rest
    (record :: records, left)
termination_by table.length
decreasing_by exact length_rest_lt (by assumption)

/-- All records of a table, in order. -/
def records (table : List UInt8) : List (List UInt8) :=
  (recordsAndRest table).1

theorem recordsAndRest_of_none {table : List UInt8} (h : nextRecord table = none) :
    recordsAndRest table = ([], table) := by
  rw [recordsAndRest]
  split
  · rfl
  · next hsome =>
    rw [h] at hsome
    cases hsome

theorem recordsAndRest_of_some {table record rest : List UInt8}
    (h : nextRecord table = some (record, rest)) :
    recordsAndRest table = (record :: records rest, (recordsAndRest rest).2) := by
  rw [recordsAndRest]
  split
  · next hnone =>
    rw [h] at hnone
    cases hnone
  · next hsome =>
    rw [h] at hsome
    cases hsome
    rfl

/-! ## Writing records -/

/-- A structure before it is written into a table. -/
structure Structure where
  type : UInt8
  handle : UInt16
  /-- The formatted part after the header. -/
  body : List UInt8
  strings : List (List UInt8)
  deriving DecidableEq, Repr

/-- The string set: each string with a zero byte behind it, and a zero byte at
the end.  An empty set is two zero bytes. -/
def encodeStrings (strings : List (List UInt8)) : List UInt8 :=
  if strings.isEmpty then [0, 0]
  else strings.flatMap (· ++ [0]) ++ [0]

/-- The record of a structure. -/
def Structure.encode (entry : Structure) : List UInt8 :=
  [entry.type, UInt8.ofNat (headerSize + entry.body.length)]
    ++ LittleEndian.ofWord16 entry.handle ++ entry.body ++ encodeStrings entry.strings

end GuestFirmware.Smbios
