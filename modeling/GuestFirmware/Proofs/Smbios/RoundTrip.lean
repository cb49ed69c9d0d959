import GuestFirmware.Smbios.Record
import Mathlib.Data.List.Basic

/-!
# Reading back a structure table

A table that was written structure by structure is cut into the records of
these structures again.  The end of a record is found by a search for two zero
bytes, and a record may hold many zero bytes in front of them.  The search does
not see those: it begins behind the formatted part, and in a string set two zero
bytes in a row stand at the end only.

* `stringSetLength_encodeStrings` is the search in a string set, whatever
  follows it.
* `nextRecord_encode` is one record, and `recordsAndRest_encode` is a table.
* `answerAt` is what a reader sees who asks for one record after the other.
  `answerAt_eq` relates it to the list of all records, for any table.
-/

namespace GuestFirmware.Smbios

/-! ## String sets -/

/-- The search passes over a byte that is not zero. -/
theorem stringSetLength_cons_of_ne {byte : UInt8} (h : byte ≠ 0) (rest : List UInt8) :
    stringSetLength (byte :: rest) = (stringSetLength rest).map (· + 1) := by
  cases rest with
  | nil => rfl
  | cons second rest => rw [stringSetLength, if_neg fun hzero => h hzero.1]

theorem stringSetLength_append {text : List UInt8} (h : 0 ∉ text) (rest : List UInt8) :
    stringSetLength (text ++ rest) = (stringSetLength rest).map (· + text.length) := by
  induction text with
  | nil => simp
  | cons byte text ih =>
    have hbyte : byte ≠ 0 := (List.ne_of_not_mem_cons h).symm
    have htext : 0 ∉ text := List.not_mem_of_not_mem_cons h
    rw [List.cons_append, stringSetLength_cons_of_ne hbyte, ih htext, Option.map_map]
    rfl

/-- The search passes over a zero byte in front of another byte. -/
theorem stringSetLength_zero_cons {byte : UInt8} (h : byte ≠ 0) (rest : List UInt8) :
    stringSetLength (0 :: byte :: rest) = (stringSetLength (byte :: rest)).map (· + 1) := by
  rw [stringSetLength, if_neg fun hzero => h hzero.2]

/-- Strings with a zero byte behind each of them, and a zero byte at the end. -/
def terminated (strings : List (List UInt8)) : List UInt8 :=
  strings.flatMap (· ++ [0]) ++ [0]

theorem terminated_cons (text : List UInt8) (strings : List (List UInt8)) :
    terminated (text :: strings) = text ++ 0 :: terminated strings := by
  simp [terminated]

/-- A string of a string set is not empty and holds no zero byte. -/
def IsText (text : List UInt8) : Prop :=
  text ≠ [] ∧ 0 ∉ text

instance (text : List UInt8) : Decidable (IsText text) :=
  inferInstanceAs (Decidable (_ ∧ _))

/-- Behind the zero byte of a string either the next string begins or the set
ends. -/
theorem stringSetLength_terminated {strings : List (List UInt8)}
    (h : ∀ text ∈ strings, IsText text) (rest : List UInt8) :
    stringSetLength (0 :: terminated strings ++ rest) =
      some ((terminated strings).length + 1) := by
  induction strings with
  | nil => rfl
  | cons text strings ih =>
    obtain ⟨⟨hne, hzero⟩, hstrings⟩ := List.forall_mem_cons.1 h
    obtain ⟨byte, more, rfl⟩ := List.exists_cons_of_ne_nil hne
    have hbyte : byte ≠ 0 := fun heq => hzero (heq ▸ List.mem_cons_self)
    have hsplit : 0 :: terminated ((byte :: more) :: strings) ++ rest =
        0 :: ((byte :: more) ++ (0 :: terminated strings ++ rest)) := by
      rw [terminated_cons]
      simp
    rw [hsplit, List.cons_append, stringSetLength_zero_cons hbyte, ← List.cons_append,
      stringSetLength_append hzero, ih hstrings, terminated_cons, List.length_append]
    simp only [Option.map_some, List.length_cons]
    congr 1
    omega

/-- The search finds the end of a string set, whatever follows it. -/
theorem stringSetLength_encodeStrings {strings : List (List UInt8)}
    (h : ∀ text ∈ strings, IsText text) (rest : List UInt8) :
    stringSetLength (encodeStrings strings ++ rest) = some (encodeStrings strings).length := by
  cases strings with
  | nil => rfl
  | cons text strings =>
    obtain ⟨⟨-, hzero⟩, hstrings⟩ := List.forall_mem_cons.1 h
    have hencode : encodeStrings (text :: strings) = text ++ 0 :: terminated strings :=
      terminated_cons text strings
    rw [hencode, List.append_assoc, stringSetLength_append hzero,
      stringSetLength_terminated hstrings, List.length_append, Option.map_some, Nat.add_comm]
    rfl

/-! ## Records -/

/-- A structure that a table can hold: it does not end the table, its formatted
part is as long as a byte can say, and its strings are strings. -/
structure Structure.Writable (entry : Structure) : Prop where
  type : entry.type ≠ endOfTable
  body : entry.body.length ≤ 251
  strings : ∀ text ∈ entry.strings, IsText text

instance (entry : Structure) : Decidable entry.Writable :=
  decidable_of_iff
    (entry.type ≠ endOfTable ∧ entry.body.length ≤ 251 ∧ ∀ text ∈ entry.strings, IsText text)
    ⟨fun h => ⟨h.1, h.2.1, h.2.2⟩, fun h => ⟨h.type, h.body, h.strings⟩⟩

/-- The length byte is that of the formatted part. -/
theorem toNat_length_byte {entry : Structure} (h : entry.Writable) :
    (UInt8.ofNat (headerSize + entry.body.length)).toNat = headerSize + entry.body.length := by
  have hbody := h.body
  rw [UInt8.toNat_ofNat']
  exact Nat.mod_eq_of_lt (by rw [headerSize]; omega)

/-- The first four bytes of a record, and what follows them. -/
theorem encode_eq (entry : Structure) :
    ∃ low high, entry.encode =
      entry.type :: UInt8.ofNat (headerSize + entry.body.length) :: low :: high ::
        (entry.body ++ encodeStrings entry.strings) :=
  ⟨_, _, rfl⟩

theorem nextRecord_encode {entry : Structure} (h : entry.Writable) (rest : List UInt8) :
    nextRecord (entry.encode ++ rest) = some (entry.encode, rest) := by
  obtain ⟨low, high, hencode⟩ := encode_eq entry
  have hlength := toNat_length_byte h
  have hvalid : ¬ (entry.type = endOfTable ∨
      (UInt8.ofNat (headerSize + entry.body.length)).toNat < headerSize) := by
    rw [hlength]
    rintro (htype | hshort)
    · exact h.type htype
    · omega
  have hdrop : (entry.encode ++ rest).drop (headerSize + entry.body.length) =
      encodeStrings entry.strings ++ rest := by
    rw [hencode, Nat.add_comm]
    simp [headerSize]
  have hsize : entry.encode.length =
      headerSize + entry.body.length + (encodeStrings entry.strings).length := by
    rw [hencode, headerSize]
    simp
    omega
  have hnext : nextRecord (entry.encode ++ rest) =
      (stringSetLength ((entry.encode ++ rest).drop (headerSize + entry.body.length))).map
        fun strings =>
          (entry.encode ++ rest).splitAt (headerSize + entry.body.length + strings) := by
    rw [hencode]
    simp only [List.cons_append]
    rw [nextRecord, if_neg hvalid, hlength]
  rw [hnext, hdrop, stringSetLength_encodeStrings h.strings, Option.map_some, ← hsize,
    List.splitAt_eq, List.take_left, List.drop_left]

/-- A table ends where nothing follows, or the structure that ends it. -/
theorem nextRecord_trailer {trailer : List UInt8}
    (h : trailer = [] ∨ trailer.head? = some endOfTable) : nextRecord trailer = none := by
  rcases h with rfl | h
  · rfl
  · unfold nextRecord
    split
    · next type length _ _ _ =>
      rw [List.head?_cons, Option.some_inj] at h
      rw [if_pos (Or.inl h)]
    · rfl

theorem recordsAndRest_encode {entries : List Structure} {trailer : List UInt8}
    (hentries : ∀ entry ∈ entries, entry.Writable)
    (htrailer : trailer = [] ∨ trailer.head? = some endOfTable) :
    recordsAndRest (entries.flatMap Structure.encode ++ trailer) =
      (entries.map Structure.encode, trailer) := by
  induction entries with
  | nil => exact recordsAndRest_of_none (nextRecord_trailer htrailer)
  | cons entry entries ih =>
    obtain ⟨hentry, hentries⟩ := List.forall_mem_cons.1 hentries
    have hfirst := nextRecord_encode hentry (entries.flatMap Structure.encode ++ trailer)
    rw [List.flatMap_cons, List.append_assoc, recordsAndRest_of_some hfirst, records, ih hentries,
      List.map_cons]

/-! ## Asking for records -/

/-- The answer to a request for the next record, and what is left of the table
behind it.  A table without a next record is left as it is. -/
def request (table : List UInt8) : Option (List UInt8) × List UInt8 :=
  match nextRecord table with
  | none => (none, table)
  | some (record, rest) => (some record, rest)

/-- The answer to the request that follows `count` others. -/
def answerAt (table : List UInt8) : Nat → Option (List UInt8)
  | 0 => (request table).1
  | count + 1 => answerAt (request table).2 count

/-- A table without a next record never has one again. -/
theorem answerAt_of_none {table : List UInt8} (h : nextRecord table = none) (count : Nat) :
    answerAt table count = none := by
  have hrequest : request table = (none, table) := by rw [request, h]
  induction count with
  | zero => rw [answerAt, hrequest]
  | succ count ih => rw [answerAt, hrequest, ih]

/-- The requests are answered with the records of the table, and with nothing
once they are used up. -/
theorem answerAt_eq (table : List UInt8) (count : Nat) :
    answerAt table count = (records table)[count]? := by
  induction h : table.length using Nat.strongRecOn generalizing table count with
  | ind size ih =>
    cases hnext : nextRecord table with
    | none => rw [answerAt_of_none hnext, records, recordsAndRest_of_none hnext, List.getElem?_nil]
    | some found =>
      obtain ⟨record, rest⟩ := found
      have hrequest : request table = (some record, rest) := by rw [request, hnext]
      rw [records, recordsAndRest_of_some hnext]
      cases count with
      | zero => rw [answerAt, hrequest, List.getElem?_cons_zero]
      | succ count =>
        rw [answerAt, hrequest, List.getElem?_cons_succ]
        exact ih rest.length (h ▸ length_rest_lt hnext) rest count rfl

/-- A table of any writable structures, with nothing behind it or the structure
that ends it, gives exactly the records of these structures, in order, and then
nothing for ever. -/
theorem records_roundTrip {entries : List Structure} {trailer : List UInt8}
    (hentries : ∀ entry ∈ entries, entry.Writable)
    (htrailer : trailer = [] ∨ trailer.head? = some endOfTable) :
    let table := entries.flatMap Structure.encode ++ trailer
    recordsAndRest table = (entries.map Structure.encode, trailer) ∧
      ∀ count, answerAt table count = (entries.map Structure.encode)[count]? := by
  intro table
  have hrecords := recordsAndRest_encode hentries htrailer
  refine ⟨hrecords, fun count => ?_⟩
  rw [answerAt_eq, records, hrecords]

/-- Structures full of zero bytes: bodies that end in them, next to a set of
strings, to an empty set, and to the zero type byte of the next structure. -/
def zeroStructures : List Structure :=
  [⟨0, 0, [0, 0, 0], [[0x42], [0x48, 0x59]]⟩, ⟨0, 1, [0, 0], []⟩, ⟨0, 2, [], [[0x31]]⟩]

theorem records_roundTrip_zeroStructures :
    (∀ entry ∈ zeroStructures, entry.Writable) ∧
      [endOfTable, 4, 3, 0, 0, 0].head? = some endOfTable ∧
      recordsAndRest (zeroStructures.flatMap Structure.encode ++ [endOfTable, 4, 3, 0, 0, 0]) =
        ([[0, 7, 0, 0, 0, 0, 0, 0x42, 0, 0x48, 0x59, 0, 0], [0, 6, 1, 0, 0, 0, 0, 0],
          [0, 4, 2, 0, 0x31, 0, 0]], [endOfTable, 4, 3, 0, 0, 0]) ∧
      answerAt (zeroStructures.flatMap Structure.encode ++ [endOfTable, 4, 3, 0, 0, 0]) 3 =
        none := by
  have hentries : ∀ entry ∈ zeroStructures, entry.Writable := by decide
  have htrailer : [endOfTable, 4, 3, 0, 0, 0].head? = some endOfTable := rfl
  obtain ⟨hrecords, hanswers⟩ := records_roundTrip hentries (Or.inr htrailer)
  exact ⟨hentries, htrailer, hrecords, hanswers 3⟩

end GuestFirmware.Smbios
