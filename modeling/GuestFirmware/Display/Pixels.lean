/-!
# Rows of pixels

Pictures lie in memory as arrays of 32-bit pixels.  `readRow` takes pixels out
of an array and `writeRow` puts some in.  A row that is read before it is
written may overlap the place it is written to.

The lemmas give the length of a row (`length_readRow`) and of the array after a
write (`size_writeRow`), and each pixel of both (`getElem?_readRow`,
`getElem?_writeRow`).
-/

namespace GuestFirmware.Display

/-- Pixels in memory. -/
abbrev Pixels : Type := Array UInt32

/-- The `width` pixels from `start` on, fewer where the array ends. -/
def readRow (pixels : Pixels) (start width : Nat) : List UInt32 :=
  (pixels.extract start (start + width)).toList

/-- The array with a row written from `start` on.  Pixels past the end of the
array are dropped. -/
def writeRow (pixels : Pixels) (start : Nat) : List UInt32 → Pixels
  | [] => pixels
  | pixel :: rest => writeRow (pixels.setIfInBounds start pixel) (start + 1) rest

theorem length_readRow {pixels : Pixels} {start width : Nat} (h : start + width ≤ pixels.size) :
    (readRow pixels start width).length = width := by
  simp [readRow]
  omega

theorem getElem?_readRow {pixels : Pixels} {start width index : Nat} (h : index < width) :
    (readRow pixels start width)[index]? = pixels[start + index]? := by
  simp only [readRow, Array.getElem?_toList, Array.getElem?_extract]
  split
  · rfl
  · rw [Array.getElem?_eq_none (by omega)]

@[simp] theorem size_writeRow (pixels : Pixels) (start : Nat) (row : List UInt32) :
    (writeRow pixels start row).size = pixels.size := by
  induction row generalizing pixels start with
  | nil => rfl
  | cons pixel rest ih => rw [writeRow, ih, Array.size_setIfInBounds]

theorem getElem?_writeRow {pixels : Pixels} {start : Nat} {row : List UInt32}
    (h : start + row.length ≤ pixels.size) (index : Nat) :
    (writeRow pixels start row)[index]? =
      if start ≤ index ∧ index < start + row.length then row[index - start]?
      else pixels[index]? := by
  induction row generalizing pixels start with
  | nil =>
    have hnone : ¬(start ≤ index ∧ index < start) := by omega
    simp [writeRow, hnone]
  | cons pixel rest ih =>
    simp only [List.length_cons] at h
    rw [writeRow, ih (by simpa using by omega), Array.getElem?_setIfInBounds]
    rcases Nat.lt_trichotomy index start with hlt | rfl | hgt
    · rw [if_neg (by omega), if_neg (by omega), if_neg (by simp; omega)]
    · rw [if_neg (by omega), if_pos rfl, if_pos (by omega), if_pos (by simp)]
      simp
    · have hindex : index - start = index - (start + 1) + 1 := by omega
      by_cases hin : index < start + (rest.length + 1)
      · rw [if_pos (by omega), if_pos (by simp; omega), hindex, List.getElem?_cons_succ]
      · rw [if_neg (by omega), if_neg (by omega), if_neg (by simp; omega)]

end GuestFirmware.Display
