/-
Tables of characters as closed ranges of code points in increasing order, and a search that halves
the table until one range is left.
-/

namespace Minipack.Text

/-- Halves the rows `low ≤ i < high` around `code`, at most `rounds` times. -/
def searchRanges (table : Array (Nat × Nat)) (code : Nat) : Nat → Nat → Nat → Bool
  | 0, _, _ => false
  | rounds + 1, low, high =>
    if low < high then
      let middle := (low + high) / 2
      match table[middle]? with
      | none => false
      | some (first, last) =>
        if code < first then searchRanges table code rounds low middle
        else if last < code then searchRanges table code rounds (middle + 1) high
        else true
    else false

/-- Whether one of the ranges of `table` holds `c`. -/
def inRanges (table : Array (Nat × Nat)) (c : Char) : Bool :=
  searchRanges table c.toNat (table.size + 1) 0 table.size

/-- The number of a hexadecimal text in digits and capitals. -/
def hexNumber (text : List Char) : Nat :=
  text.foldl (fun n c => n * 16 + (if c.isDigit then c.toNat - 48 else c.toNat - 55)) 0

/-- The range of a text with the first and the last code point, or with the only one. -/
def hexRange (text : List Char) : Nat × Nat :=
  let first := text.takeWhile (· != '-')
  match text.dropWhile (· != '-') with
  | [] => (hexNumber first, hexNumber first)
  | _ :: last => (hexNumber first, hexNumber last)

/-- The ranges of lines in which spaces set them apart. -/
def hexRanges (lines : List String) : List (Nat × Nat) :=
  lines.flatMap fun line => (line.toList.splitOn ' ').map hexRange

end Minipack.Text
