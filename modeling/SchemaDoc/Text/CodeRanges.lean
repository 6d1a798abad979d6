/-!
Contract: tables of code-point ranges, and the compact text they are written in.

A table is a text of hexadecimal numbers in pairs. The first number of a pair is the distance
of a range's first code point from the last one of the range before (from zero for the first
pair), the second is the number of code points that follow the first. Ranges are ascending and
do not touch, so membership is a binary search.
-/

namespace SchemaDoc.Text

/-- The value of a digit in a base up to 36, whatever the case of its letter. -/
def digitValue? (base : Nat) (c : Char) : Option Nat :=
  let value :=
    if '0' ≤ c && c ≤ '9' then c.toNat - 48
    else if 'a' ≤ c && c ≤ 'z' then c.toNat - 87
    else if 'A' ≤ c && c ≤ 'Z' then c.toNat - 55
    else base
  if value < base then some value else none

/-- The character is a digit of the base. -/
def isDigitOf (base : Nat) (c : Char) : Bool :=
  (digitValue? base c).isSome

/-- The number that digits write; characters that are no digits are passed over. -/
def ofDigits (base : Nat) (digits : List Char) : Nat :=
  digits.foldl
    (fun total c =>
      match digitValue? base c with
      | some value => total * base + value
      | none => total)
    0

namespace CodeRanges

/-- Pieces between single occurrences of a character. -/
def pieces (separator : Char) : List Char → List (List Char)
  | [] => [[]]
  | c :: rest =>
    match pieces separator rest with
    | [] => [[c]]
    | first :: others =>
      if c = separator then [] :: first :: others else (c :: first) :: others

/-- The words of the rows of a table, in order. -/
def words (rows : List String) : List (List Char) :=
  rows.flatMap fun row => pieces ' ' row.toList

/-- The hexadecimal numbers of a table. -/
def numbers (rows : List String) : List Nat :=
  (words rows).map (ofDigits 16)

private def accumulate (previous : Nat) : List Nat → List (Nat × Nat)
  | gap :: more :: rest =>
    (previous + gap, previous + gap + more) :: accumulate (previous + gap + more) rest
  | _ => []

/-- The ranges, both ends included, that a table writes. -/
def read (rows : List String) : List (Nat × Nat) :=
  accumulate 0 (numbers rows)

private def search (ranges : Array (Nat × Nat)) (code : Nat) :
    (fuel low high : Nat) → Bool
  | 0, _, _ => false
  | fuel + 1, low, high =>
    if low < high then
      let middle := (low + high) / 2
      match ranges[middle]? with
      | none => false
      | some (first, last) =>
        if code < first then search ranges code fuel low middle
        else if last < code then search ranges code fuel (middle + 1) high
        else true
    else false

/-- Membership in an ascending table; each step halves the part that is left. -/
def mem (ranges : Array (Nat × Nat)) (code : Nat) : Bool :=
  search ranges code (ranges.size + 1) 0 ranges.size

end CodeRanges

end SchemaDoc.Text
