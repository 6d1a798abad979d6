import SchemaDoc.Text.Basic
import SchemaDoc.Text.Case.Table

/-!
Contract: full letter-case mapping of texts.

Lowercasing maps each character by itself, with two exceptions of the Unicode standard: the
dotted capital I gives two characters, and a capital sigma at the end of a word gives the final
sigma. Uppercasing maps each character by itself, some to several characters.
-/

namespace SchemaDoc.Text

namespace Case

/-- The image of a code point under a table of runs; a code point in no run stays. -/
def mapCode (runs : List Run) (code : Nat) : Nat :=
  match runs.find? (·.holds code) with
  | some run => run.target code
  | none => code

/-- The character lies in one of the ranges. -/
def inRanges (ranges : List (Nat × Nat)) (c : Char) : Bool :=
  ranges.any fun range => range.1 ≤ c.toNat && c.toNat ≤ range.2

/-- The first character that is not passed over has a letter case. -/
def opensCased (text : Text) : Bool :=
  match text.dropWhile (inRanges ignorableRanges) with
  | [] => false
  | c :: _ => inRanges casedRanges c

end Case

/-- The lowercase form of one character away from any context. -/
def lowerChar (c : Char) : Text :=
  if c.toNat = 0x130 then ['i', Char.ofNat 0x307]
  else [Char.ofNat (Case.mapCode Case.lowerRuns c.toNat)]

/-- Lowercase of `text`, where `before` holds the characters in front of it, nearest first. -/
def lowerAfter (before : Text) : Text → Text
  | [] => []
  | c :: rest =>
    if c.toNat = 0x3A3 then
      let final := Case.opensCased before && !Case.opensCased rest
      Char.ofNat (if final then 0x3C2 else 0x3C3) :: lowerAfter (c :: before) rest
    else
      lowerChar c ++ lowerAfter (c :: before) rest

/-- The text in lowercase. -/
def lower (text : Text) : Text :=
  lowerAfter [] text

/-- The uppercase form of one character. -/
def upperChar (c : Char) : Text :=
  match Case.upperSequences.find? (·.1 == c.toNat) with
  | some (_, codes) => codes.map Char.ofNat
  | none => [Char.ofNat (Case.mapCode Case.upperRuns c.toNat)]

/-- The text in uppercase. -/
def upper (text : Text) : Text :=
  text.flatMap upperChar

end SchemaDoc.Text
