import SchemaDoc.Text.CodeRanges
import SchemaDoc.Text.Compatibility.Table
import Std.Data.HashMap

/-!
Contract: compatibility normalisation of identifiers (the form NFKC of the Unicode standard).

A text is decomposed character by character, marks are put into canonical order, and adjacent
characters are composed again. Hangul syllables are computed; everything else is in the tables.
-/

namespace SchemaDoc.Text

namespace Compatibility

/-- One row of the decomposition table, as the entries it stands for. -/
private def entriesOfRow (previous : Nat) (row : List Char) : Nat × List (Nat × List Nat) :=
  match CodeRanges.pieces ':' row with
  | [place, codes] =>
    match CodeRanges.pieces '+' place with
    | [gap, more] =>
      let first := previous + ofDigits 16 gap
      let count := ofDigits 16 more
      let target := ofDigits 16 codes
      (first + count, (List.range (count + 1)).map fun step => (first + step, [target + step]))
    | _ =>
      let first := previous + ofDigits 16 place
      (first, [(first, (CodeRanges.pieces '.' codes).map (ofDigits 16))])
  | _ => (previous, [])

private def readDecompositions (rows : List String) : List (Nat × List Nat) :=
  ((CodeRanges.words rows).foldl
    (fun state row =>
      let (last, entries) := entriesOfRow state.1 row
      (last, entries.reverse ++ state.2))
    ((0, []) : Nat × List (Nat × List Nat))).2

private def readCombining (previous : Nat) : List Nat → List (Nat × Nat)
  | gap :: more :: rank :: rest =>
    ((List.range (more + 1)).map fun step => (previous + gap + step, rank)) ++
      readCombining (previous + gap + more) rest
  | _ => []

private def readCompositions : List Nat → List ((Nat × Nat) × Nat)
  | first :: second :: whole :: rest => ((first, second), whole) :: readCompositions rest
  | _ => []

/-- Full decompositions by code point. -/
def decompositions : Std.HashMap Nat (List Nat) :=
  Std.HashMap.ofList (readDecompositions decompositionRows)

/-- Combining classes that are not zero, by code point. -/
def combiningClasses : Std.HashMap Nat Nat :=
  Std.HashMap.ofList (readCombining 0 (CodeRanges.numbers combiningRows))

/-- Compositions by the two code points they join. -/
def compositions : Std.HashMap (Nat × Nat) Nat :=
  Std.HashMap.ofList (readCompositions (CodeRanges.numbers compositionRows))

/-- The combining class; zero for characters that start a sequence. -/
def combiningClass (code : Nat) : Nat :=
  combiningClasses.getD code 0

/-- The full decomposition of a code point. -/
def decompose (code : Nat) : List Nat :=
  if 0xAC00 ≤ code && code ≤ 0xD7A3 then
    let index := code - 0xAC00
    let leading := 0x1100 + index / 588
    let vowel := 0x1161 + index % 588 / 28
    let trailing := 0x11A7 + index % 28
    if index % 28 = 0 then [leading, vowel] else [leading, vowel, trailing]
  else
    decompositions.getD code [code]

/-- A mark moves in front of the marks of higher class that precede it. -/
private def insertMark (code : Nat) : List Nat → List Nat
  | [] => [code]
  | last :: earlier =>
    if combiningClass code != 0 && combiningClass last > combiningClass code then
      last :: insertMark code earlier
    else
      code :: last :: earlier

/-- Canonical order of marks. -/
def order (codes : List Nat) : List Nat :=
  (codes.foldl (fun ordered code => insertMark code ordered) []).reverse

/-- The character that two adjacent ones compose to. -/
def compose? (first second : Nat) : Option Nat :=
  if 0x1100 ≤ first && first ≤ 0x1112 && 0x1161 ≤ second && second ≤ 0x1175 then
    some (0xAC00 + ((first - 0x1100) * 21 + (second - 0x1161)) * 28)
  else if 0xAC00 ≤ first && first ≤ 0xD7A3 && (first - 0xAC00) % 28 = 0 &&
      0x11A8 ≤ second && second ≤ 0x11C2 then
    some (first + (second - 0x11A7))
  else
    compositions[(first, second)]?

/-- Composition of an ordered text: `starter` is the last character of class zero, `kept` the
marks after it (nearest first), `blocked` the class of the nearest kept mark. -/
private def composeAll (starter : Nat) (kept : List Nat) : List Nat → List Nat
  | [] => starter :: kept.reverse
  | code :: rest =>
    let rank := combiningClass code
    let open_ :=
      match kept with
      | [] => true
      | last :: _ => combiningClass last < rank
    match (if open_ then compose? starter code else none) with
    | some whole => composeAll whole kept rest
    | none =>
      if rank = 0 then starter :: (kept.reverse ++ composeAll code [] rest)
      else composeAll starter (code :: kept) rest

/-- Composition of an ordered text. -/
def compose : List Nat → List Nat
  | [] => []
  | code :: rest =>
    if combiningClass code = 0 then composeAll code [] rest else code :: compose rest

end Compatibility

/-- The compatibility-normalised form of an identifier. -/
def normalizeIdentifier (text : List Char) : List Char :=
  if text.all (·.toNat < 0x80) then text
  else
    let codes := text.flatMap fun c => Compatibility.decompose c.toNat
    (Compatibility.compose (Compatibility.order codes)).map Char.ofNat

end SchemaDoc.Text
