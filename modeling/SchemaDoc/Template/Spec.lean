import SchemaDoc.Text.CodeRanges
import SchemaDoc.Text.Basic

/-!
Contract: how the value of a placeholder is to be shown.

A specification names, in this order and all optional: a fill character and an alignment, the
treatment of signs, of negative zero and of the alternate form, zeros as fill, a width, a digit
separator, a precision and a form.
-/

namespace SchemaDoc.Template

/-- Why a template cannot be filled in. -/
inductive Fault where
  /-- The template, or a specification in it, is not well formed or does not suit the value. -/
  | malformed
  /-- A placeholder names an argument that is not given. -/
  | noArgument
  | noName
  | noPart
  /-- A value that cannot be shown or looked into in the way asked for. -/
  | wrongKind
  | tooLarge
  /-- A value is to be shown wider than any text can be. -/
  | tooWide
deriving DecidableEq, Repr

inductive Alignment where
  | left
  | right
  | center
  /-- The fill goes between the sign and the digits. -/
  | afterSign
deriving DecidableEq, Repr

/-- What is shown in front of numbers that are not negative. -/
inductive SignMode where
  | minus
  | plus
  | blank
deriving DecidableEq, Repr

structure Spec where
  fill : Option Char
  alignment : Option Alignment
  sign : Option SignMode
  noNegativeZero : Bool
  alternate : Bool
  zeros : Bool
  width : Option Nat
  separator : Option Char
  precision : Option Nat
  form : Option Char
deriving DecidableEq, Repr

namespace Spec

def alignment? : Char → Option Alignment
  | '<' => some .left
  | '>' => some .right
  | '^' => some .center
  | '=' => some .afterSign
  | _ => none

def sign? : Char → Option SignMode
  | '-' => some .minus
  | '+' => some .plus
  | ' ' => some .blank
  | _ => none

/-- The fill and the alignment at the start of a specification. -/
def readAlignment : Text → Option Char × Option Alignment × Text
  | fill :: mark :: rest =>
    match alignment? mark with
    | some alignment => (some fill, some alignment, rest)
    | none =>
      match alignment? fill with
      | some alignment => (none, some alignment, mark :: rest)
      | none => (none, none, fill :: mark :: rest)
  | [mark] =>
    match alignment? mark with
    | some alignment => (none, some alignment, [])
    | none => (none, none, [mark])
  | [] => (none, none, [])

/-- One optional character. -/
def readFlag (flag : Char) : Text → Bool × Text
  | c :: rest => if c = flag then (true, rest) else (false, c :: rest)
  | [] => (false, [])

/-- An optional number; a number that no text is that long for is refused. -/
def readNumber (text : Text) : Except Fault (Option Nat × Text) :=
  let digits := text.takeWhile Char.isDigit
  if digits.isEmpty then .ok (none, text)
  else
    let number := Text.ofDigits 10 digits
    if number < Nat.pow 2 63 then .ok (some number, text.drop digits.length) else .error .malformed

/-- An optional digit separator; two of them exclude each other. -/
def readSeparator : Text → Except Fault (Option Char × Text)
  | ',' :: '_' :: _ => .error .malformed
  | ',' :: ',' :: _ => .error .malformed
  | ',' :: rest => .ok (some ',', rest)
  | '_' :: '_' :: _ => .error .malformed
  | '_' :: ',' :: _ => .error .malformed
  | '_' :: rest => .ok (some '_', rest)
  | rest => .ok (none, rest)

/-- An optional precision, which a point announces. -/
def readPrecision : Text → Except Fault (Option Nat × Text)
  | '.' :: rest => do
    let (number, rest) ← readNumber rest
    if number.isNone then throw .malformed
    return (number, rest)
  | rest => .ok (none, rest)

/-- No text is this wide. -/
def widthLimit : Nat := Nat.pow 2 32

/-- The specification that a text writes. -/
def parse (text : Text) : Except Fault Spec := do
  let (fill, alignment, text) := readAlignment text
  let (sign, text) := match text with
    | c :: rest => if (sign? c).isSome then (sign? c, rest) else (none, text)
    | [] => (none, [])
  let (noNegativeZero, text) := readFlag 'z' text
  let (alternate, text) := readFlag '#' text
  let (zeros, text) := if fill.isSome then (false, text) else readFlag '0' text
  let (width, text) ← readNumber text
  let (separator, text) ← readSeparator text
  let (precision, text) ← readPrecision text
  if widthLimit ≤ width.getD 0 then throw .tooWide
  match text with
  | [] =>
    return ⟨fill, alignment, sign, noNegativeZero, alternate, zeros, width, separator, precision,
      none⟩
  | [form] =>
    return ⟨fill, alignment, sign, noNegativeZero, alternate, zeros, width, separator, precision,
      some form⟩
  | _ => throw .malformed

/-- A text widened to the width of the specification. -/
def widen (spec : Spec) (alignment : Alignment) (text : Text) : Text :=
  let missing := (spec.width.getD 0) - text.length
  let fill := spec.fill.getD (if spec.zeros then '0' else ' ')
  let before := match alignment with
    | .left => 0
    | .center => missing / 2
    | _ => missing
  List.replicate before fill ++ text ++ List.replicate (missing - before) fill

end Spec

end SchemaDoc.Template
