import SchemaDoc.Text.CodeRanges
import SchemaDoc.Text.Basic

/-!
Contract: the extent of a numeric literal.

A literal is a decimal, hexadecimal, octal or binary integer, a decimal with a point or an
exponent, or an imaginary number; single low lines may stand between digits. What follows a
literal must not read on as a name, unless it is one of the words that may follow a value.
-/

namespace SchemaDoc.Source.Number

/-- The character can stand inside a name. -/
def isNamePart (c : Char) : Bool :=
  c.isAlphanum || c = '_' || c.toNat ≥ 128

/-- A word stands at the start of the text and does not read on as a name. -/
def opensWord (word : String) (text : Text) : Bool :=
  match Text.after? word.toList text with
  | some (c :: _) => !isNamePart c
  | some [] => true
  | none => false

/-- The text after a literal is no part of a name, or one of the words that may follow. -/
def endsLiteral (text : Text) : Bool :=
  match text with
  | [] => true
  | 'i' :: c :: _ => c = 'f' || c = 'n' || c = 's'
  | c :: _ =>
    !isNamePart c || opensWord "and" text || opensWord "else" text || opensWord "for" text ||
      opensWord "or" text || opensWord "not" text

/-- Digits with single low lines between them. When a digit is `required` next, its absence is a
fault. -/
def digits (isDigit : Char → Bool) (required : Bool) : Text → Option (Text × Text)
  | [] => if required then none else some ([], [])
  | c :: rest =>
    if isDigit c then
      (digits isDigit false rest).map fun (taken, after) => (c :: taken, after)
    else if required then none
    else if c = '_' then
      (digits isDigit true rest).map fun (taken, after) => (c :: taken, after)
    else some ([], c :: rest)

/-- The digits of a base that end a literal. -/
def basedDigits (base : Nat) (taken text : Text) : Option (Text × Text) := do
  let (found, after) ← digits (Text.isDigitOf base) true text
  let stray := match after with
    | c :: _ => c.isDigit
    | [] => false
  if stray || !endsLiteral after then none else some (taken ++ found, after)

/-- Digits of a base behind its mark; a low line may come first. -/
def based (base : Nat) (mark text : Text) : Option (Text × Text) :=
  match text with
  | '_' :: rest => basedDigits base (mark ++ ['_']) rest
  | _ => basedDigits base mark text

/-- The end of a literal whose value is complete but for an imaginary mark. -/
def imaginaryTail (taken text : Text) : Option (Text × Text) :=
  match text with
  | c :: rest =>
    if c = 'j' || c = 'J' then
      if endsLiteral rest then some (taken ++ [c], rest) else none
    else if endsLiteral text then some (taken, text) else none
  | [] => some (taken, [])

/-- The end of a literal from its exponent on. An exponent mark without digits is no part of the
literal, and may open a word that may follow it. -/
def exponentTail (taken text : Text) : Option (Text × Text) :=
  match text with
  | mark :: rest =>
    if mark = 'e' || mark = 'E' then
      match rest with
      | c :: after =>
        if c = '+' || c = '-' then do
          let (power, after) ← digits Char.isDigit true after
          imaginaryTail (taken ++ mark :: c :: power) after
        else if c.isDigit then do
          let (power, after) ← digits Char.isDigit true rest
          imaginaryTail (taken ++ mark :: power) after
        else if endsLiteral text then some (taken, text) else none
      | [] => none
    else imaginaryTail taken text
  | [] => imaginaryTail taken []

/-- The end of a literal from behind its decimal point on. -/
def fractionTail (taken text : Text) : Option (Text × Text) :=
  match text with
  | c :: _ =>
    if c.isDigit then do
      let (fraction, after) ← digits Char.isDigit true text
      exponentTail (taken ++ fraction) after
    else exponentTail taken text
  | [] => some (taken, [])

/-- The end of a literal from behind its leading digits on. A decimal integer that starts with a
zero consists of zeros. -/
def wholeTail (whole text : Text) : Option (Text × Text) :=
  let padded := whole.head? == some '0' && whole.any fun c => c.isDigit && c != '0'
  match text with
  | '.' :: rest => fractionTail (whole ++ ['.']) rest
  | c :: _ =>
    if c = 'e' || c = 'E' then exponentTail whole text
    else if c = 'j' || c = 'J' then imaginaryTail whole text
    else if padded then none
    else imaginaryTail whole text
  | [] => if padded then none else some (whole, [])

/-- The literal that starts with the text's first digit. -/
def decimal (text : Text) : Option (Text × Text) := do
  let (whole, after) ← digits Char.isDigit true text
  wholeTail whole after

/-- A decimal integer is too long to be read. -/
def tooLong (literal : Text) : Bool :=
  literal.all (fun c => c.isDigit || c = '_') && (literal.filter Char.isDigit).length > 4300

/-- The numeric literal of any length at the start of a text. -/
def unbounded (text : Text) : Option (Text × Text) :=
  match text with
  | '.' :: rest => fractionTail ['.'] rest
  | '0' :: c :: rest =>
    if c = 'x' || c = 'X' then based 16 ['0', c] rest
    else if c = 'o' || c = 'O' then based 8 ['0', c] rest
    else if c = 'b' || c = 'B' then based 2 ['0', c] rest
    else decimal text
  | _ => decimal text

/-- The numeric literal at the start of a text that opens with a digit, or with a point and a
digit, and the text after it. -/
def scan (text : Text) : Option (Text × Text) := do
  let (literal, after) ← unbounded text
  if tooLong literal then none else some (literal, after)

end SchemaDoc.Source.Number
