import SchemaDoc.Source.Token
import SchemaDoc.Text.CodeRanges
import SchemaDoc.Text.Basic

/-!
Contract: the values of string literals.

Owns:
- the escapes of text and byte strings, which give code points (a surrogate is one too);
- the pieces of a formatted string: literal parts, and fields with the source text of their
  expression, which is not read here.

An escape that is not known stays as it is written. A named character is looked up in the given
table of names.
-/

namespace SchemaDoc.Source.StringLiteral

/-- The code point of a single-letter escape. -/
def simpleEscape? : Char → Option Nat
  | '\\' => some 0x5C
  | '\'' => some 0x27
  | '"' => some 0x22
  | 'a' => some 7
  | 'b' => some 8
  | 't' => some 9
  | 'n' => some 10
  | 'v' => some 11
  | 'f' => some 12
  | 'r' => some 13
  | _ => none

/-- The number that exactly `count` hexadecimal digits write, and the text after them. -/
def hexDigits? (count : Nat) (text : Text) : Option (Nat × Text) :=
  let digits := text.take count
  if digits.length = count && digits.all (Text.isDigitOf 16) then
    some (Text.ofDigits 16 digits, text.drop count)
  else none

/-- The number of hexadecimal digits that an escape letter asks for. -/
def hexWidth? : Char → Option Nat
  | 'x' => some 2
  | 'u' => some 4
  | 'U' => some 8
  | _ => none

/-- One escape, read from behind its backslash: its code points and the text after it. -/
def escape (nameOf : Text → Option Nat) (text : Text) : Option (List Nat × Text) :=
  match text with
  | [] => some ([0x5C], [])
  | '\n' :: rest => some ([], rest)
  | 'N' :: '\x7b' :: rest => do
    let name := rest.takeWhile (· != '\x7d')
    let code ← nameOf name
    match rest.drop name.length with
    | _ :: after => some ([code], after)
    | [] => none
  | 'N' :: _ => none
  | c :: rest =>
    match simpleEscape? c, hexWidth? c with
    | some code, _ => some ([code], rest)
    | none, some width => do
      let (code, after) ← hexDigits? width rest
      if code > 0x10FFFF then none else some ([code], after)
    | none, none =>
      if Text.isDigitOf 8 c then
        let digits := (text.take 3).takeWhile (Text.isDigitOf 8)
        some ([Text.ofDigits 8 digits], text.drop digits.length)
      else some ([0x5C, c.toNat], rest)

/-- One escape of a byte string, which knows neither names nor wide code points. -/
def byteEscape (text : Text) : Option (List Nat × Text) :=
  match text with
  | 'N' :: rest => some ([0x5C, 0x4E], rest)
  | 'u' :: rest => some ([0x5C, 0x75], rest)
  | 'U' :: rest => some ([0x5C, 0x55], rest)
  | other =>
    (escape (fun _ => none) other).map fun (codes, rest) => (codes.map (· % 256), rest)

/-- The code points of a text with escapes; `fuel` bounds the number of characters. -/
def decode (escapeAt : Text → Option (List Nat × Text)) :
    (fuel : Nat) → Text → Option (List Nat)
  | 0, _ => none
  | _, [] => some []
  | fuel + 1, '\\' :: rest => do
    let (codes, after) ← escapeAt rest
    let others ← decode escapeAt fuel after
    return codes ++ others
  | fuel + 1, c :: rest => (decode escapeAt fuel rest).map (c.toNat :: ·)

/-- The code points of a literal part. -/
def textCodes (nameOf : Text → Option Nat) (isRaw : Bool) (body : Text) : Option (List Nat) :=
  if isRaw then some (body.map Char.toNat)
  else decode (escape nameOf) (body.length + 1) body

/-- The bytes of a byte string, which is written in ASCII alone. -/
def byteCodes (isRaw : Bool) (body : Text) : Option (List Nat) :=
  if body.any (·.toNat ≥ 128) then none
  else if isRaw then some (body.map Char.toNat)
  else decode byteEscape (body.length + 1) body

/-! ## Formatted strings -/

/-- A piece of a formatted string. A field holds the source of its expression, the text that
shows it when it is to be shown, the conversion, and the pieces of its format. -/
inductive RawPiece where
  | literal (codes : List Nat)
  | field (source : Text) (shown : Option Text) (conversion : Option Char)
      (format : Option (List RawPiece))

/-- Where the reading of a literal part stands. -/
inductive LiteralState where
  | plain
  /-- Behind a backslash. -/
  | escaped
  /-- Behind the escape of a named character. -/
  | beforeName
  /-- Inside the braces of a named character. -/
  | inName

/-- A literal part up to a brace. At the outermost level a doubled brace stands for one and ends
the part, which then goes on (`true`); a single closing brace is a fault. -/
def literalRun (isRaw isOuter : Bool) : LiteralState → Text → Option (Text × Bool × Text)
  | .plain, [] => some ([], false, [])
  | _, [] => none
  | state, c :: rest =>
    let taken (next : LiteralState) : Option (Text × Bool × Text) :=
      (literalRun isRaw isOuter next rest).map fun (part, more, left) => (c :: part, more, left)
    match state with
    | .beforeName => if c = '\x7b' then taken .inName else none
    | .inName => taken (if c = '\x7d' then .plain else .inName)
    | _ =>
      if c = '\x7b' || c = '\x7d' then
        if isOuter && rest.head? = some c then some ([c], true, rest.drop 1)
        else if isOuter && c = '\x7d' then none
        else some ([], false, c :: rest)
      else
        match state with
        | .escaped => taken (if c = 'N' then .beforeName else .plain)
        | _ => taken (if c = '\\' && !isRaw && !rest.isEmpty then .escaped else .plain)

/-- A quote that is open inside a field's expression. -/
structure OpenQuote where
  quote : Char
  triple : Bool

/-- The source of a field's expression, up to the `!`, `:`, `=` or closing brace that ends it.
Backslashes and comments are faults anywhere in it. The next `sure` characters belong to a mark
of several characters and are taken as they are; `opened` are the open brackets. -/
def fieldSource (sure : Nat) (quote : Option OpenQuote) (opened : List Char) :
    Text → Option (Text × Text)
  | [] => none
  | c :: rest =>
    let taken (sure : Nat) (quote : Option OpenQuote) (opened : List Char) :
        Option (Text × Text) :=
      (fieldSource sure quote opened rest).map fun (source, after) => (c :: source, after)
    let tripled := rest.take 2 = [c, c]
    if sure > 0 then taken (sure - 1) quote opened
    else if c = '\\' then none
    else
      match quote with
      | some mark =>
        if c != mark.quote then taken 0 quote opened
        else if !mark.triple then taken 0 none opened
        else if tripled then taken 2 none opened
        else taken 0 quote opened
      | none =>
        if c = '\'' || c = '"' then
          if tripled then taken 2 (some ⟨c, true⟩) opened else taken 0 (some ⟨c, false⟩) opened
        else if c = '(' || c = '[' || c = '\x7b' then
          if opened.length ≥ 200 then none else taken 0 none (c :: opened)
        else if c = '#' then none
        else if opened.isEmpty && "!:\x7d=<>".toList.contains c then
          if rest.head? = some '=' && "!=<>".toList.contains c then taken 1 none opened
          else if c = '<' || c = '>' then taken 0 none opened
          else some ([], c :: rest)
        else if c = ')' || c = ']' || c = '\x7d' then
          match opened with
          | last :: outer =>
            let closes := (last = '(' && c = ')') || (last = '[' && c = ']') ||
              (last = '\x7b' && c = '\x7d')
            if closes then taken 0 none outer else none
          | [] => none
        else taken 0 none opened

/-- The pieces of a formatted string from nesting depth `depth` on; the text left over is empty
or starts with the brace that closes the field around. Fields may nest once. -/
def pieces (nameOf : Text → Option Nat) (isRaw : Bool) :
    (fuel depth : Nat) → Text → Option (List RawPiece × Text)
  | 0, _, _ => none
  | fuel + 1, depth, text => do
    let (part, more, rest) ← literalRun isRaw (depth == 0) .plain text
    let codes ← textCodes nameOf isRaw part
    let lead := if part.isEmpty then [] else [RawPiece.literal codes]
    if more then
      let (others, left) ← pieces nameOf isRaw fuel depth rest
      return (lead ++ others, left)
    match rest with
    | '\x7b' :: body =>
      if depth ≥ 2 then none
      let (source, after) ← fieldSource 0 none [] body
      if source.all (fun c => c = ' ' || c = '\t' || c = '\n' || c = '\x0c') then none
      let (shown, after) := match after with
        | '=' :: rest =>
          let gap := rest.takeWhile fun c => c = ' ' || ('\t' ≤ c && c ≤ '\r')
          (some (source ++ '=' :: gap), rest.drop gap.length)
        | rest => (none, rest)
      let (conversion, after) ← (match after with
        | '!' :: c :: rest =>
          if c = 's' || c = 'r' || c = 'a' then some (some c, rest) else none
        | '!' :: _ => none
        | rest => some (none, rest) : Option (Option Char × Text))
      let (format, after) ← (match after with
        | ':' :: rest => do
          let (found, left) ← pieces nameOf isRaw fuel (depth + 1) rest
          return (some found, left)
        | rest => some (none, rest) : Option (Option (List RawPiece) × Text))
      match after with
      | '\x7d' :: rest =>
        let (others, left) ← pieces nameOf isRaw fuel depth rest
        return (lead ++ .field source shown conversion format :: others, left)
      | _ => none
    | _ => return (lead, rest)

end SchemaDoc.Source.StringLiteral
