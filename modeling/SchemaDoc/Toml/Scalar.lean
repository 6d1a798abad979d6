import SchemaDoc.Value

/-!
Contract: the strings, numbers and moments of a settings document in TOML 1.0.

Each reader takes the text at a value's first character and gives the value with the text after
it. Escapes are those of the format; a line that ends in a backslash inside a multi-line string
is joined to the next word.
-/

namespace SchemaDoc.Toml

/-- Why a text is no document. -/
inductive Fault where
  /-- The text does not follow the grammar, or defines something twice. -/
  | malformed
  /-- A decimal integer has more digits than can be read. -/
  | tooLong
deriving DecidableEq, Repr

def isSpace (c : Char) : Bool := c = ' ' || c = '\t'

def isSpaceOrLineEnd (c : Char) : Bool := isSpace c || c = '\n'

def skipSpaces (text : Text) : Text := text.dropWhile isSpace

/-- A control character other than the tab: it stands nowhere within a line. -/
def isControl (c : Char) : Bool :=
  (c.toNat < 0x20 && c != '\t') || c.toNat = 0x7F

/-- A control character that may not stand in a multi-line string. -/
def isInnerControl (c : Char) : Bool := isControl c && c != '\n'

/-! ## Strings -/

/-- The string inside single quotes, from behind the first one. -/
def literalString (text : Text) : Except Fault (Text × Text) :=
  let inside := text.takeWhile (· != '\'')
  match text.drop inside.length with
  | _ :: rest => if inside.any isControl then .error .malformed else .ok (inside, rest)
  | [] => .error .malformed

/-- The text before the first three quotes in a row, and the text after them. -/
def splitAtTriple (quote : Char) : Text → Option (Text × Text)
  | [] => none
  | c :: rest =>
    if c = quote && [quote, quote].isPrefixOf rest then some ([], rest.drop 2)
    else (splitAtTriple quote rest).map fun (before, after) => (c :: before, after)

/-- Up to two quotes that directly follow the closing three belong to the string. -/
def trailingQuotes (quote : Char) (content text : Text) : Text × Text :=
  let extra := (text.take 2).takeWhile (· = quote)
  (content ++ extra, text.drop extra.length)

/-- A line end directly after the opening quotes is no part of a multi-line string. -/
def skipLineEnd : Text → Text
  | '\n' :: rest => rest
  | text => text

/-- The string inside three single quotes, from behind them. -/
def literalBlock (text : Text) : Except Fault (Text × Text) :=
  match splitAtTriple '\'' (skipLineEnd text) with
  | some (inside, rest) =>
    if inside.any isInnerControl then .error .malformed
    else .ok (trailingQuotes '\'' inside rest)
  | none => .error .malformed

/-- The character of a given number of hexadecimal digits. -/
def codeEscape (width : Nat) (text : Text) : Except Fault (Char × Text) :=
  let digits := text.take width
  let code := Text.ofDigits 16 digits
  if digits.length = width && digits.all (Text.isDigitOf 16) &&
      (code < 0xD800 || (0xE000 ≤ code && code < 0x110000)) then
    .ok (Char.ofNat code, text.drop width)
  else .error .malformed

/-- The character of an escape, from behind the backslash. -/
def escape : Text → Except Fault (Char × Text)
  | 'b' :: rest => .ok ('\x08', rest)
  | 't' :: rest => .ok ('\t', rest)
  | 'n' :: rest => .ok ('\n', rest)
  | 'f' :: rest => .ok ('\x0c', rest)
  | 'r' :: rest => .ok ('\r', rest)
  | '"' :: rest => .ok ('"', rest)
  | '\\' :: rest => .ok ('\\', rest)
  | 'u' :: rest => codeEscape 4 rest
  | 'U' :: rest => codeEscape 8 rest
  | _ => .error .malformed

/-- A backslash at the end of a line, from behind the backslash: the text after the white space
that it joins, if there is such an end. At the end of the document no line end is needed. -/
def joinedLine? : Text → Option (Except Fault Text)
  | '\n' :: rest => some (.ok (rest.dropWhile isSpaceOrLineEnd))
  | c :: rest =>
    if isSpace c then
      match skipSpaces rest with
      | [] => some (.ok [])
      | '\n' :: after => some (.ok (after.dropWhile isSpaceOrLineEnd))
      | _ => some (.error .malformed)
    else none
  | [] => none

/-- The string inside double quotes, from behind the first one. -/
def basicString : (fuel : Nat) → Text → Except Fault (Text × Text)
  | _, [] => .error .malformed
  | 0, _ => .error .malformed
  | _ + 1, '"' :: rest => .ok ([], rest)
  | fuel + 1, '\\' :: rest => do
    let (c, after) ← escape rest
    let (inside, after) ← basicString fuel after
    return (c :: inside, after)
  | fuel + 1, c :: rest =>
    if isControl c then .error .malformed
    else do
      let (inside, after) ← basicString fuel rest
      return (c :: inside, after)

/-- The string inside three double quotes, up to its closing quotes. -/
def basicLines : (fuel : Nat) → Text → Except Fault (Text × Text)
  | _, [] => .error .malformed
  | 0, _ => .error .malformed
  | _ + 1, '"' :: '"' :: '"' :: rest => .ok ([], rest)
  | fuel + 1, '\\' :: rest =>
    match joinedLine? rest with
    | some (.ok after) => basicLines fuel after
    | some (.error fault) => .error fault
    | none => do
      let (c, after) ← escape rest
      let (inside, after) ← basicLines fuel after
      return (c :: inside, after)
  | fuel + 1, c :: rest =>
    if isInnerControl c then .error .malformed
    else do
      let (inside, after) ← basicLines fuel rest
      return (c :: inside, after)

/-- The string inside three double quotes, from behind them. -/
def basicBlock (text : Text) : Except Fault (Text × Text) := do
  let (inside, rest) ← basicLines (text.length + 1) (skipLineEnd text)
  return trailingQuotes '"' inside rest

/-- A string on one line, from its first quote on. -/
def lineString : Text → Except Fault (Text × Text)
  | '\'' :: rest => literalString rest
  | '"' :: rest => basicString (rest.length + 1) rest
  | _ => .error .malformed

/-- A string value, from its first quote on. -/
def string : Text → Except Fault (Text × Text)
  | '\'' :: '\'' :: '\'' :: rest => literalBlock rest
  | '"' :: '"' :: '"' :: rest => basicBlock rest
  | text => lineString text

/-! ## Moments -/

/-- A number of a fixed count of digits, within bounds. -/
def numeral (width least most : Nat) (text : Text) : Option (Nat × Text) :=
  let digits := text.take width
  let value := Text.ofDigits 10 digits
  if digits.length = width && digits.all Char.isDigit && least ≤ value && value ≤ most then
    some (value, text.drop width)
  else none

/-- The text behind a given character. -/
def behind (mark : Char) : Text → Option Text
  | c :: rest => if c = mark then some rest else none
  | [] => none

/-- The fraction of a second in millionths; further digits are dropped. -/
def fraction (text : Text) : Nat × Text :=
  match text with
  | '.' :: rest =>
    let digits := rest.takeWhile Char.isDigit
    if digits.isEmpty then (0, text)
    else
      let kept := digits.take 6
      (Text.ofDigits 10 (kept ++ List.replicate (6 - kept.length) '0'), rest.drop digits.length)
  | _ => (0, text)

/-- A time of day. -/
def clock (text : Text) : Option (Clock × Text) := do
  let (hour, text) ← numeral 2 0 23 text
  let (minute, text) ← numeral 2 0 59 (← behind ':' text)
  let (second, text) ← numeral 2 0 59 (← behind ':' text)
  let (microsecond, text) := fraction text
  return (⟨hour, minute, second, microsecond⟩, text)

/-- The distance from universal time, if one follows. -/
def offset (text : Text) : Option Int × Text :=
  let signed (sign : Int) (rest : Text) : Option (Int × Text) := do
    let (hour, rest) ← numeral 2 0 23 rest
    let (minute, rest) ← numeral 2 0 59 (← behind ':' rest)
    return (sign * Int.ofNat (hour * 60 + minute), rest)
  let given := match text with
    | 'Z' :: rest => some (0, rest)
    | 'z' :: rest => some (0, rest)
    | '+' :: rest => signed 1 rest
    | '-' :: rest => signed (-1) rest
    | _ => none
  match given with
  | some (minutes, rest) => (some minutes, rest)
  | none => (none, text)

/-- A date as it is written; it need not exist. -/
def writtenDate (text : Text) : Option (Date × Text) := do
  let (year, text) ← numeral 4 0 9999 text
  let (month, text) ← numeral 2 1 12 (← behind '-' text)
  let (day, text) ← numeral 2 1 31 (← behind '-' text)
  return (⟨year, month, day⟩, text)

/-- The time of day that follows a date. -/
def clockAfterDate : Text → Option (Clock × Text)
  | c :: rest => if c = 'T' || c = 't' || c = ' ' then clock rest else none
  | [] => none

/-- A moment, if one is written at the start of the text. -/
def moment? (text : Text) : Option (Except Fault (Moment × Text)) :=
  match writtenDate text with
  | some (date, rest) =>
    if !date.isValid then some (.error .malformed)
    else
      match clockAfterDate rest with
      | some (clock, rest) =>
        let (offset, rest) := offset rest
        some (.ok (.stamp date clock offset, rest))
      | none => some (.ok (.date date, rest))
  | none => (clock text).map fun (clock, rest) => .ok (.time clock, rest)

/-! ## Numbers -/

/-- Digits with single low lines between them; none when there is no digit first. -/
def digitRun (isDigit : Char → Bool) : Text → Text × Text
  | c :: '_' :: next :: rest =>
    if isDigit c then
      if isDigit next then
        let (digits, left) := digitRun isDigit (next :: rest)
        (c :: digits, left)
      else ([c], '_' :: next :: rest)
    else ([], c :: '_' :: next :: rest)
  | c :: rest =>
    if isDigit c then
      let (digits, left) := digitRun isDigit rest
      (c :: digits, left)
    else ([], c :: rest)
  | [] => ([], [])

/-- An integer in a base behind its mark, if digits follow the mark. -/
def based? (base : Nat) (text : Text) : Option (Value × Text) :=
  let (digits, rest) := digitRun (Text.isDigitOf base) text
  if digits.isEmpty then none else some (.int (Text.ofDigits base digits), rest)

/-- The sign of a number. -/
def sign : Text → Bool × Text
  | '-' :: rest => (true, rest)
  | '+' :: rest => (false, rest)
  | text => (false, text)

/-- The digits behind the point, if any follow it. -/
def fractionDigits (text : Text) : Option (Text × Text) :=
  match text with
  | '.' :: rest =>
    let (digits, after) := digitRun Char.isDigit rest
    if digits.isEmpty then none else some (digits, after)
  | _ => none

/-- The power of ten behind an exponent mark, if digits follow it. -/
def exponent (text : Text) : Option (Int × Text) :=
  match text with
  | c :: rest =>
    if c = 'e' || c = 'E' then
      let (negative, rest) := sign rest
      let (digits, after) := digitRun Char.isDigit rest
      let size := Int.ofNat (Text.ofDigits 10 digits)
      if digits.isEmpty then none else some (if negative then -size else size, after)
    else none
  | [] => none

/-- The integer part of a decimal number: a zero, or digits that do not start with one. -/
def wholeDigits (text : Text) : Option (Text × Text) :=
  match text with
  | '0' :: rest => some (['0'], rest)
  | _ =>
    let (digits, rest) := digitRun Char.isDigit text
    if digits.isEmpty then none else some (digits, rest)

/-- A decimal number: an integer, or a real number when a fraction or an exponent follows. -/
def decimal? (text : Text) : Option (Except Fault (Value × Text)) := do
  let (negative, unsigned) := sign text
  let (whole, rest) ← wholeDigits unsigned
  let (places, afterFraction) := (fractionDigits rest).getD ([], rest)
  let (power, afterExponent) := (exponent afterFraction).getD (0, afterFraction)
  if afterExponent.length = rest.length then
    let size := Int.ofNat (Text.ofDigits 10 whole)
    if whole.length > 4300 then return .error .tooLong
    return .ok (.int (if negative then -size else size), rest)
  let digits := Text.ofDigits 10 (whole ++ places)
  return .ok (.real (Double.ofDecimal negative digits (power - Int.ofNat places.length)),
    afterExponent)

/-- The numbers that are no quotients. -/
def special? (text : Text) : Option (Value × Text) :=
  let (negative, unsigned) := sign text
  match unsigned with
  | 'i' :: 'n' :: 'f' :: rest => some (.real (.infinite negative), rest)
  | 'n' :: 'a' :: 'n' :: rest => some (.real .undefined, rest)
  | _ => none

/-- A number. -/
def number (text : Text) : Except Fault (Value × Text) :=
  let inBase := match text with
    | '0' :: 'x' :: rest => based? 16 rest
    | '0' :: 'b' :: rest => based? 2 rest
    | '0' :: 'o' :: rest => based? 8 rest
    | _ => none
  match inBase, decimal? text, special? text with
  | some read, _, _ => .ok read
  | none, some read, _ => read
  | none, none, some read => .ok read
  | none, none, none => .error .malformed

end SchemaDoc.Toml
