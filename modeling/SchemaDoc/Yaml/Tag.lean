import SchemaDoc.Value
import SchemaDoc.Yaml.Cursor

/-!
Contract: what a plain scalar of YAML 1.1 is, and the values that tagged texts write.

Owns:
- the forms of truth values, numbers, moments and null by which a text without tag is recognised,
  tried in the order bool, float, int, merge, null, timestamp, value;
- the values of texts under the tags of scalars; a text under an explicit tag need not have the
  form by which the tag is recognised.
-/

namespace SchemaDoc.Yaml

inductive ScalarTag where
  | null
  | bool
  | int
  | float
  | timestamp
  | str
  | merge
  | value
deriving DecidableEq, Repr

namespace Form

def isDigitOrLine (c : Char) : Bool := c.isDigit || c = '_'

def unsigned : Text → Text
  | '+' :: rest => rest
  | '-' :: rest => rest
  | text => text

/-- The text is a digit followed by digits and low lines. -/
def isDigits (text : Text) : Bool :=
  text.head?.any Char.isDigit && text.all isDigitOrLine

/-- The text is a whole number of the base sixty below sixty. -/
def isSixtieth : Text → Bool
  | [a] => a.isDigit
  | [a, b] => '0' ≤ a && a ≤ '5' && b.isDigit
  | _ => false

def isInt (text : Text) : Bool :=
  let body := unsigned text
  let hasDigits (allowed : Char → Bool) (digits : Text) : Bool :=
    !digits.isEmpty && digits.all fun c => allowed c || c = '_'
  let based := match body with
    | '0' :: 'b' :: digits => hasDigits (Text.isDigitOf 2) digits
    | '0' :: 'x' :: digits => hasDigits (Text.isDigitOf 16) digits
    | '0' :: digits => hasDigits (Text.isDigitOf 8) digits || digits.isEmpty
    | _ => false
  let isWhole (digits : Text) : Bool := isDigits digits && digits.head? != some '0'
  let sexagesimal := match Text.splitOnChar ':' body with
    | first :: second :: others => isWhole first && (second :: others).all isSixtieth
    | _ => false
  based || isWhole body || sexagesimal

/-- Digits and low lines with an exponent behind them, which must have a sign. -/
def endsFloat (text : Text) : Bool :=
  match text.dropWhile isDigitOrLine with
  | [] => true
  | mark :: rest =>
    (mark = 'e' || mark = 'E') &&
      match rest with
      | sign :: digits =>
        (sign = '+' || sign = '-') && !digits.isEmpty && digits.all Char.isDigit
      | [] => false

def isFloat (text : Text) : Bool :=
  let body := unsigned text
  let (whole, tail) := (body.takeWhile isDigitOrLine, body.dropWhile isDigitOrLine)
  let positional := isDigits whole && match tail with
    | '.' :: rest => endsFloat rest
    | _ => false
  let fractional := match text with
    | '.' :: rest => rest.head?.any Char.isDigit && endsFloat rest
    | _ => false
  let sexagesimal := match Text.splitOnChar ':' body with
    | first :: second :: others =>
      let last := ((second :: others).getLast?).getD []
      let (sixtieth, fraction) := (last.takeWhile (· != '.'), last.dropWhile (· != '.'))
      isDigits first && ((second :: others).dropLast ++ [sixtieth]).all isSixtieth &&
        fraction.head? = some '.' && (fraction.drop 1).all isDigitOrLine
    | _ => false
  let infinite := [".inf".toList, ".Inf".toList, ".INF".toList].contains body
  let undefined := [".nan".toList, ".NaN".toList, ".NAN".toList].contains text
  positional || fractional || sexagesimal || infinite || undefined

/-- One digit or two. -/
def oneOrTwoDigits (text : Text) : Option (Nat × Text) :=
  let digits := (text.take 2).takeWhile Char.isDigit
  if digits.isEmpty then none else some (Text.ofDigits 10 digits, text.drop digits.length)

/-- Exactly so many digits. -/
def exactDigits (count : Nat) (text : Text) : Option (Nat × Text) :=
  let digits := text.take count
  if digits.length = count && digits.all Char.isDigit then
    some (Text.ofDigits 10 digits, text.drop count)
  else none

def behind (mark : Char) : Text → Option Text
  | c :: rest => if c = mark then some rest else none
  | [] => none

/-- The mark of universal time, or a distance from it in minutes, up to the end. -/
def zone (text : Text) : Option (Option Int) :=
  match text.dropWhile isSpace with
  | [] => if text.isEmpty then some none else none
  | ['Z'] => some (some 0)
  | sign :: rest => do
    let factor : Int ← if sign = '+' then some 1 else if sign = '-' then some (-1) else none
    let (hours, rest) ← oneOrTwoDigits rest
    let minutes ← match rest with
      | [] => some 0
      | _ => do
        let (minutes, rest) ← exactDigits 2 (← behind ':' rest)
        if rest.isEmpty then some minutes else none
    return some (factor * Int.ofNat (hours * 60 + minutes))

/-- A moment as it is written; it need not exist. A date alone may be short when its form was
not what made it a moment. -/
def moment? (text : Text) : Option Moment := do
  let (year, rest) ← exactDigits 4 text
  let (month, rest) ← oneOrTwoDigits (← behind '-' rest)
  let (day, rest) ← oneOrTwoDigits (← behind '-' rest)
  let date : Date := ⟨year, month, day⟩
  match rest with
  | [] => return .date date
  | mark :: tail =>
    let tail ←
      if mark = 'T' || mark = 't' then some tail
      else if isSpace mark then some (tail.dropWhile isSpace)
      else none
    let (hour, tail) ← oneOrTwoDigits tail
    let (minute, tail) ← exactDigits 2 (← behind ':' tail)
    let (second, tail) ← exactDigits 2 (← behind ':' tail)
    let (digits, tail) := match tail with
      | '.' :: more => (more.takeWhile Char.isDigit, more.dropWhile Char.isDigit)
      | more => ([], more)
    let kept := digits.take 6
    let microsecond := Text.ofDigits 10 (kept ++ List.replicate (6 - kept.length) '0')
    return .stamp date ⟨hour, minute, second, microsecond⟩ (← zone tail)

/-- A text without tag is a moment: a date alone has all its digits. -/
def isMoment (text : Text) : Bool :=
  match moment? text with
  | some (.date _) => text.length = 10
  | some _ => true
  | none => false

def isBool (text : Text) : Bool :=
  ["yes", "Yes", "YES", "no", "No", "NO", "true", "True", "TRUE", "false", "False", "FALSE",
   "on", "On", "ON", "off", "Off", "OFF"].any (·.toList = text)

def isNull (text : Text) : Bool :=
  text.isEmpty || ["~", "null", "Null", "NULL"].any (·.toList = text)

end Form

/-- The tag of a text that decides its tag itself. -/
def ScalarTag.ofText (text : Text) : ScalarTag :=
  if Form.isBool text then .bool
  else if Form.isFloat text then .float
  else if Form.isInt text then .int
  else if text = ['<', '<'] then .merge
  else if Form.isNull text then .null
  else if Form.isMoment text then .timestamp
  else if text = ['='] then .value
  else .str

/-! ## Values of tagged texts -/

/-- An integer from its digits; white space around them is dropped. -/
def wholeOf (base : Nat) (text : Text) : Except Fault Int :=
  let word := Text.trim text
  let digits := Form.unsigned word
  if digits.isEmpty || !digits.all (Text.isDigitOf base) || (base = 10 && digits.length > 4300) then
    .error .outOfRange
  else
    let size := Int.ofNat (Text.ofDigits base digits)
    .ok (if word.head? = some '-' then -size else size)

/-- Numbers of the base sixty, from the highest place down. -/
def sexagesimal (parts : List Int) : Int :=
  parts.foldl (fun total part => total * 60 + part) 0

/-- The integer that a text writes. -/
def intOf (text : Text) : Except Fault Int := do
  let text := text.filter (· != '_')
  if text.isEmpty then throw .emptyNumber
  let negative := text.head? = some '-'
  let body := Form.unsigned text
  let size : Int ← match body with
    | [] => throw .emptyNumber
    | ['0'] => pure 0
    | '0' :: 'b' :: digits => wholeOf 2 digits
    | '0' :: 'x' :: digits => wholeOf 16 digits
    | '0' :: _ => wholeOf 8 body
    | _ =>
      if body.contains ':' then do
        let parts ← (Text.splitOnChar ':' body).mapM (wholeOf 10)
        pure (sexagesimal parts)
      else wholeOf 10 body
  return if negative then -size else size

/-- The digits of a decimal without exponent, and how many stand behind the point. -/
def decimalDigits (text : Text) : Option (Text × Nat) :=
  let whole := text.takeWhile Char.isDigit
  match text.drop whole.length with
  | [] => if whole.isEmpty then none else some (whole, 0)
  | '.' :: places =>
    if places.all Char.isDigit && !(whole ++ places).isEmpty then
      some (whole ++ places, places.length)
    else none
  | _ => none

/-- The power of ten behind an exponent mark. -/
def powerOf : Text → Option Int
  | [] => some 0
  | _ :: rest =>
    let digits := Form.unsigned rest
    let size := Int.ofNat (Text.ofDigits 10 digits)
    if digits.isEmpty || !digits.all Char.isDigit then none
    else some (if rest.head? = some '-' then -size else size)

/-- The number that a lowercase decimal writes. -/
def decimalOf (text : Text) : Except Fault Double :=
  let word := Text.trim text
  let negative := word.head? = some '-'
  let body := Form.unsigned word
  if body = "inf".toList || body = "infinity".toList then .ok (.infinite negative)
  else if body = "nan".toList then .ok .undefined
  else
    let mantissa := body.takeWhile (· != 'e')
    match decimalDigits mantissa, powerOf (body.drop mantissa.length) with
    | some (digits, places), some power =>
      .ok (Double.ofDecimal negative (Text.ofDigits 10 digits) (power - Int.ofNat places))
    | _, _ => .error .outOfRange

/-- The number with its sign changed. -/
def negate : Double → Double
  | .finite negative mantissa exponent => .finite (!negative) mantissa exponent
  | .infinite negative => .infinite (!negative)
  | .undefined => .undefined

/-- The real number that a text writes. -/
def realOf (text : Text) : Except Fault Double := do
  let text := (text.filter (· != '_')).map Char.toLower
  if text.isEmpty then throw .emptyNumber
  let body := Form.unsigned text
  let size ←
    if body = ".inf".toList then pure (.infinite false)
    else if body = ".nan".toList then pure .undefined
    else if body.contains ':' then do
      let parts ← (Text.splitOnChar ':' body).mapM decimalOf
      pure (Double.sexagesimal parts)
    else decimalOf body
  return if text.head? = some '-' then negate size else size

/-- The moment that a text writes; it must exist. -/
def momentOf (text : Text) : Except Fault Moment :=
  match Form.moment? text with
  | none => .error .noMoment
  | some (.stamp date clock offset) =>
    if date.isValid && clock.isValid && offset.all (·.natAbs < 1440) then
      .ok (.stamp date clock offset)
    else .error .outOfRange
  | some (.date date) => if date.isValid then .ok (.date date) else .error .outOfRange
  | some other => .ok other

def truthOf (text : Text) : Except Fault Bool :=
  let word := text.map Char.toLower
  if ["yes", "true", "on"].any (·.toList = word) then .ok true
  else if ["no", "false", "off"].any (·.toList = word) then .ok false
  else .error .unknownTruth

/-- The value of a text under a tag; the tags of merging and of a default value have none. -/
def ScalarTag.valueOf (tag : ScalarTag) (text : Text) : Except Fault Value :=
  match tag with
  | .null => .ok .null
  | .bool => (truthOf text).map Value.bool
  | .int => (intOf text).map Value.int
  | .float => (realOf text).map Value.real
  | .timestamp => (momentOf text).map Value.moment
  | .str => .ok (.str text)
  | .merge => .error .malformed
  | .value => .error .malformed

end SchemaDoc.Yaml
