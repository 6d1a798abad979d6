import SchemaDoc.Decimal.Places
import SchemaDoc.Template.Spec

/-!
Contract: numbers in the forms that a specification can ask for.

Owns:
- the digits of an integer in a base, and of a number with an exponent or without;
- digit separators, signs, and fill between sign and digits.
-/

namespace SchemaDoc.Template

/-! ## Signs, separators and fill -/

/-- Digits, the last first, with a separator between groups. -/
def separate (separator : Char) (size : Nat) (count : Nat) : List Char → List Char
  | [] => []
  | digit :: rest =>
    if count = size then separator :: digit :: separate separator size 1 rest
    else digit :: separate separator size (count + 1) rest

/-- Digits in groups. -/
def grouped (separator : Option Char) (size : Nat) (digits : Text) : Text :=
  match separator with
  | none => digits
  | some separator => (separate separator size 0 digits.reverse).reverse

/-- The length of so many digits in groups. -/
def groupedLength (separator : Option Char) (size count : Nat) : Nat :=
  if separator.isSome then count + (count - 1) / size else count

/-- Digits in groups, with zeros in front until they are as long as asked for. -/
def groupedTo (separator : Option Char) (size width : Nat) (digits : Text) : Text :=
  let missing := (List.range (width + 1)).find? fun more =>
    width ≤ groupedLength separator size (digits.length + more)
  grouped separator size (List.replicate (missing.getD 0) '0' ++ digits)

/-- The sign of a number. -/
def signText (spec : Spec) (negative : Bool) : Text :=
  if negative then ['-']
  else
    match spec.sign with
    | some .plus => ['+']
    | some .blank => [' ']
    | _ => []

/-- A number put together from its parts: the sign, what marks the base, the digits before the
point, and what follows them. -/
def assemble (spec : Spec) (negative : Bool) (mark digits tail : Text) (size : Nat) : Text :=
  let alignment := spec.alignment.getD (if spec.zeros then .afterSign else .right)
  let fill := spec.fill.getD (if spec.zeros then '0' else ' ')
  let front := signText spec negative ++ mark
  if alignment = .afterSign then
    let room := (spec.width.getD 0) - front.length - tail.length
    let body :=
      if fill = '0' then groupedTo spec.separator size room digits
      else
        let plain := grouped spec.separator size digits
        List.replicate (room - plain.length) fill ++ plain
    front ++ body ++ tail
  else spec.widen alignment (front ++ grouped spec.separator size digits ++ tail)

/-! ## Integers -/

/-- The base of a form of integers, and the mark of the base. -/
def base? : Char → Option (Nat × Text)
  | 'd' => some (10, [])
  | 'n' => some (10, [])
  | 'b' => some (2, ['0', 'b'])
  | 'o' => some (8, ['0', 'o'])
  | 'x' => some (16, ['0', 'x'])
  | 'X' => some (16, ['0', 'X'])
  | _ => none

/-- The form can be combined with the separator. -/
def suitsSeparator (form : Char) : Option Char → Bool
  | none => true
  | some ',' => "deEfFgG%".toList.contains form
  | some _ => "deEfFgG%boxX".toList.contains form

def showInteger (spec : Spec) (value : Int) : Except Fault Text := do
  let form := spec.form.getD 'd'
  if !suitsSeparator form spec.separator then throw .malformed
  if form = 'c' then
    if spec.precision.isSome || spec.sign.isSome || spec.alternate || spec.noNegativeZero then
      throw .malformed
    if value < 0 || value ≥ 0x110000 then throw .tooLarge
    return assemble spec false [] [Char.ofNat value.toNat] [] 3
  match base? form with
  | none => throw .malformed
  | some (base, mark) =>
    if spec.precision.isSome || spec.noNegativeZero then throw .malformed
    let digits := Nat.toDigits base value.natAbs
    let digits := if form = 'X' then digits.map Char.toUpper else digits
    return assemble spec (value < 0) (if spec.alternate then mark else []) digits []
      (if base = 10 then 3 else 4)

/-! ## Numbers with a fraction -/

/-- Digits, a point among them so many places from the end; the parts before and behind it. -/
def splitPlaces (places : Nat) (digits : Text) : Text × Text :=
  let digits := List.replicate (places + 1 - digits.length) '0' ++ digits
  (digits.take (digits.length - places), digits.drop (digits.length - places))

/-- An exponent of at least two digits. -/
def exponentText (mark : Char) (power : Int) : Text :=
  mark :: (if power < 0 then '-' else '+') :: (
    let digits := Text.ofNat power.natAbs
    List.replicate (2 - digits.length) '0' ++ digits)

/-- What stands behind the digits before the point. -/
def fractionText (alternate : Bool) (fraction : Text) : Text :=
  if fraction.isEmpty && !alternate then [] else '.' :: fraction

/-- The digits before the point, and all that follows, with a fixed number of places. -/
def fixedParts (alternate : Bool) (places numerator denominator : Nat) : Text × Text :=
  let (whole, fraction) := splitPlaces places
    (Text.ofNat (Double.roundRatio numerator denominator (-Int.ofNat places)))
  (whole, fractionText alternate fraction)

/-- The same with an exponent. -/
def exponentParts (alternate : Bool) (mark : Char) (places numerator denominator : Nat) :
    Text × Text :=
  let (digits, power) := Double.significant (places + 1) numerator denominator
  let (whole, fraction) := splitPlaces places (Text.ofNat digits)
  (whole, fractionText alternate fraction ++ exponentText mark power)

/-- Text without zeros at its end. -/
def dropZeros (text : Text) : Text :=
  (text.reverse.dropWhile (· = '0')).reverse

/-- The same in the shorter of the two ways, with a number of significant digits. -/
def generalParts (alternate keepPoint : Bool) (mark : Char) (count numerator denominator : Nat) :
    Text × Text :=
  let (digits, power) := Double.significant count numerator denominator
  let limit : Int := if keepPoint then Int.ofNat count - 1 else Int.ofNat count
  let trim (fraction : Text) := if alternate then fraction else dropZeros fraction
  if power < -4 || power ≥ limit then
    let (whole, fraction) := splitPlaces (count - 1) (Text.ofNat digits)
    (whole, fractionText alternate (trim fraction) ++ exponentText mark power)
  else
    let (whole, fraction) := splitPlaces (Int.ofNat count - 1 - power).toNat (Text.ofNat digits)
    let fraction := trim fraction
    (whole, fractionText alternate (if fraction.isEmpty && keepPoint then ['0'] else fraction))

/-- The text of a number as a value shows it, without its sign, and cut before the point or the
exponent. -/
def plainParts (alternate : Bool) (value : Double) : Text × Text :=
  let text := value.render.dropWhile (· = '-')
  let whole := text.takeWhile Char.isDigit
  let tail := text.drop whole.length
  (whole, if alternate && !tail.contains '.' then '.' :: tail else tail)

/-- The digits before the point and all that follows, in a form. -/
def realParts (spec : Spec) (mantissa : Nat) (exponent : Int) : Except Fault (Text × Text) :=
  let (numerator, denominator) := Double.sizeRatio mantissa exponent
  let places := spec.precision.getD 6
  let count := max 1 places
  match spec.form with
  | none =>
    match spec.precision with
    | none => .ok (plainParts spec.alternate (.finite false mantissa exponent))
    | some places => .ok (generalParts spec.alternate true 'e' (max 1 places) numerator denominator)
  | some 'f' => .ok (fixedParts spec.alternate places numerator denominator)
  | some 'F' => .ok (fixedParts spec.alternate places numerator denominator)
  | some 'e' => .ok (exponentParts spec.alternate 'e' places numerator denominator)
  | some 'E' => .ok (exponentParts spec.alternate 'E' places numerator denominator)
  | some 'g' => .ok (generalParts spec.alternate false 'e' count numerator denominator)
  | some 'n' => .ok (generalParts spec.alternate false 'e' count numerator denominator)
  | some 'G' => .ok (generalParts spec.alternate false 'E' count numerator denominator)
  | some '%' =>
    let (whole, tail) := fixedParts spec.alternate places numerator denominator
    .ok (whole, tail ++ ['%'])
  | some _ => .error .malformed

/-- The forms of numbers with a fraction. -/
def isRealForm (form : Char) : Bool :=
  "eEfFgG%".toList.contains form

/-- All digits of a shown number are zeros. -/
def showsZero (parts : Text × Text) : Bool :=
  (parts.1 ++ parts.2.takeWhile fun c => c != 'e' && c != 'E').all fun c =>
    !c.isDigit || c = '0'

/-- The most places that a number can be asked for. -/
def mostPlaces : Nat := Nat.pow 2 31 - 1

/-- A number in a form; as a percentage it is the nearest number to its hundredfold. -/
def showReal (spec : Spec) (value : Double) : Except Fault Text := do
  let suits := match spec.form with
    | none => true
    | some 'n' => spec.separator.isNone
    | some form => isRealForm form
  if !suits || mostPlaces < spec.precision.getD 0 then throw .malformed
  match if spec.form = some '%' then Double.scale 100 value else value with
  | .finite negative mantissa exponent =>
    let parts ← realParts spec mantissa exponent
    let negative := negative && !(spec.noNegativeZero && showsZero parts)
    return assemble spec negative [] parts.1 parts.2 3
  | other =>
    let name : Text := if other = .undefined then "nan" else "inf"
    let isUpper := match spec.form with
      | some form => "EFG".toList.contains form
      | none => false
    let name := if isUpper then name.map Char.toUpper else name
    let tail : Text := if spec.form = some '%' then ['%'] else []
    let spec := { spec with separator := none }
    return assemble spec (other = .infinite true) [] name tail 3

end SchemaDoc.Template
