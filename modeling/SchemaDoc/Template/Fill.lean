import SchemaDoc.Template.Number
import SchemaDoc.Value

/-!
Contract: templates with placeholders in braces, filled in with values.

Owns:
- what a placeholder is: the argument it names by number or by its turn, parts of the argument, a
  conversion, and a specification that may hold placeholders itself;
- braces written twice, which stand for themselves;
- the order of faults: the first placeholder that cannot be filled in decides.
-/

namespace SchemaDoc.Template

/-- One placeholder as it is written. -/
structure Placeholder where
  name : Text
  conversion : Option Char
  spec : Text
deriving DecidableEq, Repr

/-- The name of a placeholder, and the character that ends it with what follows. Brackets hide what
is between them. -/
def readName (inBrackets : Bool) : Text → Except Fault (Text × Char × Text)
  | [] => .error .malformed
  | c :: rest =>
    if inBrackets then do
      let (name, mark, rest) ← readName (c != ']') rest
      return (c :: name, mark, rest)
    else if c = '\x7b' then .error .malformed
    else if c = '\x7d' || c = ':' || c = '!' then .ok ([], c, rest)
    else do
      let (name, mark, rest) ← readName (c = '[') rest
      return (c :: name, mark, rest)

/-- A specification up to the brace that closes its placeholder. -/
def readSpec (depth : Nat) : Text → Except Fault (Text × Text)
  | [] => .error .malformed
  | c :: rest =>
    if c = '\x7d' && depth = 0 then .ok ([], rest)
    else do
      let inner := if c = '\x7b' then depth + 1 else if c = '\x7d' then depth - 1 else depth
      let (spec, rest) ← readSpec inner rest
      return (c :: spec, rest)

/-- A placeholder whose opening brace was read, and what follows it. -/
def readPlaceholder (text : Text) : Except Fault (Placeholder × Text) := do
  let (name, mark, rest) ← readName false text
  if mark = '\x7d' then return (⟨name, none, []⟩, rest)
  if mark = ':' then
    let (spec, rest) ← readSpec 0 rest
    return (⟨name, none, spec⟩, rest)
  match rest with
  | conversion :: '\x7d' :: rest => return (⟨name, some conversion, []⟩, rest)
  | conversion :: ':' :: rest =>
    let (spec, rest) ← readSpec 0 rest
    return (⟨name, some conversion, spec⟩, rest)
  | _ => throw .malformed

/-! ## Arguments -/

/-- How many arguments were taken in turn; arguments named by number exclude those. -/
inductive Numbering where
  | undecided
  | inTurn (taken : Nat)
  | byNumber
deriving DecidableEq, Repr

/-- The number of the argument that a name means. -/
def argumentNumber (numbering : Numbering) (name : Text) : Except Fault (Nat × Numbering) :=
  if name.isEmpty then
    match numbering with
    | .undecided => .ok (0, .inTurn 1)
    | .inTurn taken => .ok (taken, .inTurn (taken + 1))
    | .byNumber => .error .malformed
  else if name.all Char.isDigit then
    match numbering with
    | .inTurn _ => .error .malformed
    | _ => .ok (Text.ofDigits 10 name, .byNumber)
  else .error .noName

/-- The part of a value under a key. -/
def part (value : Value) (key : Text) : Except Fault Value :=
  let number? := if !key.isEmpty && key.all Char.isDigit then some (Text.ofDigits 10 key) else none
  match value with
  | .map entries =>
    match if number?.isSome then none else Value.lookup? key entries with
    | some found => .ok found
    | none => .error .noName
  | .list items =>
    match number? with
    | some number => (items[number]?).elim (.error .noArgument) .ok
    | none => .error .wrongKind
  | .str text =>
    match number? with
    | some number => (text[number]?).elim (.error .noArgument) fun c => .ok (.str [c])
    | none => .error .wrongKind
  | _ => .error .wrongKind

/-- The parts that a name asks for behind its argument, at most as many as given. -/
def parts : Nat → Value → Text → Except Fault Value
  | _, value, [] => .ok value
  | 0, _, _ => .error .malformed
  | count + 1, value, '[' :: rest => do
    let key := rest.takeWhile (· != ']')
    if key.isEmpty then throw .malformed
    match rest.drop key.length with
    | ']' :: more => parts count (← part value key) more
    | _ => throw .malformed
  | _, _, '.' :: rest =>
    if (rest.takeWhile fun c => c != '.' && c != '[').isEmpty then .error .malformed
    else .error .noPart
  | _, _, _ => .error .malformed

/-- The value of a placeholder. -/
def valueOf (arguments : List Value) (numbering : Numbering) (name : Text) :
    Except Fault (Value × Numbering) := do
  let first := name.takeWhile fun c => c != '.' && c != '['
  let (number, numbering) ← argumentNumber numbering first
  match arguments[number]? with
  | none => throw .noArgument
  | some value => return (← parts name.length value (name.drop first.length), numbering)

/-! ## Values as texts -/

/-- A text with every character beyond ASCII escaped. -/
def escapeBeyondAscii (text : Text) : Text :=
  text.flatMap fun c =>
    if c.toNat < 0x80 then [c]
    else if c.toNat < 0x100 then '\\' :: 'x' :: Text.hexadecimal 2 c.toNat
    else if c.toNat < 0x10000 then '\\' :: 'u' :: Text.hexadecimal 4 c.toNat
    else '\\' :: 'U' :: Text.hexadecimal 8 c.toNat

/-- A value converted before it is shown. -/
def convert (value : Value) : Option Char → Except Fault Value
  | none => .ok value
  | some 's' => .ok (.str value.display)
  | some 'r' => .ok (.str value.repr)
  | some 'a' => .ok (.str (escapeBeyondAscii value.repr))
  | some _ => .error .malformed

def showText (spec : Spec) (text : Text) : Except Fault Text := do
  let isText := spec.form.getD 's' = 's'
  let isPlain := spec.sign.isNone && !spec.noNegativeZero && !spec.alternate &&
    spec.separator.isNone && spec.alignment != some .afterSign
  if !isText || !isPlain then throw .malformed
  let shown := match spec.precision with
    | some count => text.take count
    | none => text
  return spec.widen (spec.alignment.getD .left) shown

/-- An integer in a form of integers or of numbers with a fraction. -/
def showWhole (spec : Spec) (value : Int) : Except Fault Text :=
  if (spec.form.map isRealForm).getD false then
    match Double.ofInt value with
    | .finite negative mantissa exponent => showReal spec (.finite negative mantissa exponent)
    | _ => .error .tooLarge
  else showInteger spec value

/-- A value shown by a specification; an empty one shows it as it is. -/
def showValue (specText : Text) (value : Value) : Except Fault Text :=
  if specText.isEmpty then .ok value.display
  else
    match value with
    | .str text => do showText (← Spec.parse specText) text
    | .int number => do showWhole (← Spec.parse specText) number
    | .bool truth => do showWhole (← Spec.parse specText) (if truth then 1 else 0)
    | .real number => do showReal (← Spec.parse specText) number
    | _ => .error .wrongKind

/-! ## Filling in -/

/-- The template filled in, nested specifications down to a depth. -/
def fillFrom (arguments : List Value) :
    (depth size : Nat) → Numbering → Text → Except Fault (Text × Numbering)
  | 0, _, _, _ => .error .malformed
  | _, _, numbering, [] => .ok ([], numbering)
  | _, 0, _, _ => .error .malformed
  | depth + 1, size + 1, numbering, '\x7b' :: '\x7b' :: rest => do
    let (filled, numbering) ← fillFrom arguments (depth + 1) size numbering rest
    return ('\x7b' :: filled, numbering)
  | depth + 1, size + 1, numbering, '\x7d' :: '\x7d' :: rest => do
    let (filled, numbering) ← fillFrom arguments (depth + 1) size numbering rest
    return ('\x7d' :: filled, numbering)
  | depth + 1, size + 1, numbering, '\x7b' :: rest => do
    let (placeholder, rest) ← readPlaceholder rest
    let (value, numbering) ← valueOf arguments numbering placeholder.name
    let value ← convert value placeholder.conversion
    let (spec, numbering) ←
      if placeholder.spec.contains '\x7b' then
        fillFrom arguments depth placeholder.spec.length numbering placeholder.spec
      else .ok (placeholder.spec, numbering)
    let shown ← showValue spec value
    let (filled, numbering) ← fillFrom arguments (depth + 1) size numbering rest
    return (shown ++ filled, numbering)
  | depth + 1, size + 1, numbering, c :: rest => do
    if c = '\x7d' then throw .malformed
    let (filled, numbering) ← fillFrom arguments (depth + 1) size numbering rest
    return (c :: filled, numbering)

/-- The template with its placeholders filled in; specifications may be nested once. -/
def fill (template : Text) (arguments : List Value) : Except Fault Text :=
  (fillFrom arguments 2 template.length .undecided template).map Prod.fst

end SchemaDoc.Template
