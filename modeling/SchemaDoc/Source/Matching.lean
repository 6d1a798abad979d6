import SchemaDoc.Source.Expression

/-!
Contract: the grammar of patterns.

Patterns nest through `inner`, which reads a pattern one level deeper. A low line is no name in
a pattern, and a name that stands before a point, an opening bracket or an equals sign binds
nothing.
-/

namespace SchemaDoc.Source

open SchemaDoc.Source.Parser

namespace Matching

/-- A name that the pattern binds. -/
def captureName : Parser Text := do
  if (← atWord "_") then fail
  let found ← name
  if (← notAt [.symbol ".", .symbol "(", .symbol "="]) then return found else fail

/-- The literal is an imaginary number. -/
def isImaginary (literal : Text) : Bool :=
  literal.getLast? = some 'j' || literal.getLast? = some 'J'

/-- A number token. -/
def number : Parser Text := do
  match (← peek) with
  | .number literal =>
    skip
    return literal
  | _ => fail

/-- A number with its sign, or a sum of a real and an imaginary number. -/
def signedNumber : Parser Expr := do
  let negative ← accept (.symbol "-")
  let first ← number
  let left := if negative then Expr.unary "-" (.number first) else .number first
  match (← peek) with
  | .symbol operator =>
    if operator = "+" || operator = "-" then
      skip
      let second ← number
      if isImaginary first || !isImaginary second then fail
      return .binary operator left (.number second)
    else return left
  | _ => return left

/-- A literal. -/
def literal (outer : Inner) : Parser Expr := do
  match (← peek) with
  | .number _ => signedNumber
  | .symbol "-" => signedNumber
  | .string _ => Expression.strings outer
  | .keyword word =>
    if word = "None" || word = "True" || word = "False" then
      skip
      return .constant word
    else fail
  | _ => fail

/-- A name with the attributes taken from it, and whether there are any. -/
def dotted : Parser (Expr × Bool) := do
  let first ← name
  let members ← many (return (← peek) = .symbol ".") (do
    skip
    name)
  return (members.foldl Expr.attribute (.name first), !members.isEmpty)

/-- A starred name, or a pattern. -/
def sequenceItem (inner : Parser Pattern) : Parser Pattern := do
  if (← accept (.symbol "*")) then
    if (← atWord "_") then
      skip
      return .star none
    else return .star (some (← captureName))
  else inner

def isStar : Pattern → Bool
  | .star _ => true
  | _ => false

/-- A case's pattern, or the items of an open sequence. -/
def openSequence (inner : Parser Pattern) : Parser Pattern := do
  let (items, trailing) ← commaList (sequenceItem inner)
  match items, trailing with
  | [single], false => if isStar single then fail else return single
  | _, _ => return .sequence items

/-- A key of a mapping with the pattern of its value. -/
def mappingItem (outer : Inner) (inner : Parser Pattern) : Parser (Expr × Pattern) := do
  let key ← match (← peek) with
    | .name _ _ => do
      let (found, hasMembers) ← dotted
      if hasMembers then pure found else fail
    | _ => literal outer
  symbol ":"
  let value ← inner
  return (key, value)

/-- What stands in curly brackets, from behind the opening one on. -/
def mapping (outer : Inner) (inner : Parser Pattern) : Parser Pattern := do
  let (items, trailing) ← iterate
    (fun (state : List (Expr × Pattern) × Bool) => do
      if !state.2 then return none
      if (← notAt [.symbol "**", .symbol "\x7d"]) then
        let item ← mappingItem outer inner
        return some (item :: state.1, ← accept (.symbol ","))
      else return none)
    ([], true)
  if (← accept (.symbol "**")) then
    if !trailing then fail
    let rest ← captureName
    let _ ← accept (.symbol ",")
    symbol "\x7d"
    return .mapping items.reverse (some rest)
  else
    symbol "\x7d"
    return .mapping items.reverse none

/-- What stands in the brackets behind a class, from behind the opening one on: positional
patterns come before named ones. -/
def classItems (inner : Parser Pattern) :
    Parser (List Pattern × List (Text × Pattern)) := do
  let ((positional, named), _) ← iterate
    (fun (state : (List Pattern × List (Text × Pattern)) × Bool) => do
      let ((positional, named), more) := state
      if !more || (← peek) = .symbol ")" then return none
      match (← peek), (← peekSecond) with
      | .name title _, .symbol "=" =>
        skip
        skip
        let value ← inner
        return some ((positional, (title, value) :: named), ← accept (.symbol ","))
      | _, _ =>
        if !named.isEmpty then fail
        let value ← inner
        return some ((value :: positional, named), ← accept (.symbol ",")))
    (([], []), true)
  symbol ")"
  return (positional.reverse, named.reverse)

/-- A pattern that opens with a name. -/
def named (inner : Parser Pattern) : Parser Pattern := do
  if (← atWord "_") then
    skip
    return .wildcard
  let (found, hasMembers) ← dotted
  match (← peek), found with
  | .symbol "(", _ =>
    skip
    let (positional, keyed) ← classItems inner
    return .instanceOf found positional keyed
  | .symbol "=", _ => fail
  | _, .name id => return .capture id
  | _, _ => if hasMembers then return .value found else fail

/-- A pattern without alternatives. -/
def closed (outer : Inner) (inner : Parser Pattern) : Parser Pattern := do
  match (← peek) with
  | .name _ _ => named inner
  | .symbol "(" =>
    skip
    if (← accept (.symbol ")")) then return .sequence []
    let found ← openSequence inner
    symbol ")"
    return found
  | .symbol "[" =>
    skip
    if (← accept (.symbol "]")) then return .sequence []
    let (items, _) ← commaList (sequenceItem inner)
    symbol "]"
    return .sequence items
  | .symbol "\x7b" =>
    skip
    mapping outer inner
  | _ => return .value (← literal outer)

/-- A pattern with its alternatives and the name it is bound to. -/
def pattern (outer : Inner) (inner : Parser Pattern) : Parser Pattern := do
  let first ← closed outer inner
  let others ← many (return (← peek) = .symbol "|") (do
    skip
    closed outer inner)
  let found := if others.isEmpty then first else .either (first :: others)
  if (← accept (.keyword "as")) then return .alias found (← captureName) else return found

/-- Patterns that nest fewer than `depth` levels deep. -/
def patternAt (outer : Inner) : (depth : Nat) → Parser Pattern
  | 0 => fail
  | depth + 1 => pattern outer (patternAt outer depth)

end Matching

end SchemaDoc.Source
