import SchemaDoc.Source.Lexer
import SchemaDoc.Source.Parser
import SchemaDoc.Source.StringLiteral
import SchemaDoc.Source.Tree

/-!
Contract: the grammar of expressions.

Each rule is a parser that takes the parsers of what stands one level deeper (`Inner`): the
contents of brackets, the body of a lambda, the alternative of a conditional. `grammar n` ties
the knot for sources that nest at most `n` levels deep. Targets are read as expressions and then
checked, for every target is also an expression.

A node's place is that of the first token of its rule; brackets around one expression belong to
no node.
-/

namespace SchemaDoc.Source

open SchemaDoc.Source.Parser

/-- The parsers of what stands one level deeper. -/
structure Inner where
  /-- The code point of a named character. -/
  nameOf : Text → Option Nat
  expression : Parser Located
  disjunction : Parser Located
  bitwiseOr : Parser Located
  factor : Parser Located
  primary : Parser Located

/-- No level is left. -/
def Inner.none (nameOf : Text → Option Nat) : Inner :=
  ⟨nameOf, fail, fail, fail, fail, fail⟩

namespace Expression

/-! ## Targets -/

mutual

/-- The expression can be assigned to. -/
def isTarget : Expr → Bool
  | .name _ => true
  | .attribute _ _ => true
  | .subscript _ _ => true
  | .starred value => isTarget value
  | .tuple items => areTargets items
  | .list items => areTargets items
  | _ => false

/-- All expressions can be assigned to. -/
def areTargets : List Expr → Bool
  | [] => true
  | item :: rest => isTarget item && areTargets rest

end

mutual

/-- The expression can be deleted. -/
def isDeletable : Expr → Bool
  | .name _ => true
  | .attribute _ _ => true
  | .subscript _ _ => true
  | .tuple items => areDeletable items
  | .list items => areDeletable items
  | _ => false

/-- All expressions can be deleted. -/
def areDeletable : List Expr → Bool
  | [] => true
  | item :: rest => isDeletable item && areDeletable rest

end

/-- The expression is a name, an attribute or an element. -/
def isSingleTarget : Expr → Bool
  | .name _ => true
  | .attribute _ _ => true
  | .subscript _ _ => true
  | _ => false

def isStarred : Expr → Bool
  | .starred _ => true
  | _ => false

/-! ## Lists of expressions -/

/-- The next tokens are a name and the sign that names a value in place. -/
def atNamed : Parser Bool := do
  match (← peek), (← peekSecond) with
  | .name _ _, .symbol ":=" => return true
  | _, _ => return false

/-- An expression that may name its value. -/
def namedExpression (inner : Inner) : Parser Located := do
  if (← atNamed) then
    let place ← here
    let target ← name
    skip
    let value ← inner.expression
    return ⟨place, .named target value.expr⟩
  else inner.expression

/-- A starred value, or what `plain` reads. -/
def starredOr (value plain : Parser Located) : Parser Located := do
  let place ← here
  if (← accept (.symbol "*")) then
    let found ← value
    return ⟨place, .starred found.expr⟩
  else plain

/-- An item of a display. -/
def displayItem (inner : Inner) : Parser Located :=
  starredOr inner.bitwiseOr (namedExpression inner)

/-- Expressions with commas between them; a comma makes a tuple. -/
def expressionList (inner : Inner) : Parser Located := do
  let place ← here
  let (items, trailing) ← commaList (starredOr inner.bitwiseOr inner.expression)
  match items, trailing with
  | [single], false => return single
  | _, _ => return ⟨place, .tuple (items.map Located.expr)⟩

/-- A value handed out by a generator. -/
def yieldExpression (inner : Inner) : Parser Located := do
  let place ← here
  keyword "yield"
  if (← accept (.keyword "from")) then
    let source ← inner.expression
    return ⟨place, .yieldedFrom source.expr⟩
  else
    let value ← attempt (expressionList inner)
    return ⟨place, .yielded (value.map Located.expr)⟩

/-- What may stand on the right of an assignment. -/
def assignable (inner : Inner) : Parser Located := do
  if (← peek) = .keyword "yield" then yieldExpression inner else expressionList inner

/-- One target of a loop or comprehension. -/
def target (inner : Inner) : Parser Located := do
  let found ← starredOr inner.primary inner.primary
  if isTarget found.expr then return found else fail

/-- The targets of a loop or comprehension; a comma makes a tuple. -/
def targets (inner : Inner) : Parser Expr := do
  let (items, trailing) ← commaList (target inner)
  match items, trailing with
  | [single], false => return single.expr
  | _, _ => return .tuple (items.map Located.expr)

/-! ## Comprehensions -/

/-- A `for` part starts here. -/
def atClause : Parser Bool := do
  match (← peek), (← peekSecond) with
  | .keyword "for", _ => return true
  | .keyword "async", .keyword "for" => return true
  | _, _ => return false

def clause (inner : Inner) : Parser Clause := do
  let isAsync ← accept (.keyword "async")
  keyword "for"
  let goal ← targets inner
  keyword "in"
  let source ← inner.disjunction
  let conditions ← many (return (← peek) = .keyword "if") (do
    skip
    inner.disjunction)
  return .mk isAsync goal source.expr (conditions.map Located.expr)

/-- The `for` parts of a comprehension. -/
def clauses (inner : Inner) : Parser (List Clause) :=
  many atClause (clause inner)

/-! ## Displays -/

/-- What stands in round brackets: a tuple, a generator, or one expression. -/
def parenthesised (inner : Inner) : Parser Located := do
  let place ← here
  symbol "("
  if (← accept (.symbol ")")) then return ⟨place, .tuple []⟩
  if (← peek) = .keyword "yield" then
    let value ← yieldExpression inner
    symbol ")"
    return value
  let first ← displayItem inner
  if (← atClause) then
    if isStarred first.expr then fail
    let parts ← clauses inner
    symbol ")"
    return ⟨place, .comprehension .generator first.expr Option.none parts⟩
  let (others, trailing) ← moreItems (displayItem inner)
  symbol ")"
  if others.isEmpty && !trailing then
    if isStarred first.expr then fail else return first
  else return ⟨place, .tuple ((first :: others).map Located.expr)⟩

/-- What stands in square brackets: a list or a list comprehension. -/
def listDisplay (inner : Inner) : Parser Expr := do
  symbol "["
  if (← accept (.symbol "]")) then return .list []
  let first ← displayItem inner
  if (← atClause) then
    if isStarred first.expr then fail
    let parts ← clauses inner
    symbol "]"
    return .comprehension .list first.expr Option.none parts
  let (others, _) ← moreItems (displayItem inner)
  symbol "]"
  return .list ((first :: others).map Located.expr)

/-- An entry of a dictionary, or the entries of another one. -/
def dictEntry (inner : Inner) : Parser (Option Expr × Expr) := do
  if (← accept (.symbol "**")) then
    let value ← inner.bitwiseOr
    return (Option.none, value.expr)
  else
    let key ← inner.expression
    symbol ":"
    let value ← inner.expression
    return (some key.expr, value.expr)

/-- The end of a dictionary whose first entry is read. -/
def dictTail (inner : Inner) (first : Option Expr × Expr) : Parser Expr := do
  let (others, _) ← moreItems (dictEntry inner)
  symbol "\x7d"
  return .dict (first :: others)

/-- What stands in curly brackets: a dictionary, a set, or a comprehension of either. -/
def bracedDisplay (inner : Inner) : Parser Expr := do
  symbol "\x7b"
  if (← accept (.symbol "\x7d")) then return .dict []
  if (← peek) = .symbol "**" then
    dictTail inner (← dictEntry inner)
  else
    let isNamed ← atNamed
    let first ← displayItem inner
    if (← peek) = .symbol ":" && !isNamed && !isStarred first.expr then
      skip
      let value ← inner.expression
      if (← atClause) then
        let parts ← clauses inner
        symbol "\x7d"
        return .comprehension .dict first.expr (some value.expr) parts
      else dictTail inner (some first.expr, value.expr)
    else if (← atClause) then
      if isStarred first.expr then fail
      let parts ← clauses inner
      symbol "\x7d"
      return .comprehension .set first.expr Option.none parts
    else
      let (others, _) ← moreItems (displayItem inner)
      symbol "\x7d"
      return .set ((first :: others).map Located.expr)

/-! ## Strings -/

/-- The expression of a formatted string's field, read as if in brackets of its own. -/
def fieldExpression (inner : Inner) (source : Text) : Option Expr := do
  let found ← tokens ('(' :: source ++ [')'])
  let (value, _) ← (expressionList inner).run ((found.map PlacedToken.token).zipIdx)
  return value.expr

mutual

/-- A piece of a formatted string with its field read. -/
def piece (inner : Inner) : StringLiteral.RawPiece → Option Piece
  | .literal codes => some (.literal codes)
  | .field source shown conversion Option.none => do
    let value ← fieldExpression inner source
    return .field value shown conversion Option.none
  | .field source shown conversion (some format) => do
    let value ← fieldExpression inner source
    let format ← pieces inner format
    return .field value shown conversion (some format)

/-- The pieces of a formatted string with their fields read. -/
def pieces (inner : Inner) : List StringLiteral.RawPiece → Option (List Piece)
  | [] => some []
  | first :: rest => do
    let found ← piece inner first
    let others ← pieces inner rest
    return found :: others

end

/-- The pieces of one text literal. -/
def literalPieces (inner : Inner) (token : StringToken) : Option (List Piece) := do
  if token.isFormatted then
    let (raw, rest) ←
      StringLiteral.pieces inner.nameOf token.isRaw (2 * token.body.length + 4) 0 token.body
    if rest.isEmpty then pieces inner raw else Option.none
  else
    let codes ← StringLiteral.textCodes inner.nameOf token.isRaw token.body
    return [.literal codes]

/-- The code points of literal pieces. -/
def literalCodes (found : List Piece) : List Nat :=
  found.flatMap fun
    | .literal codes => codes
    | .field _ _ _ _ => []

/-- The value of adjacent literals: all texts, or all bytes. -/
def literalValue (inner : Inner) (literals : List StringToken) : Option Expr := do
  if literals.all (·.isBytes) then
    let codes ← literals.mapM fun token => StringLiteral.byteCodes token.isRaw token.body
    return .bytes codes.flatten
  else if literals.any (·.isBytes) then Option.none
  else
    let found ← literals.mapM (literalPieces inner)
    if literals.any (·.isFormatted) then return .formatted found.flatten
    else return .text (literalCodes found.flatten)

/-- Adjacent string literals. -/
def strings (inner : Inner) : Parser Expr := do
  let literals ← many
    (do
      match (← peek) with
      | .string _ => return true
      | _ => return false)
    (do
      match (← peek) with
      | .string token =>
        skip
        return token
      | _ => fail)
  match literalValue inner literals with
  | some value => return value
  | Option.none => fail

/-! ## Primaries -/

def atom (inner : Inner) : Parser Located := do
  let place ← here
  match (← peek) with
  | .name text _ =>
    skip
    return ⟨place, .name text⟩
  | .number literal =>
    skip
    return ⟨place, .number literal⟩
  | .string _ => return ⟨place, ← strings inner⟩
  | .keyword word =>
    if word = "True" || word = "False" || word = "None" then
      skip
      return ⟨place, .constant word⟩
    else fail
  | .symbol "..." =>
    skip
    return ⟨place, .constant "..."⟩
  | .symbol "(" => parenthesised inner
  | .symbol "[" => return ⟨place, ← listDisplay inner⟩
  | .symbol "\x7b" => return ⟨place, ← bracedDisplay inner⟩
  | _ => fail

/-- Where the arguments of a call stand: positional ones come first, then keywords among which
further values may be unpacked, then keywords among which mappings are unpacked. -/
inductive ArgumentPhase where
  | positional
  | keywords
  | mappings
deriving DecidableEq

/-- One argument, and the phase after it. -/
def argument (inner : Inner) (phase : ArgumentPhase) : Parser (Argument × ArgumentPhase) := do
  match (← peek), (← peekSecond) with
  | .symbol "*", _ =>
    if phase = .mappings then fail
    skip
    let value ← inner.expression
    return (.positional (.starred value.expr), phase)
  | .symbol "**", _ =>
    skip
    let value ← inner.expression
    return (.unpacked value.expr, .mappings)
  | .name text _, .symbol "=" =>
    skip
    skip
    let value ← inner.expression
    return (.keyword text value.expr, if phase = .positional then .keywords else phase)
  | _, _ =>
    if phase != .positional then fail
    let value ← namedExpression inner
    return (.positional value.expr, phase)

/-- The arguments of a call from behind its opening bracket on, the closing one included. A
generator without brackets of its own may be the only argument, where that is allowed. -/
def arguments (inner : Inner) (allowsGenerator : Bool) : Parser (List Argument) := do
  if (← accept (.symbol ")")) then return []
  let (first, phase) ← argument inner .positional
  if (← atClause) then
    match first with
    | .positional value =>
      if !allowsGenerator || isStarred value then fail
      let parts ← clauses inner
      symbol ")"
      return [.positional (.comprehension .generator value Option.none parts)]
    | _ => fail
  else
    let (found, _) ← iterate
      (fun (state : List Argument × ArgumentPhase) => do
        if (← peek) = .symbol "," && (← peekSecond) != .symbol ")" then
          skip
          let (next, phase) ← argument inner state.2
          return some (next :: state.1, phase)
        else return Option.none)
      ([first], phase)
    let _ ← accept (.symbol ",")
    symbol ")"
    return found.reverse

/-- An index, or the bounds of a range of elements. -/
def sliceItem (inner : Inner) : Parser Located := do
  let place ← here
  if (← accept (.symbol "*")) then
    let value ← inner.expression
    return ⟨place, .starred value.expr⟩
  let isNamed ← atNamed
  let lower ← if (← peek) = .symbol ":" then pure Option.none
    else some <$> namedExpression inner
  if isNamed || (← peek) != .symbol ":" then
    match lower with
    | some found => return found
    | Option.none => fail
  skip
  let upper ← if (← notAt [.symbol ":", .symbol ",", .symbol "]"]) then some <$> inner.expression
    else pure Option.none
  let stride ← if (← accept (.symbol ":")) then
      if (← notAt [.symbol ",", .symbol "]"]) then some <$> inner.expression
      else pure Option.none
    else pure Option.none
  return ⟨place, .slice (lower.map Located.expr) (upper.map Located.expr)
    (stride.map Located.expr)⟩

/-- What stands in the brackets of an element access. -/
def slices (inner : Inner) : Parser Expr := do
  let (items, trailing) ← commaList (sliceItem inner)
  match items, trailing with
  | [single], false =>
    if isStarred single.expr then return .tuple [single.expr] else return single.expr
  | _, _ => return .tuple (items.map Located.expr)

/-- An atom with the attributes, calls and elements taken from it. -/
def primary (inner : Inner) : Parser Located := do
  let place ← here
  let first ← atom inner
  iterate
    (fun (base : Located) => do
      match (← peek) with
      | .symbol "." =>
        skip
        let member ← name
        return some ⟨place, .attribute base.expr member⟩
      | .symbol "(" =>
        skip
        let found ← arguments inner true
        return some ⟨place, .call base.expr found⟩
      | .symbol "[" =>
        skip
        let index ← slices inner
        symbol "]"
        return some ⟨place, .subscript base.expr index⟩
      | _ => return Option.none)
    first

/-! ## Operators -/

/-- A primary that may be awaited, and its power. -/
def power (inner : Inner) : Parser Located := do
  let place ← here
  let base ← if (← accept (.keyword "await")) then do
      let value ← primary inner
      pure (⟨place, .awaited value.expr⟩ : Located)
    else primary inner
  if (← accept (.symbol "**")) then
    let exponent ← inner.factor
    return ⟨place, .binary "**" base.expr exponent.expr⟩
  else return base

/-- A factor with its signs. -/
def factor (inner : Inner) : Parser Located := do
  let place ← here
  let signs ← many
    (do
      let next ← peek
      return ["+", "-", "~"].any fun sign => next = .symbol sign)
    (do
      match (← peek) with
      | .symbol sign =>
        skip
        return sign
      | _ => fail)
  let operand ← power inner
  if signs.isEmpty then return operand
  else return ⟨place, signs.foldr (fun sign expr => .unary sign expr) operand.expr⟩

/-- Operators of two operands, the loosest first; those in a row bind alike. -/
def binaryOperators : List (List String) :=
  [["|"], ["^"], ["&"], ["<<", ">>"], ["+", "-"], ["*", "/", "//", "%", "@"]]

/-- Operations that bind at least as tightly as the first row; they group to the left. -/
def binary (inner : Inner) : List (List String) → Parser Located
  | [] => factor inner
  | operators :: tighter => do
    let place ← here
    let first ← binary inner tighter
    iterate
      (fun (left : Located) => do
        match (← peek) with
        | .symbol operator =>
          if operators.contains operator then
            skip
            let right ← binary inner tighter
            return some ⟨place, .binary operator left.expr right.expr⟩
          else return Option.none
        | _ => return Option.none)
      first

def bitwiseOr (inner : Inner) : Parser Located :=
  binary inner binaryOperators

/-- A comparison operator, if one comes next. -/
def comparisonOperator : Parser (Option String) := do
  match (← peek), (← peekSecond) with
  | .symbol text, _ =>
    if ["==", "!=", "<=", "<", ">=", ">"].contains text then
      skip
      return some text
    else return Option.none
  | .keyword "in", _ =>
    skip
    return some "in"
  | .keyword "not", .keyword "in" =>
    skip
    skip
    return some "not in"
  | .keyword "is", .keyword "not" =>
    skip
    skip
    return some "is not"
  | .keyword "is", _ =>
    skip
    return some "is"
  | _, _ => return Option.none

def comparison (inner : Inner) : Parser Located := do
  let place ← here
  let first ← bitwiseOr inner
  let others ← iterate
    (fun (found : List (String × Expr)) => do
      match (← comparisonOperator) with
      | some operator =>
        let right ← bitwiseOr inner
        return some ((operator, right.expr) :: found)
      | Option.none => return Option.none)
    []
  if others.isEmpty then return first
  else return ⟨place, .comparison first.expr others.reverse⟩

def inversion (inner : Inner) : Parser Located := do
  let place ← here
  let nots ← many (return (← peek) = .keyword "not") skip
  let operand ← comparison inner
  if nots.isEmpty then return operand
  else return ⟨place, nots.foldr (fun _ expr => .unary "not" expr) operand.expr⟩

/-- Operands joined by one word. -/
def joined (word : String) (operand : Parser Located) : Parser Located := do
  let place ← here
  let first ← operand
  let others ← many (return (← peek) = .keyword word) (do
    skip
    operand)
  if others.isEmpty then return first
  else return ⟨place, .boolean word (first.expr :: others.map Located.expr)⟩

def disjunction (inner : Inner) : Parser Located :=
  joined "or" (joined "and" (inversion inner))

/-! ## Parameters -/

/-- Where the reading of parameters stands. -/
structure ParameterState where
  /-- The parameters read, last first. -/
  found : List Parameter
  afterSlash : Bool
  afterStar : Bool
  afterKeywords : Bool
  /-- A star without a name waits for a parameter. -/
  pending : Bool
  /-- A parameter with a default was read. -/
  defaults : Bool
  /-- No comma follows the last parameter. -/
  closed : Bool

def Parameter.onlyPositional : Parameter → Parameter
  | .mk _ name declared default => .mk .positionalOnly name declared default

/-- The declared type of a parameter, where types may be declared. -/
def declaredType (typed : Bool) (type : Parser Located) : Parser (Option Expr) := do
  if typed then
    if (← accept (.symbol ":")) then
      let found ← type
      return some found.expr
    else return Option.none
  else return Option.none

/-- One parameter or mark of a parameter list. -/
def parameterStep (inner : Inner) (typed : Bool) (state : ParameterState) :
    Parser ParameterState := do
  if state.afterKeywords then fail
  match (← peek) with
  | .symbol "/" =>
    if state.afterSlash || state.afterStar || state.found.isEmpty then fail
    skip
    return { state with afterSlash := true, found := state.found.map Parameter.onlyPositional }
  | .symbol "*" =>
    if state.afterStar then fail
    skip
    if (← peek) = .symbol "," then return { state with afterStar := true, pending := true }
    let title ← name
    let declared ← declaredType typed (starredOr inner.bitwiseOr inner.expression)
    return { state with
      afterStar := true
      found := .mk .variadic title declared Option.none :: state.found }
  | .symbol "**" =>
    if state.pending then fail
    skip
    let title ← name
    let declared ← declaredType typed inner.expression
    return { state with
      afterKeywords := true
      found := .mk .variadicKeyword title declared Option.none :: state.found }
  | _ =>
    let title ← name
    let declared ← declaredType typed inner.expression
    let default ← if (← accept (.symbol "=")) then some <$> inner.expression
      else pure Option.none
    if !state.afterStar && state.defaults && default.isNone then fail
    let role := if state.afterStar then ParameterRole.keywordOnly else .plain
    return { state with
      pending := false
      defaults := state.defaults || default.isSome
      found := .mk role title declared (default.map Located.expr) :: state.found }

/-- The parameters up to the closing token, which is left. -/
def parameters (inner : Inner) (typed : Bool) (closing : Token) : Parser (List Parameter) := do
  let state ← iterate
    (fun (state : ParameterState) => do
      if state.closed || (← peek) = closing then return Option.none
      let next ← parameterStep inner typed state
      let comma ← accept (.symbol ",")
      return some { next with closed := !comma })
    ⟨[], false, false, false, false, false, false⟩
  if state.pending || (← peek) != closing then fail else return state.found.reverse

/-! ## Expressions -/

/-- A conditional, a lambda, or an operation. -/
def expression (inner : Inner) : Parser Located := do
  let place ← here
  if (← accept (.keyword "lambda")) then
    let found ← parameters inner false (.symbol ":")
    skip
    let body ← inner.expression
    return ⟨place, .lambda found body.expr⟩
  else
    let body ← disjunction inner
    if (← accept (.keyword "if")) then
      let test ← disjunction inner
      keyword "else"
      let other ← inner.expression
      return ⟨place, .conditional test.expr body.expr other.expr⟩
    else return body

end Expression

/-- The parsers one level further out. -/
def Inner.next (inner : Inner) : Inner where
  nameOf := inner.nameOf
  expression := Expression.expression inner
  disjunction := Expression.disjunction inner
  bitwiseOr := Expression.bitwiseOr inner
  factor := Expression.factor inner
  primary := Expression.primary inner

/-- The parsers of expressions that nest fewer than `depth` levels deep. -/
def grammar (nameOf : Text → Option Nat) : (depth : Nat) → Inner
  | 0 => Inner.none nameOf
  | depth + 1 => (grammar nameOf depth).next

end SchemaDoc.Source
