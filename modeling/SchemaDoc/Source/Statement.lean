import SchemaDoc.Source.Matching

/-!
Contract: the grammar of statements.

Blocks nest through `inner.block`, which reads a block one level deeper. The words `match` and
`case` are reserved only where a selection can stand: a line that reads as the head of a selection
is one, and any other line that opens with these words is an ordinary statement.
-/

namespace SchemaDoc.Source

open SchemaDoc.Source.Parser

/-- The parsers that statements are made of. -/
structure Parts where
  inner : Inner
  /-- Reads a pattern. -/
  pattern : Parser Pattern
  /-- Reads a block one level deeper. -/
  block : Parser (List Stmt)

namespace Statement

/-! ## Statements on one line -/

/-- The values assigned in a row: all but the last one must be targets. -/
def assignment (inner : Inner) (first : Located) : Parser Simple := do
  let (targets, value) ← iterate
    (fun (state : List Expr × Located) => do
      if (← peek) = .symbol "=" then
        if !Expression.isTarget state.2.expr then fail
        skip
        let next ← Expression.assignable inner
        return some (state.2.expr :: state.1, next)
      else return none)
    ([], first)
  return .assign targets.reverse value.expr

/-- An expression, an assignment, or a declaration. -/
def expressionStatement (inner : Inner) : Parser Simple := do
  let isBracketed := (← peek) = .symbol "("
  let first ← Expression.expressionList inner
  match (← peek) with
  | .symbol "=" => assignment inner first
  | .symbol ":" =>
    if !Expression.isSingleTarget first.expr then fail
    skip
    let type ← inner.expression
    let value ← if (← accept (.symbol "=")) then some <$> Expression.assignable inner
      else pure none
    let isBare := match first.expr with
      | .name _ => !isBracketed
      | _ => false
    return .declare first.expr isBare type.expr (value.map Located.expr)
  | .symbol text =>
    if augmentingSymbols.contains text then
      if !Expression.isSingleTarget first.expr then fail
      skip
      let value ← Expression.assignable inner
      return .augment first.expr text value.expr
    else return .expression first.expr
  | _ => return .expression first.expr

/-- Names joined by points. -/
def dottedName : Parser Text := do
  let first ← name
  let members ← many (return (← peek) = .symbol ".") (do
    skip
    name)
  return members.foldl (fun dotted member => dotted ++ '.' :: member) first

/-- The other name that an import binds, if it gives one. -/
def boundName : Parser (Option Text) := do
  if (← accept (.keyword "as")) then return some (← name) else return none

def importModules : Parser Simple := do
  let names ← strictList (do
    let title ← dottedName
    return (⟨title, ← boundName⟩ : Import))
  return .importModules names

def importedName : Parser Import := do
  let title ← name
  return ⟨title, ← boundName⟩

/-- What an import takes from a module. -/
def importedNames : Parser (List Import) := do
  if (← accept (.symbol "*")) then return [⟨['*'], none⟩]
  else if (← accept (.symbol "(")) then
    let (names, _) ← commaList importedName
    symbol ")"
    return names
  else strictList importedName

def importNames : Parser Simple := do
  let dots ← many (return [Token.symbol ".", .symbol "..."].contains (← peek)) (do
    let isOne := (← peek) = .symbol "."
    skip
    return if isOne then 1 else 3)
  let level := dots.foldl (· + ·) 0
  let module ← match (← peek) with
    | .name _ _ => some <$> dottedName
    | _ => pure none
  if level = 0 && module.isNone then fail
  keyword "import"
  let names ← importedNames
  return .importNames level module names

/-- A statement that ends with its line or at a semicolon. -/
def simple (inner : Inner) : Parser Simple := do
  match (← peek) with
  | .keyword "return" =>
    skip
    let value ← attempt (Expression.expressionList inner)
    return .returned (value.map Located.expr)
  | .keyword "import" =>
    skip
    importModules
  | .keyword "from" =>
    skip
    importNames
  | .keyword "raise" =>
    skip
    match (← attempt inner.expression) with
    | some exception =>
      let cause ← if (← accept (.keyword "from")) then some <$> inner.expression else pure none
      return .raised (some exception.expr) (cause.map Located.expr)
    | none => return .raised none none
  | .keyword "pass" =>
    skip
    return .pass
  | .keyword "del" =>
    skip
    let (targets, _) ← commaList inner.primary
    let targets := targets.map Located.expr
    if targets.all Expression.isDeletable then return .deleted targets else fail
  | .keyword "yield" => return .expression (← Expression.yieldExpression inner).expr
  | .keyword "assert" =>
    skip
    let test ← inner.expression
    let message ← if (← accept (.symbol ",")) then some <$> inner.expression else pure none
    return .asserted test.expr (message.map Located.expr)
  | .keyword "break" =>
    skip
    return .breaks
  | .keyword "continue" =>
    skip
    return .continues
  | .keyword "global" =>
    skip
    return .globals (← strictList name)
  | .keyword "nonlocal" =>
    skip
    return .nonlocals (← strictList name)
  | _ => expressionStatement inner

/-- Statements with semicolons between them, up to the end of their line. -/
def line (inner : Inner) : Parser (List Stmt) := do
  let first ← simple inner
  let others ← iterate
    (fun (found : List Simple) => do
      if (← peek) = .symbol ";" && (← peekSecond) != .newline then
        skip
        let next ← simple inner
        return some (next :: found)
      else return none)
    [first]
  let _ ← accept (.symbol ";")
  expect .newline
  return others.reverse.map Stmt.simple

/-! ## Compound statements -/

/-- The block of an `else` word, if one comes next. -/
def otherwise (parts : Parts) : Parser (List Branch) := do
  if (← accept (.keyword "else")) then
    symbol ":"
    return [.mk .otherwise (← parts.block)]
  else return []

/-- A test with its block. -/
def tested (parts : Parts) : Parser (Expr × List Stmt) := do
  let test ← Expression.namedExpression parts.inner
  symbol ":"
  return (test.expr, ← parts.block)

/-- A conditional; each further test stands in the alternative of the one before. -/
def conditional (parts : Parts) : Parser Stmt := do
  keyword "if"
  let (test, body) ← tested parts
  let further ← many (return (← peek) = .keyword "elif") (do
    skip
    tested parts)
  let last ← otherwise parts
  let rest := further.foldr
    (fun (test, body) tail =>
      [Branch.mk .otherwise [.compound (.condition test) (.mk .main body :: tail)]])
    last
  return .compound (.condition test) (.mk .main body :: rest)

def loop (parts : Parts) : Parser Stmt := do
  keyword "while"
  let (test, body) ← tested parts
  return .compound (.loop test) (.mk .main body :: (← otherwise parts))

def iteration (parts : Parts) (isAsync : Bool) : Parser Stmt := do
  keyword "for"
  let target ← Expression.targets parts.inner
  keyword "in"
  let source ← Expression.expressionList parts.inner
  symbol ":"
  let body ← parts.block
  return .compound (.iteration isAsync target source.expr)
    (.mk .main body :: (← otherwise parts))

/-- A resource and the target that it is bound to. -/
def resource (inner : Inner) : Parser (Expr × Option Expr) := do
  let value ← inner.expression
  if (← accept (.keyword "as")) then
    let target ← Expression.target inner
    if (← notAt [.symbol ",", .symbol ")", .symbol ":"]) then fail
    return (value.expr, some target.expr)
  else return (value.expr, none)

/-- Resources in brackets of the statement's own. -/
def bracketedResources (inner : Inner) : Parser (List (Expr × Option Expr)) := do
  symbol "("
  let (items, _) ← commaList (resource inner)
  symbol ")"
  symbol ":"
  return items

def plainResources (inner : Inner) : Parser (List (Expr × Option Expr)) := do
  let items ← strictList (resource inner)
  symbol ":"
  return items

def resources (parts : Parts) (isAsync : Bool) : Parser Stmt := do
  keyword "with"
  let items ← either (bracketedResources parts.inner) (plainResources parts.inner)
  let body ← parts.block
  return .compound (.resources isAsync items) [.mk .main body]

/-- A handler; those of a grouped kind have a star, and always name what they handle. -/
def handler (parts : Parts) (isGrouped : Bool) : Parser Branch := do
  keyword "except"
  if isGrouped then symbol "*"
  else if (← accept (.symbol ":")) then return .mk (.handler none none) (← parts.block)
  let exception ← parts.inner.expression
  let title ← if (← accept (.keyword "as")) then some <$> name else pure none
  symbol ":"
  return .mk (.handler (some exception.expr) title) (← parts.block)

/-- The block that runs at the end, if there is one. -/
def final (parts : Parts) : Parser (List Branch) := do
  if (← accept (.keyword "finally")) then
    symbol ":"
    return [.mk .finally (← parts.block)]
  else return []

def attempted (parts : Parts) : Parser Stmt := do
  keyword "try"
  symbol ":"
  let body ← parts.block
  if (← peek) = .keyword "except" then
    let isGrouped := (← peekSecond) = .symbol "*"
    let handlers ← many (return (← peek) = .keyword "except") (handler parts isGrouped)
    let rest ← otherwise parts
    let last ← final parts
    return .compound (.attempt isGrouped) (.mk .main body :: (handlers ++ rest ++ last))
  else
    let last ← final parts
    if last.isEmpty then fail
    return .compound (.attempt false) (.mk .main body :: last)

/-- The subject of a selection; a comma makes a tuple. -/
def subject (inner : Inner) : Parser Expr := do
  let (items, trailing) ← commaList (Expression.displayItem inner)
  match items, trailing with
  | [single], false => if Expression.isStarred single.expr then fail else return single.expr
  | _, _ => return .tuple (items.map Located.expr)

/-- The line that opens a selection. -/
def selectionHead (inner : Inner) : Parser Expr := do
  if !(← atWord "match") then fail
  skip
  let found ← subject inner
  symbol ":"
  expect .newline
  return found

def selectionCase (parts : Parts) : Parser Branch := do
  if !(← atWord "case") then fail
  skip
  let pattern ← Matching.openSequence parts.pattern
  let guard ← if (← accept (.keyword "if")) then
      some <$> Expression.namedExpression parts.inner
    else pure none
  symbol ":"
  return .mk (.case pattern (guard.map Located.expr)) (← parts.block)

/-- The cases of a selection, from behind its first line on. -/
def selection (parts : Parts) (subject : Expr) : Parser Stmt := do
  expect .indent
  let first ← selectionCase parts
  let others ← many (notAt [.dedent]) (selectionCase parts)
  expect .dedent
  return .compound (.selection subject) (first :: others)

/-! ## Definitions -/

/-- The decorators above a definition. -/
def decorators (inner : Inner) : Parser (List Located) :=
  many (return (← peek) = .symbol "@") (do
    skip
    let found ← Expression.namedExpression inner
    expect .newline
    return found)

def function (parts : Parts) (isAsync : Bool) (above : List Located) : Parser Stmt := do
  keyword "def"
  let title ← name
  symbol "("
  let parameters ← Expression.parameters parts.inner true (.symbol ")")
  skip
  let returns ← if (← accept (.symbol "->")) then some <$> parts.inner.expression else pure none
  symbol ":"
  let body ← parts.block
  return .function ⟨isAsync, title, parameters, returns.map Located.expr, above⟩ body

def classStatement (parts : Parts) (above : List Located) : Parser Stmt := do
  let place ← here
  keyword "class"
  let title ← name
  let arguments ← if (← accept (.symbol "(")) then Expression.arguments parts.inner false
    else pure []
  symbol ":"
  let body ← parts.block
  return .classDef ⟨place, title, arguments, above⟩ body

/-- A definition below its decorators. -/
def definition (parts : Parts) : Parser Stmt := do
  let above ← decorators parts.inner
  match (← peek) with
  | .keyword "class" => classStatement parts above
  | .keyword "async" =>
    skip
    function parts true above
  | _ => function parts false above

/-! ## Blocks -/

/-- One statement, or the statements of one line. -/
def statement (parts : Parts) : Parser (List Stmt) := do
  match (← peek), (← peekSecond) with
  | .keyword "if", _ => return [← conditional parts]
  | .keyword "while", _ => return [← loop parts]
  | .keyword "for", _ => return [← iteration parts false]
  | .keyword "with", _ => return [← resources parts false]
  | .keyword "try", _ => return [← attempted parts]
  | .keyword "def", _ => return [← definition parts]
  | .keyword "class", _ => return [← definition parts]
  | .symbol "@", _ => return [← definition parts]
  | .keyword "async", .keyword "def" => return [← definition parts]
  | .keyword "async", .keyword "for" =>
    skip
    return [← iteration parts true]
  | .keyword "async", .keyword "with" =>
    skip
    return [← resources parts true]
  | .name _ _, _ =>
    match (← attempt (selectionHead parts.inner)) with
    | some found => return [← selection parts found]
    | none => line parts.inner
  | _, _ => line parts.inner

/-- An indented block, or the statements of the same line. -/
def block (parts : Parts) : Parser (List Stmt) := do
  if (← accept .newline) then
    expect .indent
    let first ← statement parts
    let others ← many (notAt [.dedent]) (statement parts)
    expect .dedent
    return first ++ others.flatten
  else line parts.inner

/-- The parsers for blocks that nest fewer than `depth` levels deep. -/
def partsAt (inner : Inner) (pattern : Parser Pattern) : (depth : Nat) → Parts
  | 0 => ⟨inner, pattern, fail⟩
  | depth + 1 => ⟨inner, pattern, block (partsAt inner pattern depth)⟩

/-- All statements of a file. -/
def file (parts : Parts) : Parser (List Stmt) := do
  let found ← many (notAt [.finish]) (statement parts)
  return found.flatten

end Statement

/-- The statements that tokens make up, if they make up a file. -/
def statements? (nameOf : Text → Option Nat) (tokens : List Token) : Option (List Stmt) :=
  let depth := (tokens.map Token.levels).foldl (· + ·) 0 + 2
  let inner := grammar nameOf depth
  let parts := Statement.partsAt inner (Matching.patternAt inner depth) depth
  (((Statement.file parts).run tokens.zipIdx).map Prod.fst)

end SchemaDoc.Source
