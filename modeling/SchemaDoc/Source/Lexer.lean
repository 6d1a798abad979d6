import SchemaDoc.Source.Number
import SchemaDoc.Source.Token
import SchemaDoc.Text.Compatibility
import SchemaDoc.Text.Identifier

/-!
Contract: from the text of a source file to its tokens.

Owns:
- the reading of line ends, which makes one line feed of each;
- indentation: what counts as deeper, what must match, and what blank lines do;
- names, numbers, strings and symbols.

Inside brackets neither line ends nor indentation give tokens. Each token knows the line on which
it starts, counted from one.
-/

namespace SchemaDoc.Source

/-- Line ends as line feeds, and one at the very end. A text that ends in a carriage return and
a line feed gets one line feed more. -/
def normalizeLineEnds : Text → Text
  | [] => ['\n']
  | ['\n'] => ['\n']
  | ['\r'] => ['\n']
  | ['\r', '\n'] => ['\n', '\n']
  | '\r' :: '\n' :: rest => '\n' :: normalizeLineEnds rest
  | '\r' :: rest => '\n' :: normalizeLineEnds rest
  | c :: rest => c :: normalizeLineEnds rest

namespace Lexer

/-- The character can open a name. -/
def isNameStart (c : Char) : Bool :=
  c.isAlpha || c = '_' || c.toNat ≥ 128

/-- The blanks between tokens. -/
def isGap (c : Char) : Bool :=
  c = ' ' || c = '\t' || c = '\x0c'

/-! ## Indentation -/

/-- The white space measured at the start of a line. Tabs reach the next multiple of eight in
`column`, and count as one in `narrow`; the two must agree on what is deeper. -/
structure Margin where
  column : Nat
  narrow : Nat
  /-- The column at the first line continuation, if it is not zero. -/
  held : Nat
  /-- The lines passed by continuations. -/
  passed : Nat
  rest : Text

/-- Measures the white space at the start of a line. A form feed starts again at zero; a
continuation must be followed by a line. -/
def measure (column narrow held passed : Nat) : Text → Option Margin
  | ' ' :: rest => measure (column + 1) (narrow + 1) held passed rest
  | '\t' :: rest => measure ((column / 8 + 1) * 8) (narrow + 1) held passed rest
  | '\x0c' :: rest => measure 0 0 held passed rest
  | '\\' :: '\n' :: rest =>
    if rest.isEmpty then none
    else measure column narrow (if held = 0 then column else held) (passed + 1) rest
  | '\\' :: _ => none
  | rest => some ⟨column, narrow, held, passed, rest⟩

/-- The open indentations, innermost first; the margin zero lies below them. -/
abbrev Indents := List (Nat × Nat)

/-- Closes the indentations that are deeper than a column. -/
def closeDeeper (column : Nat) : Indents → Nat × Indents
  | [] => (0, [])
  | (open_, narrow) :: outer =>
    if column < open_ then
      let (closed, left) := closeDeeper column outer
      (closed + 1, left)
    else (0, (open_, narrow) :: outer)

/-- The tokens that a line's indentation gives, and the indentations open after it. -/
def reindent (column narrow : Nat) (indents : Indents) : Option (List Token × Indents) :=
  let (current, currentNarrow) := indents.headD (0, 0)
  if column = current then
    if narrow = currentNarrow then some ([], indents) else none
  else if column > current then
    if indents.length ≥ 99 || narrow ≤ currentNarrow then none
    else some ([.indent], (column, narrow) :: indents)
  else
    let (closed, left) := closeDeeper column indents
    if left.headD (0, 0) = (column, narrow) then some (List.replicate closed .dedent, left)
    else none

/-! ## Names and strings -/

/-- The end of a string in single quotes: its body and what follows. -/
def closeQuote (quote : Char) : Text → Option (Text × Text)
  | [] => none
  | '\\' :: c :: rest =>
    (closeQuote quote rest).map fun (body, after) => ('\\' :: c :: body, after)
  | c :: rest =>
    if c = quote then some ([], rest)
    else if c = '\n' || c = '\\' then none
    else (closeQuote quote rest).map fun (body, after) => (c :: body, after)

/-- The end of a string in triple quotes: its body and what follows. -/
def closeTriple (quote : Char) : Text → Option (Text × Text)
  | [] => none
  | '\\' :: c :: rest =>
    (closeTriple quote rest).map fun (body, after) => ('\\' :: c :: body, after)
  | c :: rest =>
    if c = quote && rest.take 2 = [quote, quote] then some ([], rest.drop 2)
    else if c = '\\' then none
    else (closeTriple quote rest).map fun (body, after) => (c :: body, after)

/-- The body of a string, read from behind its first quote. -/
def stringBody (quote : Char) (text : Text) : Option (Text × Text) :=
  if text.take 2 = [quote, quote] then closeTriple quote (text.drop 2)
  else closeQuote quote text

/-- The letters that may stand before a string's quote. -/
def stringMarks : List Text :=
  [[], ['b'], ['u'], ['r'], ['f'], ['b', 'r'], ['r', 'b'], ['f', 'r'], ['r', 'f']]

/-- The marks and the quote of a string that opens the text, and what follows the quote. -/
def stringOpening? (text : Text) : Option (Text × Char × Text) :=
  let marks := (text.takeWhile Char.isAlpha).map Char.toLower
  if stringMarks.contains marks then
    match text.drop marks.length with
    | c :: rest => if c = '\'' || c = '"' then some (marks, c, rest) else none
    | [] => none
  else none

/-- The string token that opens the text, if a string does. -/
def string? (text : Text) : Option (Option (Token × Text)) :=
  match stringOpening? text with
  | none => none
  | some (marks, quote, rest) =>
    some <| (stringBody quote rest).map fun (body, after) =>
      (.string ⟨marks.contains 'b', marks.contains 'r', marks.contains 'f', body⟩, after)

/-- The name or reserved word at the start of a text. -/
def word (text : Text) : Option (Token × Text) :=
  let written := text.takeWhile Number.isNamePart
  let after := text.drop written.length
  if written.all (·.toNat < 128) then
    let spelling := String.ofList written
    if keywords.contains spelling then some (.keyword spelling, after)
    else some (.name written true, after)
  else if Text.isIdentifier written then
    some (.name (Text.normalizeIdentifier written) false, after)
  else none

/-- The symbol at the start of a text. -/
def symbol (text : Text) : Option (String × Text) :=
  if "<>".toList.isPrefixOf text then none
  else
    match symbols.find? (fun symbol => symbol.toList.isPrefixOf text) with
    | some symbol => some (symbol, text.drop symbol.length)
    | none => none

/-- The opening bracket that a closing one needs. -/
def opener? : String → Option String
  | ")" => some "("
  | "]" => some "["
  | "\x7d" => some "\x7b"
  | _ => none

/-- The brackets open after a symbol, innermost first; at most two hundred may be open. -/
def bracket (opened : List String) (symbol : String) : Option (List String) :=
  if symbol = "(" || symbol = "[" || symbol = "\x7b" then
    if opened.length ≥ 200 then none else some (symbol :: opened)
  else
    match opener? symbol with
    | none => some opened
    | some opener =>
      match opened with
      | last :: outer => if last = opener then some outer else none
      | [] => none

/-- A number starts with a digit, or with a point and a digit. -/
def opensNumber (c : Char) (rest : Text) : Bool :=
  c.isDigit || (c = '.' && (rest.head?.map Char.isDigit).getD false)

/-- The token at the start of a text that no string opens, and the brackets open after it. -/
def plainLexeme (opened : List String) : Text → Option (Token × Text × List String)
  | [] => none
  | c :: rest =>
    if isNameStart c then
      (word (c :: rest)).map fun (token, after) => (token, after, opened)
    else if opensNumber c rest then
      (Number.scan (c :: rest)).map fun (literal, after) => (.number literal, after, opened)
    else
      (symbol (c :: rest)).bind fun (found, after) =>
        (bracket opened found).map fun opened => (.symbol found, after, opened)

/-- The token at the start of a text that opens with neither a gap nor a line end, and the
brackets open after it. -/
def lexeme (opened : List String) (text : Text) : Option (Token × Text × List String) :=
  match string? text with
  | some found => found.map fun (token, after) => (token, after, opened)
  | none => plainLexeme opened text

/-! ## The whole text -/

structure State where
  /-- The text starts a line whose indentation is not read yet. -/
  fresh : Bool
  indents : Indents
  opened : List String

/-- Where the reading of a text starts. -/
def State.start : State := ⟨true, [], []⟩

/-- What one step of reading gives. -/
inductive Move where
  /-- Tokens, the line ends passed in front of them and behind them, and how to go on. -/
  | goOn (tokens : List Token) (before behind : Nat) (next : State) (rest : Text)
  /-- The text is read to its end. -/
  | finish

/-- The line ends inside a token. -/
def linesInside : Token → Nat
  | .string token => token.body.count '\n'
  | _ => 0

/-- The text behind its first line end. -/
def behindLine (text : Text) : Text :=
  (text.dropWhile (· != '\n')).drop 1

/-- Reads on behind the white space at the start of a line. A line without tokens is passed over;
any other one gives the tokens of its indentation, unless brackets are open. -/
def startLine (state : State) (margin : Margin) : Option Move :=
  if margin.rest.head? = some '#' || margin.rest.head? = some '\n' then
    some (.goOn [] margin.passed 1 state (behindLine margin.rest))
  else if state.opened.isEmpty then
    let column := if margin.held = 0 then margin.column else margin.held
    let narrow := if margin.held = 0 then margin.narrow else margin.held
    (reindent column narrow state.indents).map fun (tokens, indents) =>
      .goOn tokens margin.passed 0 { state with fresh := false, indents } margin.rest
  else some (.goOn [] margin.passed 0 { state with fresh := false } margin.rest)

/-- Reads on inside a line, behind the gap that may come first. -/
def insideLine (state : State) : Text → Option Move
  | [] => if state.opened.isEmpty then some .finish else none
  | '#' :: rest => some (.goOn [] 0 0 state (rest.dropWhile (· != '\n')))
  | '\n' :: rest =>
    some (.goOn (if state.opened.isEmpty then [.newline] else []) 0 1 { state with fresh := true }
      rest)
  | '\\' :: rest =>
    match rest with
    | '\n' :: after => if after.isEmpty then none else some (.goOn [] 0 1 state after)
    | _ => none
  | text =>
    (lexeme state.opened text).map fun (token, after, opened) =>
      .goOn [token] 0 (linesInside token) { state with opened } after

/-- One step of reading. -/
def step (state : State) (text : Text) : Option Move :=
  if state.fresh then (measure 0 0 0 0 text).bind (startLine state)
  else insideLine state (text.dropWhile isGap)

/-- The tokens of the rest of a text that goes on at a line; `fuel` bounds the number of steps. -/
def tokensFrom : (fuel line : Nat) → State → Text → Option (List PlacedToken)
  | 0, _, _, _ => none
  | fuel + 1, line, state, text =>
    match step state text with
    | none => none
    | some .finish => some [⟨.finish, line⟩]
    | some (.goOn found before behind next rest) =>
      (tokensFrom fuel (line + before + behind) next rest).map
        (found.map (⟨·, line + before⟩) ++ ·)

end Lexer

/-- The tokens of a source text, if its lines can be read. -/
def tokens (source : Text) : Option (List PlacedToken) :=
  let text := normalizeLineEnds source
  Lexer.tokensFrom (2 * text.length + 2) 1 .start text

end SchemaDoc.Source
