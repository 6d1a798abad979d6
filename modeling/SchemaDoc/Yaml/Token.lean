import SchemaDoc.Encoding.Codec
import SchemaDoc.Yaml.Style

/-!
Contract: the tokens of a YAML 1.1 text.

Nesting by indentation is made explicit: a block collection is opened by its first indicator and
closed where the indentation falls back. A key without an indicator of its own is recognised by
the colon behind it; `Lexer.keys` remembers, for each level of flow collections, where such a key
may have started.
-/

namespace SchemaDoc.Yaml

inductive Token where
  | versionDirective (major : Nat)
  | tagDirective (handle expansion : Text)
  | otherDirective
  | documentStart
  | documentEnd
  | blockSequenceStart
  | blockMappingStart
  | blockEnd
  | flowSequenceStart
  | flowSequenceEnd
  | flowMappingStart
  | flowMappingEnd
  | blockEntry
  | flowEntry
  | key
  | value
  | reference (name : Text)
  | anchor (name : Text)
  /-- A tag without a handle is complete. -/
  | tag (handle : Option Text) (suffix : Text)
  | scalar (text : Text) (isPlain : Bool)
deriving DecidableEq, Repr

/-- Where a key may have started: the count of tokens before it, whether it must be one, and its
place. -/
structure KeyPlace where
  tokens : Nat
  required : Bool
  index : Nat
  line : Nat
  column : Nat
deriving Repr

structure Lexer where
  cursor : Cursor
  tokens : List Token
  /-- The column of the innermost block collection, or minus one. -/
  indent : Int
  outerIndents : List Int
  /-- How many flow collections are open. -/
  flowLevel : Nat
  keyAllowed : Bool
  keys : List (Nat × KeyPlace)

namespace Lexer

def start (text : Text) : Lexer := ⟨Cursor.start text, [], -1, [], 0, true, []⟩

def inFlow (lexer : Lexer) : Bool := lexer.flowLevel > 0

def push (token : Token) (lexer : Lexer) : Lexer :=
  { lexer with tokens := lexer.tokens ++ [token] }

/-- A token put in after the first `count` ones. -/
def insert (count : Nat) (token : Token) (lexer : Lexer) : Lexer :=
  { lexer with tokens := lexer.tokens.take count ++ token :: lexer.tokens.drop count }

def moveTo (cursor : Cursor) (lexer : Lexer) : Lexer := { lexer with cursor }

def allowKey (allowed : Bool) (lexer : Lexer) : Lexer := { lexer with keyAllowed := allowed }

/-! ## Possible keys -/

/-- Forgets the possible key of the current level; a required one must not be lost. -/
def dropKey (lexer : Lexer) : Except Fault Lexer :=
  match lexer.keys.lookup lexer.flowLevel with
  | some place =>
    if place.required then .error .malformed
    else .ok { lexer with keys := lexer.keys.filter (·.1 != lexer.flowLevel) }
  | none => .ok lexer

/-- Forgets possible keys that started on an earlier line or too far back. -/
def dropStaleKeys (lexer : Lexer) : Except Fault Lexer :=
  let isStale (place : KeyPlace) : Bool :=
    place.line != lexer.cursor.line || lexer.cursor.index - place.index > 1024
  if lexer.keys.any fun entry => isStale entry.2 && entry.2.required then .error .malformed
  else .ok { lexer with keys := lexer.keys.filter fun entry => !isStale entry.2 }

/-- Remembers that the next token may be a key. -/
def saveKey (lexer : Lexer) : Except Fault Lexer := do
  if lexer.keyAllowed then
    let cleared ← lexer.dropKey
    let place : KeyPlace :=
      { tokens := lexer.tokens.length
        required := !lexer.inFlow && lexer.indent = Int.ofNat lexer.cursor.column
        index := lexer.cursor.index
        line := lexer.cursor.line
        column := lexer.cursor.column }
    return { cleared with keys := (lexer.flowLevel, place) :: cleared.keys }
  return lexer

/-! ## Indentation -/

/-- Closes the block collections that are indented further than a column. -/
def closeBlocks (column : Int) : (outer : List Int) → Lexer → Lexer
  | outer, lexer =>
    if lexer.inFlow || lexer.indent ≤ column then { lexer with outerIndents := outer }
    else
      match outer with
      | [] => { lexer with outerIndents := [] }
      | indent :: rest => closeBlocks column rest ({ lexer with indent }.push .blockEnd)

def unwind (column : Int) (lexer : Lexer) : Lexer :=
  lexer.closeBlocks column lexer.outerIndents

/-- Opens a block collection at a column that lies further in, with its token put in after the
first `count` ones. -/
def openBlock (column : Nat) (count : Nat) (token : Token) (lexer : Lexer) : Lexer :=
  if lexer.indent < Int.ofNat column then
    { lexer with
      indent := Int.ofNat column
      outerIndents := lexer.indent :: lexer.outerIndents }.insert count token
  else lexer

/-! ## Words of tokens -/

def isNameChar (c : Char) : Bool := c.isAlphanum || c = '-' || c = '_'

def isAddressChar (c : Char) : Bool :=
  c.isAlphanum || "-;/?:@&=+$,_.!~*'()[]%".toList.contains c

/-- The name behind the mark of an anchor or an alias. -/
def anchorName (cursor : Cursor) : Except Fault (Text × Cursor) :=
  let (name, after) := cursor.advance.takeWhile isNameChar
  let ends := endsWord after.next? ||
    after.next?.any fun c => "?:,]\x7d%@`".toList.contains c
  if name.isEmpty || !ends then .error .malformed else .ok (name, after)

/-- The bytes of escapes in an address. -/
def addressBytes : Text → Except Fault (List UInt8)
  | '%' :: a :: b :: rest =>
    if Text.isDigitOf 16 a && Text.isDigitOf 16 b then do
      let others ← addressBytes rest
      return UInt8.ofNat (Text.ofDigits 16 [a, b]) :: others
    else .error .malformed
  | '%' :: _ => .error .malformed
  | _ => .ok []

/-- The text of an address: runs of escapes are the bytes of a text in UTF-8. -/
def addressText : (fuel : Nat) → Text → Except Fault Text
  | 0, text => .ok text
  | fuel + 1, text =>
    match text with
    | [] => .ok []
    | '%' :: _ => do
      let stored ← addressBytes text
      match Encoding.decodeUtf8 stored with
      | some found =>
        let others ← addressText fuel (text.drop (3 * stored.length))
        return found ++ others
      | none => throw .malformed
    | c :: rest => do
      let others ← addressText fuel rest
      return c :: others

def address (cursor : Cursor) : Except Fault (Text × Cursor) := do
  let (written, after) := cursor.takeWhile isAddressChar
  if written.isEmpty then throw .malformed
  return (← addressText (written.length + 1) written, after)

/-- A tag handle: an exclamation mark, or a name between two. -/
def tagHandle (cursor : Cursor) : Except Fault (Text × Cursor) :=
  if cursor.next? != some '!' then .error .malformed
  else
    let (name, after) := cursor.advance.takeWhile isNameChar
    if name.isEmpty && after.next? = some ' ' then .ok (['!'], after)
    else if after.next? = some '!' then .ok ('!' :: name ++ ['!'], after.advance)
    else .error .malformed

/-- A tag, from its exclamation mark on. -/
def tag (cursor : Cursor) : Except Fault (Token × Cursor) := do
  let (token, after) ←
    if cursor.peek? 1 = some '<' then do
      let (name, after) ← address (cursor.skip 2)
      if after.next? != some '>' then throw .malformed
      pure (Token.tag none name, after.advance)
    else if endsWord (cursor.peek? 1) then pure (Token.tag none ['!'], cursor.advance)
    else do
      let word := (cursor.rest.drop 1).takeWhile fun c => !endsField (some c)
      let (handle, after) ←
        if word.contains '!' then tagHandle cursor else pure (['!'], cursor.advance)
      let (suffix, after) ← address after
      pure (Token.tag (some handle) suffix, after)
  if endsField after.next? then return (token, after)
  throw .malformed

def versionNumber (cursor : Cursor) : Except Fault (Nat × Cursor) :=
  let (digits, after) := cursor.takeWhile Char.isDigit
  if digits.isEmpty then .error .malformed else .ok (Text.ofDigits 10 digits, after)

/-- A directive, from its percent sign on. -/
def directive (cursor : Cursor) : Except Fault (Token × Cursor) := do
  let (name, after) := cursor.advance.takeWhile isNameChar
  if name.isEmpty || !endsField after.next? then throw .malformed
  let (token, after) ←
    if name = "YAML".toList then do
      let (major, after) ← versionNumber (after.skipWhile (· = ' '))
      if after.next? != some '.' then throw .malformed
      let (_, after) ← versionNumber after.advance
      if !endsField after.next? then throw .malformed
      pure (Token.versionDirective major, after)
    else if name = "TAG".toList then do
      let (handle, after) ← tagHandle (after.skipWhile (· = ' '))
      if after.next? != some ' ' then throw .malformed
      let (expansion, after) ← address (after.skipWhile (· = ' '))
      if !endsField after.next? then throw .malformed
      pure (Token.tagDirective handle expansion, after)
    else pure (Token.otherDirective, after.skipWhile fun c => !endsLine c)
  return (token, ← after.skipLineRest)

/-! ## Steps -/

/-- Skips spaces, comments and line ends; a new line outside flow collections may start a key. -/
def skipFiller : (fuel : Nat) → Lexer → Lexer
  | 0, lexer => lexer
  | fuel + 1, lexer =>
    let cursor := lexer.cursor.skipWhile (· = ' ')
    let cursor := if cursor.next? = some '#' then cursor.skipWhile fun c => !endsLine c else cursor
    match cursor.lineEnd? with
    | some (_, after) =>
      skipFiller fuel
        { lexer with cursor := after, keyAllowed := lexer.keyAllowed || !lexer.inFlow }
    | none => lexer.moveTo cursor

/-- A single character that is a token of its own. -/
def pushMark (token : Token) (lexer : Lexer) : Lexer :=
  (lexer.moveTo lexer.cursor.advance).push token

/-- The mark of the start or end of a document. -/
def documentMark (token : Token) (lexer : Lexer) : Except Fault Lexer := do
  let lexer ← (lexer.unwind (-1)).dropKey
  return ((lexer.allowKey false).moveTo (lexer.cursor.skip 3)).push token

def directiveLine (lexer : Lexer) : Except Fault Lexer := do
  let lexer ← (lexer.unwind (-1)).dropKey
  let (token, cursor) ← directive lexer.cursor
  return ((lexer.allowKey false).moveTo cursor).push token

def flowStart (token : Token) (lexer : Lexer) : Except Fault Lexer := do
  let lexer ← lexer.saveKey
  return ({ lexer with flowLevel := lexer.flowLevel + 1 }.allowKey true).pushMark token

/-- The end of a flow collection; there must be one to end. -/
def flowEnd (token : Token) (lexer : Lexer) : Except Fault Lexer := do
  if !lexer.inFlow then throw .malformed
  let lexer ← lexer.dropKey
  return ({ lexer with flowLevel := lexer.flowLevel - 1 }.allowKey false).pushMark token

def flowEntry (lexer : Lexer) : Except Fault Lexer := do
  return (← (lexer.allowKey true).dropKey).pushMark .flowEntry

/-- An item of a block sequence. -/
def blockEntry (lexer : Lexer) : Except Fault Lexer := do
  if !lexer.inFlow && !lexer.keyAllowed then throw .malformed
  let lexer :=
    if lexer.inFlow then lexer
    else lexer.openBlock lexer.cursor.column lexer.tokens.length .blockSequenceStart
  return (← (lexer.allowKey true).dropKey).pushMark .blockEntry

/-- A key with an indicator of its own. -/
def explicitKey (lexer : Lexer) : Except Fault Lexer := do
  if !lexer.inFlow && !lexer.keyAllowed then throw .malformed
  let lexer :=
    if lexer.inFlow then lexer
    else lexer.openBlock lexer.cursor.column lexer.tokens.length .blockMappingStart
  return (← (lexer.allowKey (!lexer.inFlow)).dropKey).pushMark .key

/-- The colon before a value; a possible key becomes one. -/
def value (lexer : Lexer) : Except Fault Lexer := do
  match lexer.keys.lookup lexer.flowLevel with
  | some place =>
    let lexer := { lexer with keys := lexer.keys.filter (·.1 != lexer.flowLevel) }
    let lexer := lexer.insert place.tokens .key
    let lexer :=
      if lexer.inFlow then lexer
      else lexer.openBlock place.column place.tokens .blockMappingStart
    return (lexer.allowKey false).pushMark .value
  | none =>
    if !lexer.inFlow && !lexer.keyAllowed then throw .malformed
    let lexer :=
      if lexer.inFlow then lexer
      else lexer.openBlock lexer.cursor.column lexer.tokens.length .blockMappingStart
    return (← (lexer.allowKey (!lexer.inFlow)).dropKey).pushMark .value

/-- A token that may start a key. -/
def wordToken (read : Cursor → Except Fault (Token × Cursor)) (lexer : Lexer) :
    Except Fault Lexer := do
  let lexer ← lexer.saveKey
  let (token, cursor) ← read lexer.cursor
  return ((lexer.allowKey false).moveTo cursor).push token

def plain (lexer : Lexer) : Except Fault Lexer := do
  let lexer ← lexer.saveKey
  let (text, newLine, cursor) := plainScalar lexer.inFlow lexer.indent lexer.cursor
  return ((lexer.allowKey newLine).moveTo cursor).push (.scalar text true)

def block (lexer : Lexer) : Except Fault Lexer := do
  let lexer ← (lexer.allowKey true).dropKey
  let (text, cursor) ← blockScalar lexer.indent lexer.cursor
  return (lexer.moveTo cursor).push (.scalar text false)

/-- A plain scalar may start here. -/
def opensPlain (inFlow : Bool) (cursor : Cursor) : Bool :=
  match cursor.next? with
  | none => false
  | some c =>
    if endsWord (some c) then false
    else if c = '-' then !endsWord (cursor.peek? 1)
    else if c = '?' || c = ':' then !inFlow && !endsWord (cursor.peek? 1)
    else !(",[]\x7b\x7d#&*!|>'\"%@`".toList.contains c)

/-- Reads the token that a character starts. -/
def token (c : Char) (lexer : Lexer) : Except Fault Lexer :=
  let cursor := lexer.cursor
  let indicator := endsWord (cursor.peek? 1)
  if c = '%' && cursor.column = 0 then lexer.directiveLine
  else if cursor.column = 0 && cursor.opensMark '-' then lexer.documentMark .documentStart
  else if cursor.column = 0 && cursor.opensMark '.' then lexer.documentMark .documentEnd
  else if c = '[' then lexer.flowStart .flowSequenceStart
  else if c = '\x7b' then lexer.flowStart .flowMappingStart
  else if c = ']' then lexer.flowEnd .flowSequenceEnd
  else if c = '\x7d' then lexer.flowEnd .flowMappingEnd
  else if c = ',' then lexer.flowEntry
  else if c = '-' && indicator then lexer.blockEntry
  else if c = '?' && (lexer.inFlow || indicator) then lexer.explicitKey
  else if c = ':' && (lexer.inFlow || indicator) then lexer.value
  else if c = '*' then
    lexer.wordToken fun cursor => do
      let (name, after) ← anchorName cursor
      return (.reference name, after)
  else if c = '&' then
    lexer.wordToken fun cursor => do
      let (name, after) ← anchorName cursor
      return (.anchor name, after)
  else if c = '!' then lexer.wordToken tag
  else if (c = '|' || c = '>') && !lexer.inFlow then lexer.block
  else if c = '\'' || c = '"' then
    lexer.wordToken fun cursor => do
      let (text, after) ← quotedScalar c cursor
      return (.scalar text false, after)
  else if opensPlain lexer.inFlow cursor then lexer.plain
  else .error .malformed

/-- Reads tokens up to the end of the text. -/
def run : (fuel : Nat) → Lexer → Except Fault (List Token)
  | 0, _ => .error .malformed
  | fuel + 1, lexer => do
    let lexer ← (lexer.skipFiller (lexer.cursor.rest.length + 1)).dropStaleKeys
    let lexer := lexer.unwind (Int.ofNat lexer.cursor.column)
    match lexer.cursor.next? with
    | none =>
      let lexer ← (lexer.unwind (-1)).dropKey
      return lexer.tokens
    | some c => do run fuel (← lexer.token c)

end Lexer

/-- The character may stand in a text. -/
def isAllowed (c : Char) : Bool :=
  let code := c.toNat
  code = 9 || code = 10 || code = 13 || (0x20 ≤ code && code ≤ 0x7E) || code = 0x85 ||
    (0xA0 ≤ code && code ≤ 0xD7FF) || (0xE000 ≤ code && code ≤ 0xFFFD) || 0x10000 ≤ code

/-- The tokens of a text; a byte order mark at its start is passed over. -/
def tokens (text : Text) : Except Fault (List Token) :=
  if !text.all isAllowed then .error .malformed
  else
    let lexer := Lexer.start text
    let lexer :=
      if lexer.cursor.next?.any (·.toNat = 0xFEFF) then lexer.moveTo lexer.cursor.advance
      else lexer
    lexer.run (text.length + 2)

end SchemaDoc.Yaml
