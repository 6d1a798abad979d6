import SchemaDoc.Text.Basic

/-!
Contract: places in a YAML 1.1 text, and the errors of reading one.

A cursor holds the text that is left and knows its line and column, counted from zero. Line
feeds, next-line characters and the two Unicode separators end a line; the byte order mark takes
no column.
-/

namespace SchemaDoc.Yaml

/-- Why a text gives no value. -/
inductive Fault where
  /-- The text is no document, or a node does not fit its tag. -/
  | malformed
  /-- A number or a moment is out of range. -/
  | outOfRange
  /-- A node tagged as a truth value holds another word. -/
  | unknownTruth
  /-- A node tagged as a number is empty. -/
  | emptyNumber
  /-- A node tagged as a moment holds none. -/
  | noMoment
  /-- A collection holds itself. -/
  | endless
deriving DecidableEq, Repr

def endsLine (c : Char) : Bool :=
  c = '\n' || c.toNat = 0x85 || c.toNat = 0x2028 || c.toNat = 0x2029

def isSpace (c : Char) : Bool := c = ' ' || c = '\t'

/-- The end of the text, a line end or white space: what may follow an indicator. -/
def endsWord : Option Char → Bool
  | none => true
  | some c => isSpace c || endsLine c

/-- The end of the text, a line end or a space. -/
def endsField : Option Char → Bool
  | none => true
  | some c => c = ' ' || endsLine c

structure Cursor where
  rest : Text
  index : Nat
  line : Nat
  column : Nat
deriving Repr

namespace Cursor

def start (text : Text) : Cursor := ⟨text, 0, 0, 0⟩

/-- The next character. -/
def next? (cursor : Cursor) : Option Char := cursor.rest.head?

/-- The character after the next `count` ones. -/
def peek? (cursor : Cursor) (count : Nat) : Option Char := cursor.rest[count]?

/-- The cursor one character further. -/
def advance (cursor : Cursor) : Cursor :=
  match cursor.rest with
  | [] => cursor
  | c :: rest =>
    if endsLine c then ⟨rest, cursor.index + 1, cursor.line + 1, 0⟩
    else if c.toNat = 0xFEFF then ⟨rest, cursor.index + 1, cursor.line, cursor.column⟩
    else ⟨rest, cursor.index + 1, cursor.line, cursor.column + 1⟩

/-- The cursor a number of characters further. -/
def skip : Nat → Cursor → Cursor
  | 0, cursor => cursor
  | count + 1, cursor => skip count cursor.advance

/-- The characters from here on that fulfil a condition, and the cursor behind them. -/
def takeWhile (condition : Char → Bool) (cursor : Cursor) : Text × Cursor :=
  let taken := cursor.rest.takeWhile condition
  (taken, cursor.skip taken.length)

/-- The cursor behind characters that fulfil a condition. -/
def skipWhile (condition : Char → Bool) (cursor : Cursor) : Cursor :=
  (cursor.takeWhile condition).2

/-- The line end at the cursor, as it is kept in texts, and the cursor behind it. -/
def lineEnd? (cursor : Cursor) : Option (Char × Cursor) :=
  match cursor.next? with
  | some c =>
    if c = '\n' || c.toNat = 0x85 then some ('\n', cursor.advance)
    else if endsLine c then some (c, cursor.advance)
    else none
  | none => none

/-- The cursor stands before three given characters and the end of a word. -/
def opensMark (mark : Char) (cursor : Cursor) : Bool :=
  [mark, mark, mark].isPrefixOf cursor.rest && endsWord (cursor.peek? 3)

/-- The cursor stands before the mark that starts or ends a document. -/
def opensDocumentMark (cursor : Cursor) : Bool :=
  cursor.opensMark '-' || cursor.opensMark '.'

/-- The cursor behind spaces and a comment, which must fill the line, and behind its end. -/
def skipLineRest (cursor : Cursor) : Except Fault Cursor :=
  let cursor := cursor.skipWhile (· = ' ')
  let cursor := if cursor.next? = some '#' then cursor.skipWhile fun c => !endsLine c else cursor
  match cursor.next?, cursor.lineEnd? with
  | none, _ => .ok cursor
  | some _, some (_, after) => .ok after
  | some _, none => .error .malformed

end Cursor

end SchemaDoc.Yaml
