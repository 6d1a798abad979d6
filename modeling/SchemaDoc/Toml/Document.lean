import SchemaDoc.Toml.Scalar

/-!
Contract: settings documents in TOML 1.0.

A document is read statement by statement into a draft: the entries so far, and what may no
longer be changed. A table that a header opened, or that a dotted key of an earlier section made,
is closed to headers and dotted keys; an inline table or array is frozen, with everything in it.
-/

namespace SchemaDoc.Toml

/-- A path of keys from the root of the document. -/
abbrev KeyPath := List Text

/-- The entries of a table. -/
abbrev Entries := List (Value × Value)

/-! ## Tables -/

/-- Changes the table at a path, making missing tables on the way. When arrays are `entered`, an
array of tables stands for its last table. -/
def changeAt (entered : Bool) (change : Entries → Option Entries) :
    KeyPath → Entries → Option Entries
  | [], entries => change entries
  | key :: rest, entries =>
    match Value.lookup? key entries with
    | none => do
      let inside ← changeAt entered change rest []
      return Value.assign key (.map inside) entries
    | some (.map inside) => do
      let inside ← changeAt entered change rest inside
      return Value.assign key (.map inside) entries
    | some (.list items) =>
      match entered, items.getLast? with
      | true, some (.map inside) => do
        let inside ← changeAt entered change rest inside
        return Value.assign key (.list (items.dropLast ++ [.map inside])) entries
      | _, _ => none
    | some _ => none

/-- Adds an entry with a new key. -/
def addEntry (key : Text) (value : Value) (entries : Entries) : Option Entries :=
  if (Value.lookup? key entries).isSome then none else some (Value.assign key value entries)

/-- Adds an empty table to the array of tables at a key. -/
def addTable (key : Text) (entries : Entries) : Option Entries :=
  match Value.lookup? key entries with
  | none => some (Value.assign key (.list [.map []]) entries)
  | some (.list items) => some (Value.assign key (.list (items ++ [.map []])) entries)
  | some _ => none

/-- The path lies in a frozen value. -/
def isFrozen (frozen : List KeyPath) (path : KeyPath) : Bool :=
  frozen.any (·.isPrefixOf path)

/-- Arrays and inline tables cannot be extended. -/
def isContainer : Value → Bool
  | .map _ => true
  | .list _ => true
  | _ => false

def require {α : Type} : Option α → Except Fault α
  | some value => .ok value
  | none => .error .malformed

/-! ## Keys -/

def isBareKeyChar (c : Char) : Bool := c.isAlphanum || c = '-' || c = '_'

/-- One part of a dotted key. -/
def keyPart : Text → Except Fault (Text × Text)
  | [] => .error .malformed
  | c :: rest =>
    if isBareKeyChar c then
      .ok ((c :: rest).takeWhile isBareKeyChar, (c :: rest).dropWhile isBareKeyChar)
    else lineString (c :: rest)

/-- A dotted key; white space may stand around its parts. -/
def keyPath : (fuel : Nat) → Text → Except Fault (KeyPath × Text)
  | 0, _ => .error .malformed
  | fuel + 1, text => do
    let (part, rest) ← keyPart text
    match skipSpaces rest with
    | '.' :: after => do
      let (parts, after) ← keyPath fuel (skipSpaces after)
      return (part :: parts, after)
    | after => return ([part], after)

def key (text : Text) : Except Fault (KeyPath × Text) := keyPath (text.length + 1) text

/-! ## Values -/

/-- The text after a comment, which ends before its line does. -/
def skipComment : Text → Except Fault Text
  | '#' :: rest =>
    let comment := rest.takeWhile (· != '\n')
    if comment.any isControl then .error .malformed else .ok (rest.drop comment.length)
  | text => .ok text

/-- The text after white space, line ends and comments. -/
def skipFiller : (fuel : Nat) → Text → Except Fault Text
  | 0, text => .ok text
  | fuel + 1, text =>
    match text.dropWhile isSpaceOrLineEnd with
    | '#' :: rest => do skipFiller fuel (← skipComment ('#' :: rest))
    | after => .ok after

mutual

/-- A value. -/
def value : (fuel : Nat) → Text → Except Fault (Value × Text)
  | 0, _ => .error .malformed
  | fuel + 1, text =>
    match text with
    | '[' :: rest => do
      let (items, rest) ← items fuel rest
      return (.list items, rest)
    | '\x7b' :: rest =>
      match skipSpaces rest with
      | '\x7d' :: after => .ok (.map [], after)
      | after => do
        let (entries, after) ← inlineEntries fuel [] [] after
        return (.map entries, after)
    | '\'' :: _ => do
      let (found, rest) ← string text
      return (.str found, rest)
    | '"' :: _ => do
      let (found, rest) ← string text
      return (.str found, rest)
    | 't' :: 'r' :: 'u' :: 'e' :: rest => .ok (.bool true, rest)
    | 'f' :: 'a' :: 'l' :: 's' :: 'e' :: rest => .ok (.bool false, rest)
    | _ =>
      match moment? text with
      | some (.ok (moment, rest)) => .ok (.moment moment, rest)
      | some (.error fault) => .error fault
      | none => number text

/-- The items of an array, from behind its opening bracket or a comma. -/
def items : (fuel : Nat) → Text → Except Fault (List Value × Text)
  | 0, _ => .error .malformed
  | fuel + 1, text => do
    match ← skipFiller (text.length + 1) text with
    | ']' :: rest => return ([], rest)
    | start => do
      let (item, rest) ← value fuel start
      match ← skipFiller (rest.length + 1) rest with
      | ']' :: after => return ([item], after)
      | ',' :: after => do
        let (others, after) ← items fuel after
        return (item :: others, after)
      | _ => throw .malformed

/-- The entries of an inline table, where `entries` stand before and `frozen` are the paths of its
containers. -/
def inlineEntries :
    (fuel : Nat) → (entries : Entries) → (frozen : List KeyPath) → Text →
      Except Fault (Entries × Text)
  | 0, _, _, _ => .error .malformed
  | fuel + 1, entries, frozen, text => do
    let (path, found, rest) ← keyAndValue fuel text
    if isFrozen frozen path then throw .malformed
    let entries ← require
      (changeAt false (addEntry (path.getLast?.getD []) found) path.dropLast entries)
    match skipSpaces rest with
    | '\x7d' :: after => return (entries, after)
    | ',' :: after =>
      inlineEntries fuel entries (if isContainer found then path :: frozen else frozen)
        (skipSpaces after)
    | _ => throw .malformed

/-- A key, the equals sign, and a value. -/
def keyAndValue : (fuel : Nat) → Text → Except Fault (KeyPath × Value × Text)
  | 0, _ => .error .malformed
  | fuel + 1, text => do
    let (path, rest) ← key text
    match rest with
    | '=' :: after => do
      let (found, after) ← value fuel (skipSpaces after)
      return (path, found, after)
    | _ => throw .malformed

end

/-! ## Statements -/

/-- A document read so far. -/
structure Draft where
  entries : Entries
  /-- Tables that no header and no dotted key may open. -/
  closed : List KeyPath
  /-- Tables that dotted keys of this section made; the next header closes them. -/
  pending : List KeyPath
  frozen : List KeyPath
  /-- The table that key-value pairs go into. -/
  header : KeyPath

namespace Draft

def empty : Draft := ⟨[], [], [], [], []⟩

/-- The tables on the way to the last part of a dotted key. -/
def between (header : KeyPath) (path : KeyPath) : List KeyPath :=
  (List.range path.length).tail.map fun count => header ++ path.take count

/-- Adds a key-value pair to the current table. -/
def define (draft : Draft) (path : KeyPath) (value : Value) : Except Fault Draft := do
  let passed := between draft.header path
  if passed.any draft.closed.contains then throw .malformed
  let table := draft.header ++ path.dropLast
  if isFrozen draft.frozen table then throw .malformed
  let entries ← require
    (changeAt true (addEntry (path.getLast?.getD []) value) table draft.entries)
  return { draft with
    entries
    pending := passed ++ draft.pending
    frozen := if isContainer value then (draft.header ++ path) :: draft.frozen else draft.frozen }

/-- The draft at a header: what the section before it made by dotted keys is closed. -/
def closePending (draft : Draft) : Draft :=
  { draft with closed := draft.pending ++ draft.closed, pending := [] }

/-- Opens a table by its header. -/
def openTable (draft : Draft) (path : KeyPath) : Except Fault Draft := do
  if draft.closed.contains path || isFrozen draft.frozen path then throw .malformed
  let entries ← require (changeAt true some path draft.entries)
  return { draft with entries, closed := path :: draft.closed, header := path }

/-- Opens a further table of an array by its header; below it everything may be defined anew. -/
def openItem (draft : Draft) (path : KeyPath) : Except Fault Draft := do
  if isFrozen draft.frozen path then throw .malformed
  let entries ← require
    (changeAt true (addTable (path.getLast?.getD [])) path.dropLast draft.entries)
  let beside := fun (other : KeyPath) => !path.isPrefixOf other
  return { draft with
    entries
    closed := path :: draft.closed.filter beside
    frozen := draft.frozen.filter beside
    header := path }

/-- Reads one statement. -/
def statement (draft : Draft) (text : Text) : Except Fault (Draft × Text) := do
  match text with
  | '[' :: '[' :: rest => do
    let (path, rest) ← key (skipSpaces rest)
    let draft ← draft.closePending.openItem path
    match rest with
    | ']' :: ']' :: after => return (draft, skipSpaces after)
    | _ => throw .malformed
  | '[' :: rest => do
    let (path, rest) ← key (skipSpaces rest)
    let draft ← draft.closePending.openTable path
    match rest with
    | ']' :: after => return (draft, skipSpaces after)
    | _ => throw .malformed
  | '#' :: _ => return (draft, text)
  | _ => do
    let (path, found, rest) ← keyAndValue (text.length + 1) text
    let draft ← draft.define path found
    return (draft, skipSpaces rest)

/-- Reads the statements of a text, one a line. -/
def statements : (fuel : Nat) → Draft → Text → Except Fault Draft
  | 0, draft, _ => .ok draft
  | fuel + 1, draft, text =>
    match skipSpaces text with
    | [] => .ok draft
    | '\n' :: rest => statements fuel draft rest
    | start => do
      let (draft, rest) ← draft.statement start
      match ← skipComment rest with
      | [] => return draft
      | '\n' :: after => statements fuel draft after
      | _ => throw .malformed

end Draft

/-- The text with each carriage return dropped that stands before a line feed. -/
def unifyLineEnds : Text → Text
  | '\r' :: '\n' :: rest => '\n' :: unifyLineEnds rest
  | c :: rest => c :: unifyLineEnds rest
  | [] => []

/-- The entries of a document. -/
def parse (text : Text) : Except Fault Entries := do
  let text := unifyLineEnds text
  let draft ← Draft.statements (text.length + 1) Draft.empty text
  return draft.entries

end SchemaDoc.Toml
