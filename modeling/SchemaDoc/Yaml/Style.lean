import SchemaDoc.Text.CodeRanges
import SchemaDoc.Yaml.Cursor

/-!
Contract: the styles in which YAML 1.1 writes a scalar.

Owns:
- quoted scalars with their escapes, where a line end is folded to a space and further line ends
  are kept;
- block scalars, literal and folded, with their indentation and what is kept of their end;
- plain scalars, which end before a comment, a mapping indicator or a lesser indentation.
-/

namespace SchemaDoc.Yaml

/-! ## Quoted scalars -/

/-- The characters of escapes of one letter. -/
def escapes : List (Char × Nat) :=
  [('0', 0), ('a', 7), ('b', 8), ('t', 9), ('\t', 9), ('n', 10), ('v', 11), ('f', 12), ('r', 13),
   ('e', 27), (' ', 32), ('"', 34), ('\\', 92), ('/', 47), ('N', 0x85), ('_', 0xA0),
   ('L', 0x2028), ('P', 0x2029)]

/-- How many hexadecimal digits follow an escape letter. -/
def escapeWidth? (letter : Char) : Option Nat :=
  if letter = 'x' then some 2
  else if letter = 'u' then some 4
  else if letter = 'U' then some 8
  else none

/-- The line ends at the start of further lines of a quoted scalar; white space is dropped. -/
def quotedBreaks : (fuel : Nat) → Cursor → Except Fault (Text × Cursor)
  | 0, _ => .error .malformed
  | fuel + 1, cursor =>
    if cursor.opensDocumentMark then .error .malformed
    else
      let cursor := cursor.skipWhile isSpace
      match cursor.lineEnd? with
      | some (c, after) => do
        let (others, after) ← quotedBreaks fuel after
        return (c :: others, after)
      | none => .ok ([], cursor)

/-- White space inside a quoted scalar: line ends are folded. -/
def quotedGap (cursor : Cursor) : Except Fault (Text × Cursor) :=
  let (blanks, after) := cursor.takeWhile isSpace
  match after.next?, after.lineEnd? with
  | none, _ => .error .malformed
  | some _, none => .ok (blanks, after)
  | some _, some (c, after) => do
    let (breaks, after) ← quotedBreaks (after.rest.length + 1) after
    let lead := if c != '\n' then [c] else if breaks.isEmpty then [' '] else []
    return (lead ++ breaks, after)

/-- An escape, from behind the backslash: the text that it stands for. -/
def escape (cursor : Cursor) : Except Fault (Text × Cursor) :=
  match cursor.next? with
  | none => .error .malformed
  | some letter =>
    match escapes.lookup letter, escapeWidth? letter, cursor.lineEnd? with
    | some code, _, _ => .ok ([Char.ofNat code], cursor.advance)
    | none, some width, _ =>
      let digits := cursor.advance.rest.take width
      let code := Text.ofDigits 16 digits
      if digits.length != width || !digits.all (Text.isDigitOf 16) then .error .malformed
      else if code ≥ 0x110000 then .error .outOfRange
      else if 0xD800 ≤ code && code < 0xE000 then .ok ([Char.ofNat 0xFFFD], cursor.advance.skip width)
      else .ok ([Char.ofNat code], cursor.advance.skip width)
    | none, none, some (_, after) => quotedBreaks (after.rest.length + 1) after
    | none, none, none => .error .malformed

/-- What follows the opening quote of a quoted scalar, up to the closing one. -/
def quotedBody (quote : Char) : (fuel : Nat) → Cursor → Except Fault (Text × Cursor)
  | 0, _ => .error .malformed
  | fuel + 1, cursor =>
    match cursor.rest with
    | [] => .error .malformed
    | c :: rest =>
      if c = quote then
        if quote = '\'' && rest.head? = some '\'' then do
          let (others, after) ← quotedBody quote fuel (cursor.skip 2)
          return ('\'' :: others, after)
        else .ok ([], cursor.advance)
      else if c = '\\' && quote = '"' then do
        let (found, after) ← escape cursor.advance
        let (others, after) ← quotedBody quote fuel after
        return (found ++ others, after)
      else if isSpace c || endsLine c then do
        let (gap, after) ← quotedGap cursor
        let (others, after) ← quotedBody quote fuel after
        return (gap ++ others, after)
      else do
        let (others, after) ← quotedBody quote fuel cursor.advance
        return (c :: others, after)

/-- A quoted scalar, from its opening quote on. -/
def quotedScalar (quote : Char) (cursor : Cursor) : Except Fault (Text × Cursor) :=
  quotedBody quote (cursor.rest.length + 1) cursor.advance

/-! ## Block scalars -/

/-- What is kept of the line ends at the end of a block scalar. -/
inductive Chomping where
  | strip
  | clip
  | keep
deriving DecidableEq, Repr

/-- A chomping indicator, if one follows. -/
def chomping (cursor : Cursor) : Option Chomping × Cursor :=
  match cursor.next? with
  | some '+' => (some .keep, cursor.advance)
  | some '-' => (some .strip, cursor.advance)
  | _ => (none, cursor)

/-- An indentation indicator, if one follows; it is not zero. -/
def increment (cursor : Cursor) : Except Fault (Option Nat × Cursor) :=
  match cursor.next? with
  | some c =>
    if c = '0' then .error .malformed
    else if c.isDigit then .ok (some (c.toNat - 48), cursor.advance)
    else .ok (none, cursor)
  | none => .ok (none, cursor)

/-- The indicators behind the mark of a block scalar, in either order. -/
def blockIndicators (cursor : Cursor) : Except Fault (Chomping × Option Nat × Cursor) := do
  let (early, cursor) := chomping cursor
  let (increment, cursor) ← increment cursor
  let (late, cursor) := match early, increment with
    | none, some _ => chomping cursor
    | _, _ => (early, cursor)
  if endsField cursor.next? then return (late.getD .clip, increment, cursor)
  throw .malformed

/-- The cursor behind spaces, but not beyond a column. -/
def skipIndent (indent : Nat) (cursor : Cursor) : Cursor :=
  cursor.skip (min (indent - cursor.column) (cursor.rest.takeWhile (· = ' ')).length)

/-- The line ends of lines that are empty up to an indentation. -/
def blockBreaks (indent : Nat) : (fuel : Nat) → Cursor → Text × Cursor
  | 0, cursor => ([], cursor)
  | fuel + 1, cursor =>
    let cursor := skipIndent indent cursor
    match cursor.lineEnd? with
    | some (c, after) =>
      let (others, after) := blockBreaks indent fuel after
      (c :: others, after)
    | none => ([], cursor)

/-- The line ends before the first line of a block scalar, and the largest column that their
spaces reach. -/
def blockIndentation (widest : Nat) : (fuel : Nat) → Cursor → Text × Nat × Cursor
  | 0, cursor => ([], widest, cursor)
  | fuel + 1, cursor =>
    match cursor.next?, cursor.lineEnd? with
    | some ' ', _ =>
      let after := cursor.advance
      blockIndentation (max widest after.column) fuel after
    | _, some (c, after) =>
      let (others, reached, after) := blockIndentation widest fuel after
      (c :: others, reached, after)
    | _, none => ([], widest, cursor)

/-- The lines of a block scalar, where `breaks` stand before the next line: the text, the last
line end, the line ends behind it, and the cursor behind them. -/
def blockLines (folded : Bool) (indent : Nat) (breaks : Text) :
    (fuel : Nat) → Cursor → Text × Text × Text × Cursor
  | 0, cursor => ([], [], breaks, cursor)
  | fuel + 1, cursor =>
    let opensText := match cursor.next? with
      | some c => !isSpace c
      | none => false
    let (line, after) := cursor.takeWhile fun c => !endsLine c
    let (lineEnd, after) := match after.lineEnd? with
      | some (c, after) => ([c], after)
      | none => ([], after)
    let (following, after) := blockBreaks indent (after.rest.length + 1) after
    match after.next? with
    | some c =>
      if after.column = indent then
        let joint : Text :=
          if folded && lineEnd = ['\n'] && opensText && !isSpace c then
            if following.isEmpty then [' '] else []
          else lineEnd
        let (others, last, trailing, end') := blockLines folded indent following fuel after
        (breaks ++ line ++ joint ++ others, last, trailing, end')
      else (breaks ++ line, lineEnd, following, after)
    | none => (breaks ++ line, lineEnd, following, after)

/-- A block scalar, from its mark on, inside a collection of the given indentation. -/
def blockScalar (parent : Int) (cursor : Cursor) : Except Fault (Text × Cursor) := do
  let folded := cursor.next? = some '>'
  let (chomping, increment, cursor) ← blockIndicators cursor.advance
  let cursor ← cursor.skipLineRest
  let least := (max 1 (parent + 1)).toNat
  let fuel := cursor.rest.length + 1
  let (breaks, indent, cursor) := match increment with
    | some more =>
      let indent := least + more - 1
      let (breaks, cursor) := blockBreaks indent fuel cursor
      (breaks, indent, cursor)
    | none =>
      let (breaks, widest, cursor) := blockIndentation 0 fuel cursor
      (breaks, max least widest, cursor)
  let (body, last, trailing, cursor) :=
    if cursor.column = indent && cursor.next?.isSome then
      blockLines folded indent breaks fuel cursor
    else ([], [], breaks, cursor)
  let ending := match chomping with
    | .strip => []
    | .clip => last
    | .keep => last ++ trailing
  return (body ++ ending, cursor)

/-! ## Plain scalars -/

/-- The characters of a plain scalar up to white space, a comment cannot interrupt them. Inside
flow collections the characters of their syntax end it too. -/
def plainWord (inFlow : Bool) : Text → Text
  | [] => []
  | c :: rest =>
    let endsKey := match rest.head? with
      | some follower => isSpace follower || endsLine follower ||
          (inFlow && ",[]\x7b\x7d".toList.contains follower)
      | none => true
    if isSpace c || endsLine c || (c = ':' && endsKey) ||
        (inFlow && ",?[]\x7b\x7d".toList.contains c) then []
    else c :: plainWord inFlow rest

/-- Line ends and spaces between lines of a plain scalar; none at the mark of a document. -/
def plainBreaks : (fuel : Nat) → Cursor → Option Text × Cursor
  | 0, cursor => (some [], cursor)
  | fuel + 1, cursor =>
    let cursor := cursor.skipWhile (· = ' ')
    match cursor.lineEnd? with
    | some (c, after) =>
      if after.opensDocumentMark then (none, after)
      else
        let (others, after) := plainBreaks fuel after
        (others.map (c :: ·), after)
    | none => (some [], cursor)

/-- The white space behind a word of a plain scalar, folded, and whether it goes to a new line;
nothing when the scalar cannot go on. -/
def plainGap (cursor : Cursor) : Text × Bool × Cursor :=
  let (blanks, after) := cursor.takeWhile (· = ' ')
  match after.lineEnd? with
  | none => (blanks, false, after)
  | some (c, after) =>
    if after.opensDocumentMark then ([], true, after)
    else
      match plainBreaks (after.rest.length + 1) after with
      | (none, after) => ([], true, after)
      | (some breaks, after) =>
        let lead := if c != '\n' then [c] else if breaks.isEmpty then [' '] else []
        (lead ++ breaks, true, after)

/-- A plain scalar from a word on that `gap` precedes. The flag says whether the cursor behind it
stands on a new line. -/
def plainWords (inFlow : Bool) (indent : Int) (gap : Text) (newLine : Bool) :
    (fuel : Nat) → Cursor → Text × Bool × Cursor
  | 0, cursor => ([], newLine, cursor)
  | fuel + 1, cursor =>
    let word := if cursor.next? = some '#' then [] else plainWord inFlow cursor.rest
    if word.isEmpty then ([], newLine, cursor)
    else
      let (following, crossed, after) := plainGap (cursor.skip word.length)
      if following.isEmpty || after.next? = some '#' || (!inFlow && Int.ofNat after.column < indent)
      then (gap ++ word, crossed, after)
      else
        let (others, crossed, after) := plainWords inFlow indent following crossed fuel after
        (gap ++ word ++ others, crossed, after)

/-- A plain scalar inside a collection of the given indentation. -/
def plainScalar (inFlow : Bool) (parent : Int) (cursor : Cursor) : Text × Bool × Cursor :=
  plainWords inFlow (parent + 1) [] false (cursor.rest.length + 1) cursor

end SchemaDoc.Yaml
