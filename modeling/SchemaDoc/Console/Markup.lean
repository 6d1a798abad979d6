import SchemaDoc.Text.Case
import SchemaDoc.Text.Basic

/-!
Contract: texts with style tags in square brackets.

A tag opens with a bracket and a lowercase letter, a hash sign, a slash or an at sign. A closing tag
closes the last open tag of its style, or the last one of all when it names none. A backslash in
front of a bracket takes away its meaning. The styles themselves do not show.

Owns:
- what of such a text is printed (`render`), and when it is refused;
- the escapes that make any text print as it is (`escape`).
-/

namespace SchemaDoc.Console.Markup

/-- Why a text is refused. -/
inductive Fault where
  /-- A closing tag names a style that no open tag has. -/
  | notOpen (style : Text)
  /-- A closing tag without a style follows no open tag. -/
  | nothingOpen
deriving DecidableEq, Repr

/-- The character can follow the bracket of a tag. -/
def opensTag (c : Char) : Bool :=
  ('a' ≤ c && c ≤ 'z') || c = '#' || c = '/' || c = '@'

/-- The inside of a tag whose bracket was read, and what follows the tag. -/
def tag? : Text → Option (Text × Text)
  | [] => none
  | c :: rest =>
    let inside := rest.takeWhile fun c => c != '[' && c != ']'
    match rest.drop inside.length with
    | ']' :: after => if opensTag c then some (c :: inside, after) else none
    | _ => none

theorem length_of_tag? {text inside after : Text} (found : tag? text = some (inside, after)) :
    after.length < text.length := by
  unfold tag? at found
  split at found
  · contradiction
  · rename_i c rest
    simp only at found
    split at found
    · rename_i dropped
      split at found
      · simp only [Option.some.injEq, Prod.mk.injEq] at found
        have measured := congrArg List.length dropped
        rw [found.2] at measured
        simp only [List.length_drop, List.length_cons] at measured ⊢
        omega
      · contradiction
    · contradiction

/-- The backslashes at the start of a text and the tag behind them, with what follows. -/
def escapedTag? (text : Text) : Option (Nat × Text × Text) :=
  let count := (text.takeWhile (· = '\\')).length
  match text.drop count with
  | '[' :: rest => (tag? rest).map fun (inside, after) => (count, inside, after)
  | _ => none

theorem length_of_escapedTag? {text inside after : Text} {count : Nat}
    (found : escapedTag? text = some (count, inside, after)) : after.length < text.length := by
  unfold escapedTag? at found
  simp only at found
  split at found
  · rename_i rest dropped
    simp only [Option.map_eq_some_iff, Prod.mk.injEq] at found
    obtain ⟨⟨inner, tail⟩, tagged, _, _, same⟩ := found
    have shorter := length_of_tag? tagged
    have measured := congrArg List.length dropped
    simp only [List.length_drop, List.length_cons] at measured
    simp only at same
    subst same
    omega
  · contradiction

/-! ## Escapes -/

/-- The text with an escape in front of everything that is a tag. -/
def escapeTags : Text → Text
  | [] => []
  | c :: rest =>
    match found : escapedTag? (c :: rest) with
    | some (count, inside, after) =>
      have : after.length < rest.length + 1 := length_of_escapedTag? found
      List.replicate (2 * count + 1) '\\' ++ '[' :: inside ++ ']' :: escapeTags after
    | none => c :: escapeTags rest
termination_by text => text.length

/-- The text written so that it prints as it is. -/
def escape (text : Text) : Text :=
  let escaped := escapeTags text
  match escaped.reverse with
  | '\\' :: '\\' :: _ => escaped
  | '\\' :: _ => escaped ++ ['\\']
  | _ => escaped

/-! ## Pieces -/

inductive Piece where
  | plain (text : Text)
  | tag (inside : Text)
deriving DecidableEq, Repr

/-- A plain text without the backslashes in front of brackets. -/
def dropEscapes : Text → Text
  | [] => []
  | '\\' :: '[' :: rest => '[' :: dropEscapes rest
  | c :: rest => c :: dropEscapes rest

/-- The pieces of a text, of which a plain part was read already, its last character first. -/
def piecesFrom (done : Text) : Text → List Piece
  | [] => [.plain (dropEscapes done.reverse)]
  | c :: rest =>
    match found : escapedTag? (c :: rest) with
    | some (count, inside, after) =>
      have : after.length < rest.length + 1 := length_of_escapedTag? found
      let piece : Piece := if count % 2 = 1 then .plain ('[' :: inside ++ [']']) else .tag inside
      .plain (dropEscapes done.reverse) :: .plain (List.replicate (count / 2) '\\') :: piece ::
        piecesFrom [] after
    | none => piecesFrom (c :: done) rest
termination_by text => text.length

/-- The plain pieces and the tags of a text, in order. -/
def pieces (text : Text) : List Piece :=
  piecesFrom [] text

/-! ## Styles -/

/-- The attributes of styles with their short names, in the order in which a style lists them. -/
def attributeNames : List (Text × Text) :=
  [("bold", "b"), ("dim", "d"), ("italic", "i"), ("underline", "u"), ("blink", "blink"),
    ("blink2", "blink2"), ("reverse", "r"), ("conceal", "c"), ("strike", "s"),
    ("underline2", "uu"), ("frame", "frame"), ("encircle", "encircle"), ("overline", "o")]

/-- The colours that styles name by a word. -/
def colourNames : List Text :=
  ["default", "black", "red", "green", "yellow", "blue", "magenta", "cyan", "white",
    "bright_black", "bright_red", "bright_green", "bright_yellow", "bright_blue",
    "bright_magenta", "bright_cyan", "bright_white"]

/-- The name of a style by which tags are compared: attributes in order and in full, then the
colour; a style that is not made of those is only brought to lowercase. -/
def styleName (style : Text) : Text :=
  let lower := Text.lower style
  let words := (Text.splitOnChar ' ' lower).filter fun word => !word.isEmpty
  let attributes := attributeNames.filter fun (name, short) =>
    words.contains name || words.contains short
  let colours := words.filter colourNames.contains
  let isKnown (word : Text) : Bool :=
    colourNames.contains word || attributeNames.any fun (name, short) =>
      word = name || word = short
  if words.all isKnown then
    Text.join [' '] (attributes.map Prod.fst ++ (colours.getLast?).toList)
  else Text.trim lower

/-! ## Printing -/

/-- The styles that are open after a closing tag for a style, or for the last one. -/
def close (style : Text) (opened : List Text) : Except Fault (List Text) :=
  if style.isEmpty then
    match opened with
    | [] => .error .nothingOpen
    | _ :: rest => .ok rest
  else
    let name := styleName style
    if opened.contains name then .ok (opened.erase name) else .error (.notOpen name)

/-- The printed runs of characters of pieces, behind some open styles, the last one first. -/
def renderFrom (opened : List Text) : List Piece → Except Fault (List Text)
  | [] => .ok []
  | .plain text :: rest => (renderFrom opened rest).map (text :: ·)
  | .tag inside :: rest => do
    match inside.takeWhile (· != '=') with
    | '/' :: style => renderFrom (← close (Text.trim style) opened) rest
    | style => renderFrom (styleName style :: opened) rest

/-- The runs of characters between tags that a text prints. -/
def render (text : Text) : Except Fault (List Text) :=
  renderFrom [] (pieces text)

end SchemaDoc.Console.Markup
