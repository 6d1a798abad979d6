import SchemaDoc.Text.Case

/-!
Contract: what a text looks like on a screen.

Owns:
- the names between colons that stand for symbols;
- the control characters that are left out, and the spaces that tabs stand for;
- the breaking of lines that are wider than the screen: in front of a word that has room on the next
  line, and inside a word that is wider than the screen itself.

Which symbols there are, and how many columns a character takes, is left to the screen.
-/

namespace SchemaDoc.Console

structure Screen where
  /-- The number of its columns. -/
  width : Nat
  /-- The number of columns that a character takes. -/
  columns : Char → Nat
  /-- The symbol that a name in lowercase stands for. -/
  symbol? : Text → Option Text

namespace Screen

/-- A screen on which hardly a line is broken; each character takes one column, and names stand for
no symbols. -/
def wide : Screen := ⟨1000000, fun _ => 1, fun _ => none⟩

/-! ## Symbols -/

/-- What can end the name of a symbol, with the character that then follows the symbol: it asks for the
picture or for the letter of it. -/
def nameEnds : List (Text × Text) :=
  [(":", []), ("-emoji:", [Char.ofNat 0xFE0F]), ("-text:", [Char.ofNat 0xFE0E])]

/-- A name between colons whose first colon was read, and what follows it. -/
structure Code where
  name : Text
  /-- The end of the name as it is written. -/
  mark : Text
  variant : Text
  after : Text

/-- The end of a name at the start of the text. -/
def nameEnd? (text : Text) : Option Code :=
  nameEnds.findSome? fun (mark, variant) =>
    (Text.after? mark text).map fun after => ⟨[], mark, variant, after⟩

/-- The shortest name at the start of the text; it holds no white space. -/
def code? : Text → Option Code
  | [] => none
  | c :: rest =>
    match nameEnd? (c :: rest) with
    | some code => some code
    | none =>
      if Text.isBlank c then none
      else (code? rest).map fun code => { code with name := c :: code.name }

theorem length_of_nameEnd? {text : Text} {code : Code} (found : nameEnd? text = some code) :
    code.after.length < text.length := by
  obtain ⟨⟨mark, variant⟩, isEnd, isFound⟩ := List.exists_of_findSome?_eq_some found
  obtain ⟨after, isAfter, rfl⟩ := Option.map_eq_some_iff.mp isFound
  have marked : mark ≠ [] := by
    simp only [nameEnds, List.mem_cons, Prod.mk.injEq, List.not_mem_nil, or_false] at isEnd
    rcases isEnd with ⟨rfl, -⟩ | ⟨rfl, -⟩ | ⟨rfl, -⟩ <;> simp
  unfold Text.after? at isAfter
  split at isAfter
  · next isPrefix =>
      obtain ⟨back, rfl⟩ := List.isPrefixOf_iff_prefix.mp isPrefix
      obtain rfl := Option.some.inj isAfter
      have := List.length_pos_iff.mpr marked
      simp only [List.length_drop, List.length_append]
      omega
  · contradiction

theorem length_of_code? {text : Text} {code : Code} (found : code? text = some code) :
    code.after.length < text.length := by
  induction text generalizing code with
  | nil => contradiction
  | cons c rest inductionHypothesis =>
      rw [code?] at found
      split at found
      · next ends =>
          obtain rfl := Option.some.inj found
          exact length_of_nameEnd? ends
      · split at found
        · contradiction
        · obtain ⟨inner, isInner, rfl⟩ := Option.map_eq_some_iff.mp found
          have shorter : inner.after.length < rest.length := inductionHypothesis isInner
          exact Nat.lt_succ_of_lt shorter

/-- The text with symbols in place of their names. -/
def showSymbols (screen : Screen) : Text → Text
  | [] => []
  | c :: rest =>
    if c = ':' then
      match found : code? rest with
      | some code =>
        have := length_of_code? found
        let shown := match screen.symbol? (Text.lower code.name) with
          | some symbol => symbol ++ code.variant
          | none => ':' :: code.name ++ code.mark
        shown ++ showSymbols screen code.after
      | none => c :: showSymbols screen rest
    else c :: showSymbols screen rest
termination_by text => text.length

/-! ## Columns -/

/-- The number of columns that a text takes. -/
def widthOf (screen : Screen) : Text → Nat
  | [] => 0
  | c :: rest => screen.columns c + widthOf screen rest

/-- The distance of tab stops. -/
def tabWidth : Nat := 8

/-- A part of a line from a column on, with its tabs as spaces. -/
def expandTabs (screen : Screen) (column : Nat) : Text → Text
  | [] => []
  | c :: rest =>
    if c = '\t' then
      let width := tabWidth - column % tabWidth
      List.replicate width ' ' ++ screen.expandTabs (column + width) rest
    else c :: screen.expandTabs (column + screen.columns c) rest

/-! ## Lines -/

/-- The words of a line with the white space behind them; that in front of the first word belongs to it.
A part of the line was read already, its last character first. -/
def wordsFrom (done : Text) : Text → List Text
  | [] => [done.reverse]
  | c :: rest =>
    if !Text.isBlank c && done.head?.any Text.isBlank && !done.all Text.isBlank then
      done.reverse :: wordsFrom [c] rest
    else wordsFrom (c :: done) rest

/-- The parts of a word that each fit into a line; of the first one some columns are taken. -/
def chopFrom (screen : Screen) (column : Nat) (done : Text) : Text → List Text
  | [] => [done.reverse]
  | c :: rest =>
    if column + screen.columns c ≤ screen.width then
      chopFrom screen (column + screen.columns c) (c :: done) rest
    else done.reverse :: chopFrom screen (screen.columns c) [c] rest

/-- The lines that words make up, behind a line that is not full yet. White space needs no room. -/
def breakWords (screen : Screen) (line : Text) (column : Nat) : List Text → List Text
  | [] => [line]
  | word :: rest =>
    let room := screen.widthOf (Text.trimEnd word)
    if column + room ≤ screen.width then
      breakWords screen (line ++ word) (column + screen.widthOf word) rest
    else if room ≤ screen.width then
      line :: breakWords screen word (screen.widthOf word) rest
    else
      let parts := chopFrom screen 0 [] word
      let lines := if line.isEmpty then parts.dropWhile List.isEmpty else line :: parts
      let last := lines.getLastD []
      lines.dropLast ++ breakWords screen last (screen.widthOf last) rest

/-- The line without the white space at its end that stands beyond the last column. -/
def dropBeyond (screen : Screen) (line : Text) : Text :=
  let blanks := (line.reverse.takeWhile Text.isBlank).length
  line.take (line.length - min blanks (line.length - screen.width))

/-- The characters of a line that have room in some columns; a space fills up the half of a character
that would stand across the last one. -/
def cut (screen : Screen) : Nat → Text → Text
  | _, [] => []
  | room, c :: rest =>
    if screen.columns c ≤ room then c :: cut screen (room - screen.columns c) rest
    else if room = 0 then []
    else [' ']

/-- The lines in which a line without tabs is shown. -/
def breakLine (screen : Screen) (line : Text) : List Text :=
  (screen.breakWords [] 0 (wordsFrom [] line)).map fun part =>
    screen.cut screen.width (screen.dropBeyond part)

/-! ## Texts -/

/-- The character moves the cursor of a screen: the bell, the backspace, the vertical tab, the
form feed and the carriage return. -/
def movesCursor (c : Char) : Bool :=
  [0x07, 0x08, 0x0B, 0x0C, 0x0D].contains c.toNat

/-- The lines of a text, with their tabs as spaces. -/
def linesOf (screen : Screen) (text : Text) : List Text :=
  (Text.splitOnChar '\n' (text.filter fun c => !movesCursor c)).map (screen.expandTabs 0)

/-- What runs of characters look like, of which each may hold names of symbols. Lines are broken where
they are too wide, or else they only lose the white space beyond the last column. -/
def shows (screen : Screen) (breaks : Bool) (runs : List Text) : Text :=
  let lines := screen.linesOf (runs.flatMap screen.showSymbols)
  Text.join ['\n'] (if breaks then lines.flatMap screen.breakLine else lines.map screen.dropBeyond)

end Screen

end SchemaDoc.Console
