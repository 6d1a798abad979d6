/-!
Contract: texts, and what needs no table to be done with them.

Owns:
- white space and trimming;
- the parts of texts, and texts made of parts;
- literals and numbers as texts;
- the order of texts by code points.

The white space of this library is that of the Unicode standard's bidirectional classes: the
ASCII blanks, the four information separators and the Unicode space separators. The zero-width
space and the byte order mark are not blank.
-/

namespace SchemaDoc

/-- A text is the list of its characters. -/
abbrev Text := List Char

instance : Coe String Text := ⟨String.toList⟩

namespace Text

/-! ## White space -/

/-- Code points of the white-space characters, as ranges with both ends included. -/
def blankRanges : List (Nat × Nat) :=
  [(0x09, 0x0D), (0x1C, 0x20), (0x85, 0x85), (0xA0, 0xA0), (0x1680, 0x1680), (0x2000, 0x200A),
   (0x2028, 0x2029), (0x202F, 0x202F), (0x205F, 0x205F), (0x3000, 0x3000)]

/-- The character is white space. -/
def isBlank (c : Char) : Bool :=
  blankRanges.any fun range => range.1 ≤ c.toNat && c.toNat ≤ range.2

/-- The text without the white space at its start. -/
def trimStart (text : Text) : Text :=
  text.dropWhile isBlank

/-- The text without the white space at its end. -/
def trimEnd (text : Text) : Text :=
  (text.reverse.dropWhile isBlank).reverse

/-- The text without the white space around it. -/
def trim (text : Text) : Text :=
  trimEnd (trimStart text)

/-- The white space at the start of a text. -/
def margin (text : Text) : Text :=
  text.takeWhile isBlank

/-- A text is its margin and what follows. -/
theorem margin_append_trimStart (text : Text) : margin text ++ trimStart text = text :=
  List.takeWhile_append_dropWhile

/-! ## Parts -/

/-- The text without the given characters at both ends. -/
def dropAround (unwanted : Char → Bool) (text : Text) : Text :=
  ((text.dropWhile unwanted).reverse.dropWhile unwanted).reverse

/-- The text continued with spaces up to a width. -/
def padEnd (width : Nat) (text : Text) : Text :=
  text ++ List.replicate (width - text.length) ' '

/-- The pieces between the occurrences of one character; a text without it is one piece. -/
def splitOnChar (separator : Char) : Text → List Text
  | [] => [[]]
  | c :: rest =>
    if c = separator then
      [] :: splitOnChar separator rest
    else
      match splitOnChar separator rest with
      | [] => [[c]]
      | first :: others => (c :: first) :: others

/-- Texts joined by a separator. -/
def join (separator : Text) : List Text → Text
  | [] => []
  | [text] => text
  | text :: rest => text ++ separator ++ join separator rest

/-- The text stands somewhere inside the other. -/
def isInfix (needle : Text) : Text → Bool
  | [] => needle.isEmpty
  | c :: rest => needle.isPrefixOf (c :: rest) || isInfix needle rest

/-- What follows `start`, when the text opens with it. -/
def after? (start text : Text) : Option Text :=
  if start.isPrefixOf text then some (text.drop start.length) else none

/-- Every occurrence of one character is replaced by another. -/
def replaceChar (old new : Char) (text : Text) : Text :=
  text.map fun c => if c = old then new else c

/-! ## Numbers -/

/-- A number in decimal. -/
def ofNat (value : Nat) : Text :=
  Nat.toDigits 10 value

/-- A signed number in decimal; only negative numbers show a sign. -/
def ofInt : Int → Text
  | .ofNat value => ofNat value
  | .negSucc value => '-' :: ofNat (value + 1)

/-! ## Order -/

/-- The first text does not stand after the second one. -/
def notAfter : Text → Text → Bool
  | [], _ => true
  | _ :: _, [] => false
  | a :: left, b :: right =>
    if a.toNat < b.toNat then true
    else if b.toNat < a.toNat then false
    else notAfter left right

/-- The first list of texts does not stand after the second one. -/
def listNotAfter : List Text → List Text → Bool
  | [], _ => true
  | _ :: _, [] => false
  | a :: left, b :: right => if a = b then listNotAfter left right else notAfter a b

end Text

end SchemaDoc
