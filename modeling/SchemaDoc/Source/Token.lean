import SchemaDoc.Text.Basic

/-!
Contract: the tokens of a source file.

Owns the token type, the reserved words and the operator symbols. Names are already normalised;
a name is `plain` when it is written in ASCII alone, which is what the words that are reserved in
some places only are recognised by.
-/

namespace SchemaDoc.Source

/-- A string token: its flags, and the characters between its quotes as they are written. -/
structure StringToken where
  isBytes : Bool
  isRaw : Bool
  isFormatted : Bool
  body : Text
deriving DecidableEq, Repr

inductive Token where
  | name (text : Text) (plain : Bool)
  | keyword (word : String)
  | number (literal : Text)
  | string (token : StringToken)
  | symbol (text : String)
  | newline
  | indent
  | dedent
  | finish
deriving DecidableEq, Repr

/-- The number of levels that a token can open: a string as many as it has characters. -/
def Token.levels : Token → Nat
  | .string token => token.body.length + 1
  | _ => 1

/-- A token and the line on which it starts. -/
structure PlacedToken where
  token : Token
  line : Nat
deriving DecidableEq, Repr

/-- The reserved words. -/
def keywords : List String :=
  ["False", "None", "True", "and", "as", "assert", "async", "await", "break", "class",
   "continue", "def", "del", "elif", "else", "except", "finally", "for", "from", "global", "if",
   "import", "in", "is", "lambda", "nonlocal", "not", "or", "pass", "raise", "return", "try",
   "while", "with", "yield"]

/-- The symbols, longest first. -/
def symbols : List String :=
  ["**=", "//=", "<<=", ">>=", "...",
   "!=", "%=", "&=", "**", "*=", "+=", "-=", "->", "//", "/=", ":=", "<<", "<=", "==", ">=",
   ">>", "@=", "^=", "|=",
   "%", "&", "(", ")", "*", "+", ",", "-", ".", "/", ":", ";", "<", "=", ">", "@", "[", "]", "^",
   "\x7b", "|", "\x7d", "~"]

/-- The symbols that raise a value in place. -/
def augmentingSymbols : List String :=
  ["+=", "-=", "*=", "/=", "//=", "%=", "@=", "&=", "|=", "^=", "<<=", ">>=", "**="]

end SchemaDoc.Source
