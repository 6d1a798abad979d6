import SchemaDoc.Text.Basic
import SchemaDoc.Text.Printable

/-!
Contract: a text shown in quotes.

The quote is the single one, unless the text holds single quotes and no double ones. The
backslash, the quote, line feed, carriage return and tab are escaped with a backslash; other
characters that cannot be shown as they are become `\xNN`, `\uNNNN` or `\UNNNNNNNN`, by size.
-/

namespace SchemaDoc.Text

/-- A number in lowercase hexadecimal, with zeros in front up to a width. -/
def hexadecimal (width : Nat) (code : Nat) : Text :=
  let digits := Nat.toDigits 16 code
  List.replicate (width - digits.length) '0' ++ digits

/-- One character inside quotes. -/
def quotedChar (quote c : Char) : Text :=
  if c = quote || c = '\\' then ['\\', c]
  else if c = '\n' then ['\\', 'n']
  else if c = '\r' then ['\\', 'r']
  else if c = '\t' then ['\\', 't']
  else if isPrintable c then [c]
  else if c.toNat < 0x100 then '\\' :: 'x' :: hexadecimal 2 c.toNat
  else if c.toNat < 0x10000 then '\\' :: 'u' :: hexadecimal 4 c.toNat
  else '\\' :: 'U' :: hexadecimal 8 c.toNat

/-- The quote that encloses a text. -/
def quoteFor (text : Text) : Char :=
  if text.contains '\'' && !text.contains '"' then '"' else '\''

/-- The text in quotes. -/
def quoted (text : Text) : Text :=
  let quote := quoteFor text
  quote :: text.flatMap (quotedChar quote) ++ [quote]

end SchemaDoc.Text
