import SchemaDoc.Text.Quoted

/-!
Contract: a text as a JSON string in ASCII.

The double quote, the backslash and the common control characters are escaped with a backslash;
any other character beyond the printable ones of ASCII is given by the UTF-16 units that stand for
it.
-/

namespace SchemaDoc.Text

/-- One UTF-16 unit, escaped. -/
def jsonUnit (unit : Nat) : Text :=
  '\\' :: 'u' :: hexadecimal 4 unit

/-- One character inside a JSON string. -/
def jsonChar (c : Char) : Text :=
  let code := c.toNat
  if c = '"' || c = '\\' then ['\\', c]
  else if c = '\n' then ['\\', 'n']
  else if c = '\r' then ['\\', 'r']
  else if c = '\t' then ['\\', 't']
  else if code = 0x08 then ['\\', 'b']
  else if code = 0x0C then ['\\', 'f']
  else if 0x20 ≤ code && code < 0x7F then [c]
  else if code < 0x10000 then jsonUnit code
  else
    let beyond := code - 0x10000
    jsonUnit (0xD800 + beyond / 0x400) ++ jsonUnit (0xDC00 + beyond % 0x400)

/-- The text as a JSON string. -/
def jsonString (text : Text) : Text :=
  '"' :: text.flatMap jsonChar ++ ['"']

end SchemaDoc.Text
