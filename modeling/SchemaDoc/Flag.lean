import SchemaDoc.Text.Case
import SchemaDoc.Text.Quoted
import SchemaDoc.Text.Basic

/-!
Contract: yes-or-no values in environment variables.

Letter case and white space around the word are ignored; any other word is refused with the
list of the accepted ones in alphabetical order.
-/

namespace SchemaDoc.Flag

def truthy : List Text := ["1".toList, "enabled".toList, "on".toList, "true".toList, "yes".toList]

def falsy : List Text := ["0".toList, "disabled".toList, "false".toList, "no".toList, "off".toList]

/-- All accepted words, in alphabetical order. -/
def accepted : List Text :=
  ["0".toList, "1".toList, "disabled".toList, "enabled".toList, "false".toList, "no".toList,
   "off".toList, "on".toList, "true".toList, "yes".toList]

/-- Why a value is refused. -/
def refusal (value : Text) : Text :=
  "Invalid boolean value: " ++ Text.quoted value ++ ". Expected one of: [" ++
    Text.join ", " (accepted.map Text.quoted) ++ "]"

/-- The truth value of a word, or the reason why it has none. -/
def parse (value : Text) : Except Text Bool :=
  let word := Text.trim (Text.lower value)
  if truthy.contains word then .ok true
  else if falsy.contains word then .ok false
  else .error (refusal value)

end SchemaDoc.Flag
