import SchemaDoc.Block.Basic
import SchemaDoc.Text.Lines

/-!
Contract: removal of the blocks of one class from a text.

A begin marker counts only when comment lines follow it up to an end marker; any other text is
left as it is.
-/

namespace SchemaDoc.Block

/-- The line is the begin marker of the class, white space around it aside. -/
def isBegin (qualname line : Text) : Bool :=
  Text.trim line == beginMarker qualname

/-- The line is an end marker, white space around it aside. -/
def isEnd (line : Text) : Bool :=
  Text.trim line == endMarker

/-- The line holds a comment and nothing else. -/
def isComment (line : Text) : Bool :=
  (Text.trimStart line).head? == some '#'

/-- What follows the end marker that closes a run of comment lines. -/
def afterEnd? : List Text → Option (List Text)
  | [] => none
  | line :: rest =>
    if isComment line then
      if isEnd line then some rest else afterEnd? rest
    else none

theorem length_of_afterEnd? {lines rest : List Text} (found : afterEnd? lines = some rest) :
    rest.length < lines.length := by
  induction lines with
  | nil => simp [afterEnd?] at found
  | cons line others inductionHypothesis =>
      unfold afterEnd? at found
      split at found
      · split at found
        · simp at found
          simp [found]
        · have shorter := inductionHypothesis found
          simp only [List.length_cons]
          omega
      · simp at found

/-- The lines without the blocks of the class. -/
def stripLines (qualname : Text) : List Text → List Text
  | [] => []
  | line :: rest =>
    if isBegin qualname line then
      match found : afterEnd? rest with
      | some remaining =>
        have := length_of_afterEnd? found
        stripLines qualname remaining
      | none => line :: stripLines qualname rest
    else line :: stripLines qualname rest
termination_by lines => lines.length
decreasing_by all_goals simp_all <;> omega

/-- The text without the blocks of the class. -/
def strip (qualname content : Text) : Text :=
  (stripLines qualname (Text.lines content)).flatten

end SchemaDoc.Block
