import SchemaDoc.Text.Basic

/-!
Contract: the ways in which a text is cut into lines.

Owns:
- `lines`: cut after each line feed, endings kept, so that joining the lines gives the text back;
- `displayLines`: cut at every character that ends a line on a display, endings dropped;
- `physicalLines`: cut after a line feed, a carriage return, or both in a row, endings kept.
-/

namespace SchemaDoc.Text

/-- Lines that end after each line feed; the last one may lack it. -/
def lines : Text → List Text
  | [] => []
  | c :: rest =>
    if c = '\n' then
      [c] :: lines rest
    else
      match lines rest with
      | [] => [[c]]
      | first :: others => (c :: first) :: others

/-- Joining the lines of a text gives the text. -/
theorem flatten_lines (text : Text) : (lines text).flatten = text := by
  induction text with
  | nil => rfl
  | cons c rest inductionHypothesis =>
      unfold lines
      split
      · simp [inductionHypothesis]
      · split
        · rename_i empty
          rw [empty] at inductionHypothesis
          simp at inductionHypothesis
          simp [← inductionHypothesis]
        · rename_i first others cut
          rw [cut] at inductionHypothesis
          simp at inductionHypothesis
          simp [← inductionHypothesis]

/-- The character ends a line on a display. -/
def endsDisplayLine (c : Char) : Bool :=
  let code := c.toNat
  (0x0A ≤ code && code ≤ 0x0D) || (0x1C ≤ code && code ≤ 0x1E) || code == 0x85 ||
    code == 0x2028 || code == 0x2029

/-- Lines as a display shows them, without their endings; a carriage return and a line feed in
a row are one ending. -/
def displayLines : Text → List Text
  | [] => []
  | '\r' :: '\n' :: rest => [] :: displayLines rest
  | c :: rest =>
    if endsDisplayLine c then
      [] :: displayLines rest
    else
      match displayLines rest with
      | [] => [[c]]
      | first :: others => (c :: first) :: others

/-- Lines that end after a line feed, after a carriage return, or after both in a row. -/
def physicalLines : Text → List Text
  | [] => []
  | '\r' :: '\n' :: rest => ['\r', '\n'] :: physicalLines rest
  | c :: rest =>
    if c = '\n' || c = '\r' then
      [c] :: physicalLines rest
    else
      match physicalLines rest with
      | [] => [[c]]
      | first :: others => (c :: first) :: others

end SchemaDoc.Text
