import Mathlib.Logic.ExistsUnique
import SchemaDoc.Proofs.Block.Replacement

/-!
Contract: the blocks that removal finds.

Lines are read from the first one on. A block that starts where the reading is goes away whole, and any
other line is kept (`Scan`). There is one way to read so, and removal leaves the lines that it keeps
(`scan_iff`). Deleting a block joins lines that stood apart, but no block comes from that
(`strip_removes_blocks`).
-/

namespace SchemaDoc.Block

variable {qualname line : Text} {rest lines kept : List Text}

/-- The lines start with a block of the class. -/
def StartsBlock (qualname : Text) (lines : List Text) : Prop :=
  ∃ block rest, lines = block ++ rest ∧ IsBlock qualname block

/-- What is kept of lines that are read from the first one on. Below a block the reading goes on with
the line that follows it, so that no two of the deleted blocks overlap. -/
inductive Scan (qualname : Text) : List Text → List Text → Prop where
  | done : Scan qualname [] []
  | deleted {block rest kept : List Text} (isBlock : IsBlock qualname block)
      (below : Scan qualname rest kept) : Scan qualname (block ++ rest) kept
  | kept {line : Text} {rest kept : List Text} (noBlock : ¬ StartsBlock qualname (line :: rest))
      (below : Scan qualname rest kept) : Scan qualname (line :: rest) (line :: kept)

/-! ## Blocks at the front -/

/-- A begin marker is passed by the search for an end marker. -/
theorem afterEnd?_begin (begins : isBegin qualname line = true) (rest : List Text) :
    afterEnd? (line :: rest) = afterEnd? rest := by
  rw [afterEnd?, if_pos (isComment_of_isBegin begins),
    if_neg (by simp [isEnd_eq_false_of_isBegin begins])]

/-- A block starts at a begin marker from which the search finds an end marker. -/
theorem startsBlock_iff :
    StartsBlock qualname (line :: rest) ↔
      isBegin qualname line = true ∧ ∃ remaining, afterEnd? rest = some remaining := by
  constructor
  · rintro ⟨block, remaining, whole, isBlock⟩
    have closed : afterEnd? (line :: rest) = some remaining := by
      rw [whole]
      exact isBlock.afterEnd?_append remaining
    obtain ⟨marker, comments, closing, rfl, begins, -⟩ := isBlock
    obtain ⟨rfl, -⟩ := List.cons.inj whole
    rw [afterEnd?_begin begins] at closed
    exact ⟨begins, remaining, closed⟩
  · rintro ⟨begins, remaining, closed⟩
    obtain ⟨block, whole, isBlock⟩ := isBlock_of_afterEnd? begins closed
    exact ⟨block, remaining, whole, isBlock⟩

/-! ## The lines that are kept -/

theorem scan_stripLines (qualname : Text) (lines : List Text) :
    Scan qualname lines (stripLines qualname lines) := by
  induction lines using stripLines_induction qualname with
  | nil => exact .done
  | closed line rest remaining begins found inductionHypothesis =>
      obtain ⟨block, whole, isBlock⟩ := isBlock_of_afterEnd? begins found
      rw [whole]
      exact .deleted isBlock inductionHypothesis
  | kept line rest isKept inductionHypothesis =>
      apply Scan.kept _ inductionHypothesis
      intro starts
      obtain ⟨begins, remaining, closed⟩ := startsBlock_iff.mp starts
      rw [isKept begins] at closed
      exact absurd closed (by simp)

theorem Scan.stripLines_eq (scan : Scan qualname lines kept) : stripLines qualname lines = kept := by
  induction scan with
  | done => exact stripLines_nil qualname
  | deleted isBlock below inductionHypothesis =>
      rw [isBlock.stripLines_append]
      exact inductionHypothesis
  | @kept line rest kept noBlock below inductionHypothesis =>
      have isKept : isBegin qualname line = true → afterEnd? rest = none := by
        intro begins
        cases closed : afterEnd? rest with
        | none => rfl
        | some remaining => exact absurd (startsBlock_iff.mpr ⟨begins, remaining, closed⟩) noBlock
      rw [stripLines_kept isKept, inductionHypothesis]

/-- Removal is the reading from the first line on. -/
theorem scan_iff : Scan qualname lines kept ↔ stripLines qualname lines = kept := by
  constructor
  · exact Scan.stripLines_eq
  · rintro rfl
    exact scan_stripLines qualname lines

/-- Where removal changes nothing, no lines are a block. -/
theorem Stripped.not_isBlock {above block below : List Text}
    (stripped : Stripped qualname (above ++ (block ++ below))) : ¬ IsBlock qualname block := by
  intro isBlock
  have atFront : Stripped qualname (block ++ below) := stripped.of_append
  have same := atFront.stripLines_eq_self
  rw [isBlock.stripLines_append] at same
  -- Only the lines below the block can be left, and these are fewer.
  have atMost := (stripLines_sublist qualname below).length_le
  have asMany := congrArg List.length same
  obtain ⟨marker, comments, closing, rfl, -⟩ := isBlock
  simp only [List.length_append, List.length_cons] at asMany
  omega

/-! ## Main statement -/

/-- Removal deletes the blocks that are found when the lines are read from the first one on, and keeps
every other line as it is. There is no block in the result, and removal leaves it as it is. -/
theorem strip_removes_blocks (qualname content : Text) :
    (∃! kept, Scan qualname (Text.lines content) kept) ∧
      (∀ kept, Scan qualname (Text.lines content) kept →
        strip qualname content = kept.flatten ∧ Text.lines (strip qualname content) = kept) ∧
      (∀ above block below, Text.lines (strip qualname content) = above ++ (block ++ below) →
        ¬ IsBlock qualname block) ∧
      strip qualname (strip qualname content) = strip qualname content := by
  refine ⟨?_, ?_, ?_, ?_⟩
  · refine ⟨stripLines qualname (Text.lines content), scan_iff.mpr rfl, ?_⟩
    intro kept scan
    exact (scan_iff.mp scan).symm
  · intro kept scan
    rw [lines_strip, strip, scan_iff.mp scan]
    exact ⟨rfl, rfl⟩
  · intro above block below cut
    have stripped := stripped_lines_strip qualname content
    rw [cut] at stripped
    exact stripped.not_isBlock
  · apply strip_eq_self_iff.mpr
    exact stripped_lines_strip qualname content

end SchemaDoc.Block
