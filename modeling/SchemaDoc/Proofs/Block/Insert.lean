import SchemaDoc.Proofs.Block.Basic

/-!
Contract: where insertion puts a block, and what it adds to the text.

The place is given by the lines above the definition of the class, its first line, and the lines
below (`StartsAt`). Where the white space in front of that line does not run over its end, the
result has the old lines and those of the block; everywhere it has the number signs of both.
-/

namespace SchemaDoc.Block

variable {locate : Text → Text → Except PlacementFault Nat}

/-- The definition of the class starts on the line between the lines above and those below. -/
structure StartsAt (locate : Text → Text → Except PlacementFault Nat) (content qualname : Text)
    (above : List Text) (statement : Text) (below : List Text) : Prop where
  split : Text.lines content = above ++ statement :: below
  located : ∃ line, locate content qualname = .ok line ∧ above.length = line - 1

theorem StartsAt.unique {content qualname statement statement' : Text}
    {above above' below below' : List Text}
    (first : StartsAt locate content qualname above statement below)
    (second : StartsAt locate content qualname above' statement' below') :
    above = above' ∧ statement = statement' ∧ below = below' := by
  obtain ⟨line, located, place⟩ := first.located
  obtain ⟨line', located', place'⟩ := second.located
  have sameLine : line = line' := Except.ok.inj (located.symm.trans located')
  have sameLength : above.length = above'.length := by rw [place, place', sameLine]
  have sameLines := first.split.symm.trans second.split
  obtain ⟨sameAbove, sameRest⟩ := List.append_inj sameLines sameLength
  exact ⟨sameAbove, (List.cons.inj sameRest).1, (List.cons.inj sameRest).2⟩

theorem insertAt?_eq_some_iff {lines result : List Text} {index : Nat} {block : Text} :
    insertAt? lines index block = some result ↔
      ∃ above statement below, lines = above ++ statement :: below ∧ above.length = index ∧
        result = above ++ (linesAbove statement block ++ statement :: below) := by
  unfold insertAt?
  constructor
  · intro inserted
    split at inserted
    · exact absurd inserted (by simp)
    · next statement below found =>
        have inside : index ≤ lines.length := by
          by_cases beyond : lines.length ≤ index
          · rw [List.drop_eq_nil_of_le beyond] at found
            exact absurd found (by simp)
          · omega
        refine ⟨lines.take index, statement, below, ?_, List.length_take_of_le inside, ?_⟩
        · rw [← found, List.take_append_drop]
        · rw [← Option.some.inj inserted, List.append_assoc]
  · rintro ⟨above, statement, below, rfl, rfl, rfl⟩
    rw [List.drop_left, List.take_left]
    exact congrArg some (List.append_assoc _ _ _)

/-- Insertion succeeds exactly where the class is located on a line of the text. -/
theorem insertWith_eq_ok_iff {content qualname block result : Text} :
    insertWith locate content qualname block = .ok result ↔
      ∃ above statement below, StartsAt locate content qualname above statement below ∧
        result = (above ++ (linesAbove statement block ++ statement :: below)).flatten := by
  unfold insertWith
  constructor
  · intro inserted
    split at inserted
    · exact absurd inserted (by simp)
    · next line located =>
        split at inserted
        · exact absurd inserted (by simp)
        · next lines placed =>
            obtain ⟨above, statement, below, split, place, rfl⟩ :=
              insertAt?_eq_some_iff.mp placed
            exact ⟨above, statement, below, ⟨split, line, located, place⟩,
              (Except.ok.inj inserted).symm⟩
  · rintro ⟨above, statement, below, ⟨split, line, located, place⟩, rfl⟩
    have placed := insertAt?_eq_some_iff.mpr
      ⟨above, statement, below, split, place, Eq.refl (above ++ (linesAbove statement block ++ _))⟩
    simp only [located, placed]

/-! ## The lines of the result -/

theorem StartsAt.areLines {content qualname statement : Text} {above below : List Text}
    (starts : StartsAt locate content qualname above statement below) :
    Text.AreLines (above ++ statement :: below) := by
  rw [← starts.split]
  exact Text.areLines_lines content

/-- The result has the old lines and those of the block. -/
theorem StartsAt.lines_insert {content qualname block statement : Text} {above below : List Text}
    (starts : StartsAt locate content qualname above statement below)
    (plain : IsPlain qualname block) (unspaced : Text.Unspaced qualname)
    (noFeed : '\n' ∉ Text.margin statement) :
    Text.lines (above ++ (linesAbove statement block ++ statement :: below)).flatten =
      above ++ (linesAbove statement block ++ statement :: below) := by
  obtain ⟨rest, whole⟩ := starts.areLines.of_append
  exact Text.lines_flatten ((rest.whole_append (plain.isWhole_linesAbove unspaced noFeed)
    ).whole_append (whole (by simp)))

/-! ## Number signs -/

theorem count_hash_blank {text : Text} (blank : Text.Blank text) : text.count '#' = 0 := by
  apply List.count_eq_zero.mpr
  exact blank.not_mem (by decide)

/-- The lines above a statement have the number signs of the block's display lines. -/
theorem count_hash_linesAbove (line block : Text) :
    (linesAbove line block).flatten.count '#' =
      (Text.displayLines block).flatten.count '#' := by
  unfold linesAbove
  induction Text.displayLines block with
  | nil => rfl
  | cons entry entries inductionHypothesis =>
      rw [List.map_cons, List.flatten_cons, List.count_append, inductionHypothesis,
        List.flatten_cons, List.count_append, List.count_append, List.count_append,
        count_hash_blank (Text.blank_margin line), count_hash_blank (blank_endingLike line)]
      omega

theorem count_hash_insertWith {content qualname block result : Text}
    (inserted : insertWith locate content qualname block = .ok result) :
    result.count '#' = content.count '#' + (Text.displayLines block).flatten.count '#' := by
  obtain ⟨above, statement, below, starts, rfl⟩ := insertWith_eq_ok_iff.mp inserted
  have old : content.count '#' = (above ++ statement :: below).flatten.count '#' := by
    rw [← starts.split, Text.flatten_lines]
  rw [old, List.flatten_append, List.flatten_append, List.flatten_append, List.count_append,
    List.count_append, List.count_append, count_hash_linesAbove]
  omega

end SchemaDoc.Block
