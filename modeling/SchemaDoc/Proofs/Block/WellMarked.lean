import SchemaDoc.Proofs.Block.Separation

/-!
Contract: texts in which every begin marker opens a complete block.

Owns:
- `WellMarked`, and that such a text is a sequence of complete blocks and of other lines;
- that removal parts at every line and leaves such a text (`WellMarked.stripLines_append`);
- that the removals for two classes commute, and what they do to the number of begin markers.
-/

namespace SchemaDoc.Block

/-! ## Texts of complete blocks -/

/-- Every begin marker is followed by comment lines up to an end marker, with no other marker in
between. -/
def WellMarked : List Text → Prop
  | [] => True
  | line :: rest =>
    (beginsBlock line = true →
      ∃ comments closing back, rest = comments ++ closing :: back ∧
        (∀ comment ∈ comments, isComment comment = true ∧ isEnd comment = false ∧
          beginsBlock comment = false) ∧ isEnd closing = true) ∧
      WellMarked rest

namespace WellMarked

theorem of_append {front back : List Text} (marked : WellMarked (front ++ back)) :
    WellMarked back := by
  induction front with
  | nil => exact marked
  | cons line front inductionHypothesis => exact inductionHypothesis marked.2

theorem cons_plain {line : Text} {rest : List Text} (plain : beginsBlock line = false)
    (marked : WellMarked rest) : WellMarked (line :: rest) :=
  ⟨fun begins => absurd begins (by simp [plain]), marked⟩

theorem plain_append {front rest : List Text}
    (plain : ∀ line ∈ front, beginsBlock line = false) (marked : WellMarked rest) :
    WellMarked (front ++ rest) := by
  induction front with
  | nil => exact marked
  | cons line front inductionHypothesis =>
      exact cons_plain (plain line List.mem_cons_self) (inductionHypothesis fun other member =>
        plain other (List.mem_cons_of_mem line member))

theorem block_append {owner : Text} {block rest : List Text}
    (complete : IsComplete owner block) (marked : WellMarked rest) :
    WellMarked (block ++ rest) := by
  obtain ⟨marker, comments, closing, rfl, -, areComments, closes⟩ := complete
  exact ⟨fun _ => ⟨comments, closing, rest, by simp, areComments, closes⟩,
    plain_append (beginsBlock_eq_false_of_mem areComments closes) marked⟩

/-- Such a text is a sequence of complete blocks and of lines that begin no block. -/
theorem sequence {motive : (lines : List Text) → WellMarked lines → Prop}
    (nil : motive [] trivial)
    (plain : ∀ line rest (plain : beginsBlock line = false) (marked : WellMarked rest),
      motive rest marked → motive (line :: rest) (cons_plain plain marked))
    (block : ∀ owner block rest (complete : IsComplete owner block) (marked : WellMarked rest),
      motive rest marked → motive (block ++ rest) (block_append complete marked))
    {lines : List Text} (marked : WellMarked lines) : motive lines marked := by
  induction size : lines.length using Nat.strongRecOn generalizing lines with
  | ind size inductionHypothesis =>
      subst size
      cases lines with
      | nil => exact nil
      | cons line rest =>
          by_cases begins : beginsBlock line = true
          · obtain ⟨owner, isBegin⟩ := beginsBlock_iff.mp begins
            obtain ⟨comments, closing, back, rfl, areComments, closes⟩ := marked.1 begins
            have backMarked : WellMarked back :=
              @of_append (line :: (comments ++ [closing])) back (by simpa using marked)
            have complete : IsComplete owner (line :: (comments ++ [closing])) :=
              ⟨line, comments, closing, rfl, isBegin, areComments, closes⟩
            have later := block owner _ back complete backMarked
              (inductionHypothesis back.length (by simp; omega) backMarked rfl)
            simpa using later
          · exact plain line rest (by simpa using begins) marked.2
              (inductionHypothesis rest.length (by simp) marked.2 rfl)

theorem append {front back : List Text} (frontMarked : WellMarked front)
    (backMarked : WellMarked back) : WellMarked (front ++ back) := by
  induction frontMarked using sequence with
  | nil => exact backMarked
  | plain line rest plain _ inductionHypothesis => exact cons_plain plain inductionHypothesis
  | block owner block rest complete _ inductionHypothesis =>
      rw [List.append_assoc]
      exact block_append complete inductionHypothesis

end WellMarked

/-- A block does not go on at the line: it is no comment, or begins another block. -/
def IsBarrier (line : Text) : Prop :=
  isComment line = false ∨ beginsBlock line = true

theorem IsBarrier.isEnd_eq_false {line : Text} (barrier : IsBarrier line) : isEnd line = false := by
  refine Bool.eq_false_iff.mpr fun closes => ?_
  rcases barrier with solid | begins
  · rw [isComment_of_isEnd closes] at solid
    exact absurd solid (by decide)
  · rw [beginsBlock_eq_false_of_isEnd closes] at begins
    exact absurd begins (by decide)

/-- The blocks above a barrier end above it. -/
theorem WellMarked.above {front back : List Text} {line : Text}
    (marked : WellMarked (front ++ line :: back)) (barrier : IsBarrier line) :
    WellMarked front := by
  induction front with
  | nil => trivial
  | cons first front inductionHypothesis =>
      refine ⟨fun begins => ?_, inductionHypothesis marked.2⟩
      obtain ⟨comments, closing, rest, split, areComments, closes⟩ := marked.1 begins
      have notClosing : closing ≠ line := by
        rintro rfl
        rw [barrier.isEnd_eq_false] at closes
        exact absurd closes (by decide)
      have notComment : line ∉ comments := by
        intro member
        obtain ⟨comment, -, plain⟩ := areComments line member
        rcases barrier with solid | begins
        · exact absurd (comment.symm.trans solid) (by decide)
        · exact absurd (begins.symm.trans plain) (by decide)
      rcases List.append_eq_append_iff.mp split with ⟨others, longer, tail⟩ | ⟨others, rfl, tail⟩
      · cases others with
        | nil => exact absurd (List.cons.inj tail).1.symm notClosing
        | cons other others =>
            obtain ⟨rfl, -⟩ := List.cons.inj tail
            exact absurd (longer ▸ by simp) notComment
      · cases others with
        | nil => exact absurd (List.cons.inj tail).1 notClosing
        | cons other others =>
            obtain ⟨rfl, -⟩ := List.cons.inj tail
            exact ⟨comments, closing, others, rfl, areComments, closes⟩

/-! ## Removal from texts of complete blocks -/

section Removal

variable {qualname other owner : Text}

theorem stripLines_plain {line : Text} (plain : beginsBlock line = false) (rest : List Text) :
    stripLines qualname (line :: rest) = line :: stripLines qualname rest :=
  stripLines_kept fun begins =>
    absurd begins (by simp [isBegin_eq_false_of_beginsBlock plain qualname])

theorem IsComplete.stripLines_other {block : List Text} (complete : IsComplete owner block)
    (distinct : qualname ≠ owner) (rest : List Text) :
    stripLines qualname (block ++ rest) = block ++ stripLines qualname rest :=
  stripLines_append_unmarked (complete.isBegin_eq_false distinct) rest

theorem beginsBlock_of_solid {line : Text} (solid : isComment line = false) :
    beginsBlock line = false := by
  refine Bool.eq_false_iff.mpr fun begins => ?_
  obtain ⟨name, isBegin⟩ := beginsBlock_iff.mp begins
  rw [isComment_of_isBegin isBegin] at solid
  exact absurd solid (by decide)

namespace WellMarked

variable {lines : List Text}

theorem stripLines_append {front : List Text} (marked : WellMarked front) (back : List Text) :
    stripLines qualname (front ++ back) = stripLines qualname front ++ stripLines qualname back := by
  induction marked using WellMarked.sequence with
  | nil => rw [stripLines_nil, List.nil_append, List.nil_append]
  | plain line rest plain _ inductionHypothesis =>
      rw [List.cons_append, stripLines_plain plain, stripLines_plain plain, inductionHypothesis,
        List.cons_append]
  | block owner block rest complete _ inductionHypothesis =>
      rw [List.append_assoc]
      by_cases same : qualname = owner
      · subst same
        rw [complete.isBlock.stripLines_append, complete.isBlock.stripLines_append,
          inductionHypothesis]
      · rw [complete.stripLines_other same, complete.stripLines_other same, inductionHypothesis,
          List.append_assoc]

theorem stripLines_solid {above below : List Text} {line : Text}
    (marked : WellMarked (above ++ line :: below)) (solid : isComment line = false) :
    stripLines qualname (above ++ line :: below) =
      stripLines qualname above ++ line :: stripLines qualname below := by
  rw [(marked.above (.inl solid)).stripLines_append, stripLines_plain (beginsBlock_of_solid solid)]

/-- Removal leaves complete blocks. -/
theorem stripLines (marked : WellMarked lines) : WellMarked (Block.stripLines qualname lines) := by
  induction marked using WellMarked.sequence with
  | nil =>
      rw [stripLines_nil]
      trivial
  | plain line rest plain _ inductionHypothesis =>
      rw [stripLines_plain plain]
      exact cons_plain plain inductionHypothesis
  | block owner block rest complete _ inductionHypothesis =>
      by_cases same : qualname = owner
      · subst same
        rw [complete.isBlock.stripLines_append]
        exact inductionHypothesis
      · rw [complete.stripLines_other same]
        exact block_append complete inductionHypothesis

/-- The removals for two classes commute. -/
theorem stripLines_comm (marked : WellMarked lines) :
    Block.stripLines qualname (Block.stripLines other lines) =
      Block.stripLines other (Block.stripLines qualname lines) := by
  induction marked using WellMarked.sequence with
  | nil => simp only [stripLines_nil]
  | plain line rest plain _ inductionHypothesis =>
      simp only [stripLines_plain plain, inductionHypothesis]
  | block owner block rest complete _ inductionHypothesis =>
      by_cases first : qualname = owner
      · subst first
        by_cases second : other = qualname
        · rw [second]
        · rw [complete.stripLines_other second, complete.isBlock.stripLines_append,
            complete.isBlock.stripLines_append, inductionHypothesis]
      · by_cases second : other = owner
        · subst second
          rw [complete.isBlock.stripLines_append, complete.stripLines_other first,
            complete.isBlock.stripLines_append, inductionHypothesis]
        · rw [complete.stripLines_other second, complete.stripLines_other first,
            complete.stripLines_other first, complete.stripLines_other second,
            inductionHypothesis]

end WellMarked

/-! ## Counting begin markers -/

theorem IsComplete.countP_own {block : List Text} (complete : IsComplete owner block) :
    block.countP (isBegin owner) = 1 := by
  obtain ⟨marker, comments, closing, rfl, begins, areComments, closes⟩ := complete
  have none : (comments ++ [closing]).countP (isBegin owner) = 0 := by
    refine List.countP_eq_zero.mpr fun line member => ?_
    rw [Bool.not_eq_true]
    exact isBegin_eq_false_of_beginsBlock
      (beginsBlock_eq_false_of_mem areComments closes line member) owner
  rw [List.countP_cons_of_pos begins, none]

theorem IsComplete.countP_other {block : List Text} (complete : IsComplete owner block)
    (distinct : qualname ≠ owner) : block.countP (isBegin qualname) = 0 :=
  List.countP_eq_zero.mpr fun line member => by
    simp [complete.isBegin_eq_false distinct line member]

/-- Removal leaves no marker of the class, and all those of the other classes. -/
theorem WellMarked.countP_stripLines {lines : List Text} (marked : WellMarked lines) :
    (Block.stripLines qualname lines).countP (isBegin other) =
      if other = qualname then 0 else lines.countP (isBegin other) := by
  induction marked using WellMarked.sequence with
  | nil => simp
  | plain line rest plain _ inductionHypothesis =>
      have notOther := isBegin_eq_false_of_beginsBlock plain other
      rw [stripLines_plain plain, List.countP_cons_of_neg (by simp [notOther]),
        List.countP_cons_of_neg (by simp [notOther]), inductionHypothesis]
  | block owner block rest complete _ inductionHypothesis =>
      by_cases same : qualname = owner
      · subst same
        rw [complete.isBlock.stripLines_append, inductionHypothesis]
        split
        · rfl
        · next distinct => rw [List.countP_append, complete.countP_other distinct, Nat.zero_add]
      · rw [complete.stripLines_other same, List.countP_append, inductionHypothesis]
        split
        · next isOwn => rw [isOwn, complete.countP_other same]
        · rw [List.countP_append]

end Removal

end SchemaDoc.Block
