import SchemaDoc.Proofs.Block.Replacement

/-!
Contract: what the removal of one class's blocks does to the blocks of the other classes.

The search for an end marker passes every comment line, also the markers of other classes. A
complete block of another class is kept, whole and in its place, exactly when no begin marker that
removal leaves above it is open down to it (`strip_keeps_complete_iff`); an open one takes the
block along with all that stands in between.
-/

namespace SchemaDoc.Block

variable {qualname owner line : Text}

/-! ## Lines that removal passes over -/

/-- Lines without begin markers of the class are kept, whatever follows. -/
theorem stripLines_append_unmarked {front : List Text}
    (unmarked : ∀ line ∈ front, isBegin qualname line = false) (back : List Text) :
    stripLines qualname (front ++ back) = front ++ stripLines qualname back := by
  induction front with
  | nil => rfl
  | cons line front inductionHypothesis =>
      have plain := unmarked line List.mem_cons_self
      rw [List.cons_append, stripLines_kept fun begins => absurd begins (by simp [plain]),
        inductionHypothesis fun other member => unmarked other (List.mem_cons_of_mem line member)]
      rfl

/-- Removal takes comment lines only. -/
theorem all_isComment_stripLines (qualname : Text) (lines : List Text) :
    (stripLines qualname lines).all isComment = lines.all isComment := by
  induction lines using stripLines_induction qualname with
  | nil => rfl
  | closed line rest remaining begins found inductionHypothesis =>
      obtain ⟨comments, closing, rfl, areOpen, closes⟩ := split_of_afterEnd? found
      have areComments : comments.all isComment = true :=
        List.all_eq_true.mpr fun other member => (areOpen other member).1
      rw [inductionHypothesis, List.all_cons, List.all_append, List.all_cons, areComments,
        isComment_of_isBegin begins, isComment_of_isEnd closes]
      rfl
  | kept line rest _ inductionHypothesis =>
      rw [List.all_cons, List.all_cons, inductionHypothesis]

theorem endsOpen_cons_iff {lines : List Text} :
    EndsOpen qualname (line :: lines) ↔
      isBegin qualname line = true ∧ lines.all isComment = true ∨ EndsOpen qualname lines := by
  constructor
  · rintro ⟨before, marker, comments, split, begins, areComments⟩
    cases before with
    | nil =>
        obtain ⟨rfl, rfl⟩ := List.cons.inj split
        exact .inl ⟨begins, List.all_eq_true.mpr areComments⟩
    | cons first before =>
        obtain ⟨-, rfl⟩ := List.cons.inj split
        exact .inr ⟨before, marker, comments, rfl, begins, areComments⟩
  · rintro (⟨begins, areComments⟩ | open_)
    · exact ⟨[], line, lines, rfl, begins, List.all_eq_true.mp areComments⟩
    · exact open_.cons line

/-! ## A block of another class -/

/-- Where no begin marker is open above it, the block of another class stays where it is. -/
theorem stripLines_append_complete {block : List Text} (complete : IsComplete owner block)
    (distinct : qualname ≠ owner) (above below : List Text)
    (closed : ¬ EndsOpen qualname (stripLines qualname above)) :
    stripLines qualname (above ++ (block ++ below)) =
      stripLines qualname above ++ (block ++ stripLines qualname below) := by
  revert closed
  induction above using stripLines_induction qualname with
  | nil =>
      intro _
      exact stripLines_append_unmarked (complete.isBegin_eq_false distinct) below
  | closed line rest remaining begins found inductionHypothesis =>
      intro closed
      rw [List.cons_append, stripLines_closed begins (afterEnd?_append_some found _)]
      exact inductionHypothesis closed
  | kept line rest kept inductionHypothesis =>
      intro closed
      rw [endsOpen_cons_iff, not_or, all_isComment_stripLines] at closed
      have keptOn : isBegin qualname line = true →
          afterEnd? (rest ++ (block ++ below)) = none := fun begins =>
        afterEnd?_append_none (kept begins)
          (Bool.eq_false_iff.mpr fun areComments => closed.1 ⟨begins, areComments⟩) _
      rw [List.cons_append, stripLines_kept keptOn, inductionHypothesis closed.2]
      rfl

/-- A begin marker that is open above a block goes with it, and so does all in between. -/
theorem stripLines_append_endsOpen {block : List Text} (isBlock : IsBlock owner block)
    (above below : List Text) (open_ : EndsOpen qualname (stripLines qualname above)) :
    ∃ kept marker comments, stripLines qualname above = kept ++ marker :: comments ∧
      isBegin qualname marker = true ∧
      stripLines qualname (above ++ (block ++ below)) = kept ++ stripLines qualname below := by
  revert open_
  induction above using stripLines_induction qualname with
  | nil =>
      rintro ⟨before, marker, comments, empty, -⟩
      exact absurd empty (by simp)
  | closed line rest remaining begins found inductionHypothesis =>
      intro open_
      rw [List.cons_append, stripLines_closed begins (afterEnd?_append_some found _)]
      exact inductionHypothesis open_
  | kept line rest kept inductionHypothesis =>
      intro open_
      by_cases opens : isBegin qualname line = true ∧ rest.all isComment = true
      · obtain ⟨begins, areComments⟩ := opens
        refine ⟨[], line, stripLines qualname rest, rfl, begins, ?_⟩
        have found : afterEnd? (rest ++ (block ++ below)) = some below := by
          rw [afterEnd?_append, kept begins]
          simp only [areComments, if_true]
          exact isBlock.afterEnd?_append below
        rw [List.cons_append, stripLines_closed begins found]
        rfl
      · rw [endsOpen_cons_iff, all_isComment_stripLines] at open_
        obtain ⟨before, marker, comments, split, begins, removed⟩ :=
          inductionHypothesis (open_.resolve_left opens)
        refine ⟨line :: before, marker, comments, by rw [split]; rfl, begins, ?_⟩
        have keptOn : isBegin qualname line = true →
            afterEnd? (rest ++ (block ++ below)) = none := fun lineBegins =>
          afterEnd?_append_none (kept lineBegins)
            (Bool.eq_false_iff.mpr fun areComments => opens ⟨lineBegins, areComments⟩) _
        rw [List.cons_append, stripLines_kept keptOn, removed]
        rfl

/-- A complete block of another class is kept where it stands exactly when no begin marker that
removal leaves above it is followed by comments alone down to the block. Otherwise the block is
removed from that marker on. -/
theorem strip_keeps_complete_iff {content : Text} {above block below : List Text}
    (distinct : qualname ≠ owner) (complete : IsComplete owner block)
    (split : Text.lines content = above ++ (block ++ below)) :
    (Text.lines (strip qualname content) =
        stripLines qualname above ++ (block ++ stripLines qualname below) ↔
      ¬ EndsOpen qualname (stripLines qualname above)) ∧
    (EndsOpen qualname (stripLines qualname above) →
      ∃ kept marker comments, stripLines qualname above = kept ++ marker :: comments ∧
        isBegin qualname marker = true ∧
        Text.lines (strip qualname content) = kept ++ stripLines qualname below) := by
  rw [lines_strip, split]
  refine ⟨⟨fun same open_ => ?_, stripLines_append_complete complete distinct above below⟩,
    stripLines_append_endsOpen complete.isBlock above below⟩
  obtain ⟨kept, marker, comments, cut, -, removed⟩ :=
    stripLines_append_endsOpen complete.isBlock above below open_
  -- What the open marker takes along makes the result too short.
  have sameLength := congrArg List.length (same.symm.trans removed)
  simp only [cut, List.length_append, List.length_cons] at sameLength
  omega

namespace Sample

def otherName : Text := "Order"

/-- A block of the other class, as lines of a text. -/
def otherBlock : List Text :=
  ["# region model-doc: Order\n", "# @table orders\n", "# @property  INTEGER  int  id\n",
    "# endregion model-doc\n"]

/-- The begin marker of the first class, whose end marker is lost. -/
def openMarker : List Text :=
  ["# region model-doc: User\n", "# @table users\n"]

def otherClass : List Text :=
  ["class Order:\n", "    pass\n"]

theorem isComplete_otherBlock : IsComplete otherName otherBlock :=
  ⟨_, ["# @table orders\n", "# @property  INTEGER  int  id\n"], _, rfl, by decide,
    by decide, by decide⟩

end Sample

theorem strip_keeps_complete_sample :
    (Text.lines (strip Sample.className
        (Text.lines Sample.block ++ (Sample.otherBlock ++ Sample.otherClass)).flatten) =
          stripLines Sample.className (Text.lines Sample.block) ++
            (Sample.otherBlock ++ stripLines Sample.className Sample.otherClass) ↔
      ¬ EndsOpen Sample.className (stripLines Sample.className (Text.lines Sample.block))) ∧
    (EndsOpen Sample.className (stripLines Sample.className (Text.lines Sample.block)) →
      ∃ kept marker comments,
        stripLines Sample.className (Text.lines Sample.block) = kept ++ marker :: comments ∧
        isBegin Sample.className marker = true ∧
        Text.lines (strip Sample.className
          (Text.lines Sample.block ++ (Sample.otherBlock ++ Sample.otherClass)).flatten) =
            kept ++ stripLines Sample.className Sample.otherClass) :=
  strip_keeps_complete_iff (by decide) Sample.isComplete_otherBlock (by decide)

/-- A begin marker without an end takes the block of another class below it. -/
theorem strip_takes_other_block :
    Sample.className ≠ Sample.otherName ∧ IsComplete Sample.otherName Sample.otherBlock ∧
      Text.lines (Sample.openMarker ++ (Sample.otherBlock ++ Sample.otherClass)).flatten =
        Sample.openMarker ++ (Sample.otherBlock ++ Sample.otherClass) ∧
      ¬ Sample.otherBlock.IsInfix (Text.lines (strip Sample.className
        (Sample.openMarker ++ (Sample.otherBlock ++ Sample.otherClass)).flatten)) := by
  have cut : Text.lines (Sample.openMarker ++ (Sample.otherBlock ++ Sample.otherClass)).flatten =
      Sample.openMarker ++ (Sample.otherBlock ++ Sample.otherClass) := by
    decide
  have swallowed : afterEnd? ("# @table users\n".toList ::
      (Sample.otherBlock ++ Sample.otherClass)) = some Sample.otherClass := by
    decide
  have rest : Stripped Sample.className Sample.otherClass := by decide
  refine ⟨by decide, Sample.isComplete_otherBlock, cut, ?_⟩
  rw [lines_strip, cut]
  have removed : stripLines Sample.className
      (Sample.openMarker ++ (Sample.otherBlock ++ Sample.otherClass)) = Sample.otherClass :=
    (stripLines_closed (by decide) swallowed).trans rest.stripLines_eq_self
  rw [removed]
  decide

end SchemaDoc.Block
