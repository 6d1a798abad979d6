import SchemaDoc.Proofs.Block.Comments
import SchemaDoc.Proofs.Source.Lookup

/-!
Contract: what the replacement of a block does to the program around it.

Removal and insertion work on lines and do not look at tokens. The program stays the same, and
only its comments change, exactly when every block that is removed consists of comments of the
program, and the new one goes where a line of the program starts
(`replace_keeps_program_iff`). A marker inside a string breaks the first condition, a definition
that starts behind a continuation the second.
-/

namespace SchemaDoc.Block

open Source

/-- Every block of the class is made of comments of the program. -/
def BlocksAreComments (qualname content : Text) : Prop :=
  ∀ before block after, Text.lines content = before ++ (block ++ after) →
    IsBlock qualname block → ReadsAsComments before.flatten block.flatten

/-- The lines of a block above the definition of the class are comments of the program. -/
def AddsComments (nameOf : Text → Option Nat) (content qualname block : Text) : Prop :=
  ∃ above statement below, StartsAt (locate nameOf) content qualname above statement below ∧
    ReadsAsComments above.flatten (linesAbove statement block).flatten

/-- The definition of the class starts where a line of the program starts, behind nothing but
what is white space there. -/
def StartsLine (nameOf : Text → Option Nat) (content qualname : Text) : Prop :=
  ∃ above statement below, StartsAt (locate nameOf) content qualname above statement below ∧
    AtLineStart above.flatten ∧
    ∀ c ∈ Text.margin statement, isLineEnd c = true ∨ Lexer.isGap c = true

/-! ## Removal -/

theorem wholeLines_flatten {lines : List Text} (whole : ∀ line ∈ lines, Text.IsWhole line) :
    WholeLines lines.flatten := by
  induction lines with
  | nil => exact .inl rfl
  | cons line lines inductionHypothesis =>
      obtain ⟨body, -, rfl⟩ := whole line (by simp)
      rcases inductionHypothesis fun other member => whole other (List.mem_cons_of_mem _ member)
        with empty | ends
      · rw [List.flatten_cons, empty, List.append_nil]
        exact .inr (@Lexer.EndsLine.append ['\n'] rfl body)
      · exact .inr (ends.append _)

/-- One text reads like another one, whatever follows them where a line of the other one may
start. -/
def ReadsLike (text other : Text) : Prop :=
  ∀ rest, (rest ≠ [] → WholeLines other) → ∀ tokens,
    Gives (text ++ rest) tokens ↔ Gives (other ++ rest) tokens

theorem ReadsLike.append_line {text other : Text} (like : ReadsLike text other)
    (whole : WholeLines other) (line : Text) : ReadsLike (text ++ line) (other ++ line) := by
  intro rest _ tokens
  rw [List.append_assoc, List.append_assoc]
  exact like (line ++ rest) (fun _ => whole) tokens

theorem ReadsLike.append_comments {text other block : Text} (like : ReadsLike text other)
    (whole : WholeLines other) (comments : ReadsAsComments other block) :
    ReadsLike text (other ++ block) := by
  intro rest restWhole tokens
  have blockWhole : rest ≠ [] → WholeLines block := fun nonempty => (restWhole nonempty).of_append
  have skipped := gives_append_comments whole comments blockWhole tokens
  rw [like rest (fun _ => whole), List.append_assoc]
  exact skipped.symm

/-- What is kept of the lines passed reads like those lines, and so on to the end. -/
theorem gives_append_stripLines {qualname content : Text}
    (comments : BlocksAreComments qualname content) (tokens : List Token) {lines passed : List Text}
    {kept : Text} (split : Text.lines content = passed ++ lines)
    (like : ReadsLike kept passed.flatten) :
    Gives (kept ++ (stripLines qualname lines).flatten) tokens ↔
      Gives (passed.flatten ++ lines.flatten) tokens := by
  have shape := Text.areLines_lines content
  revert split like
  induction lines using stripLines_induction qualname generalizing passed kept with
  | nil =>
      intro _ like
      exact like [] (by simp) tokens
  | closed line rest remaining begins found inductionHypothesis =>
      intro split like
      obtain ⟨block, blockSplit, isBlock⟩ := isBlock_of_afterEnd? begins found
      have whole : WholeLines passed.flatten := by
        rw [split] at shape
        exact wholeLines_flatten (shape.of_append.2 (by simp))
      rw [blockSplit] at split ⊢
      have blockComments := comments passed block remaining split isBlock
      have likeBlock : ReadsLike kept (passed ++ block).flatten := by
        rw [List.flatten_append]
        exact like.append_comments whole blockComments
      rw [List.flatten_append, ← List.append_assoc, ← List.flatten_append]
      exact inductionHypothesis (split.trans (List.append_assoc _ _ _).symm) likeBlock
  | kept line rest _ inductionHypothesis =>
      intro split like
      have whole : WholeLines passed.flatten := by
        rw [split] at shape
        exact wholeLines_flatten (shape.of_append.2 (by simp))
      have likeLine : ReadsLike (kept ++ line) (passed ++ [line]).flatten := by
        rw [List.flatten_append, List.flatten_singleton]
        exact like.append_line whole line
      have later := inductionHypothesis (split.trans (List.append_cons _ _ _)) likeLine
      simpa using later

/-- Removal of blocks that are comments of the program changes no token. -/
theorem gives_strip {qualname content : Text} (comments : BlocksAreComments qualname content)
    (tokens : List Token) : Gives (strip qualname content) tokens ↔ Gives content tokens := by
  have whole := @gives_append_stripLines _ _ comments tokens _ [] [] rfl fun _ _ _ => Iff.rfl
  rwa [List.nil_append, List.flatten_nil, List.nil_append, Text.flatten_lines] at whole

/-! ## Insertion -/

/-- A block at a line start changes no token. -/
theorem gives_insert {content qualname block statement : Text} {above below : List Text}
    {locate : Text → Text → Except PlacementFault Nat}
    (starts : StartsAt locate content qualname above statement below)
    (comments : ReadsAsComments above.flatten (linesAbove statement block).flatten)
    (tokens : List Token) :
    Gives (above ++ (linesAbove statement block ++ statement :: below)).flatten tokens ↔
      Gives content tokens := by
  have aboveWhole : WholeLines above.flatten :=
    wholeLines_flatten (starts.areLines.of_append.2 (by simp))
  have addedWhole : WholeLines (linesAbove statement block).flatten := by
    unfold linesAbove
    induction Text.displayLines block with
    | nil => exact .inl rfl
    | cons entry entries inductionHypothesis =>
        rw [List.map_cons, List.flatten_cons]
        rcases inductionHypothesis with empty | ends
        · rw [empty, List.append_nil]
          exact .inr ((endsLine_endingLike statement).append _)
        · exact .inr (ends.append _)
  have split : content = above.flatten ++ (statement :: below).flatten := by
    rw [← List.flatten_append, ← starts.split, Text.flatten_lines]
  rw [List.flatten_append, List.flatten_append, split]
  exact gives_append_comments aboveWhole comments (fun _ => addedWhole) tokens

theorem mem_linesAbove {line block added : Text} {c : Char} (member : added ∈ linesAbove line block)
    (inLine : c ∈ added) : c ∈ line ∨ c ∈ block ∨ c = '\n' ∨ c = '\r' := by
  obtain ⟨entry, inBlock, rfl⟩ := List.mem_map.mp member
  rcases List.mem_append.mp inLine with inFront | inEnding
  · rcases List.mem_append.mp inFront with inMargin | inEntry
    · exact .inl ((List.takeWhile_prefix _).mem inMargin)
    · exact .inr (.inl (Text.mem_of_mem_displayLines inBlock inEntry))
  · rcases isPhysicalEnd_endingLike line with isFeed | isPair
    · rw [isFeed] at inEnding
      exact .inr (.inr (.inl (List.mem_singleton.mp inEnding)))
    · rw [isPair] at inEnding
      exact .inr (.inr (by simpa [or_comm] using inEnding))

/-- The result has no null character exactly when neither the text nor the block has one. -/
theorem null_mem_insert_iff {content qualname block statement : Text} {above below : List Text}
    {locate : Text → Text → Except PlacementFault Nat}
    (starts : StartsAt locate content qualname above statement below)
    (absent : Char.ofNat 0 ∉ content) :
    Char.ofNat 0 ∈ (above ++ (linesAbove statement block ++ statement :: below)).flatten ↔
      Char.ofNat 0 ∈ block := by
  have old : ∀ line ∈ above ++ statement :: below, Char.ofNat 0 ∉ line := by
    intro line inLines inLine
    rw [← starts.split] at inLines
    exact absent (Text.flatten_lines content ▸ List.mem_flatten_of_mem inLines inLine)
  constructor
  · intro member
    obtain ⟨line, inLines, inLine⟩ := List.mem_flatten.mp member
    rcases List.mem_append.mp inLines with inAbove | inRest
    · exact absurd inLine (old line (List.mem_append_left _ inAbove))
    · rcases List.mem_append.mp inRest with inAdded | inBelow
      · rcases mem_linesAbove inAdded inLine with inStatement | inBlock | isFeed | isReturn
        · exact absurd inStatement (old statement (by simp))
        · exact inBlock
        · exact absurd isFeed (by decide)
        · exact absurd isReturn (by decide)
      · exact absurd inLine (old line (List.mem_append_right _ inBelow))
  · intro member
    obtain ⟨entry, inBlock, inEntry⟩ := Text.exists_mem_displayLines member (by decide)
    have inAdded : Text.margin statement ++ entry ++ endingLike statement ∈
        linesAbove statement block := List.mem_map.mpr ⟨entry, inBlock, rfl⟩
    exact List.mem_flatten_of_mem (List.mem_append_right _ (List.mem_append_left _ inAdded))
      (List.mem_append_left _ (List.mem_append_right _ inEntry))

theorem IsPlain.exists_displayLine {qualname block : Text} (plain : IsPlain qualname block) :
    ∃ entry, entry ∈ Text.displayLines block := by
  obtain ⟨table, columns, relations, rendered, -⟩ := plain
  have member : '#' ∈ block := by
    rw [render?_eq_some rendered]
    exact List.mem_cons_self
  obtain ⟨entry, inBlock, -⟩ := Text.exists_mem_displayLines member (by decide)
  exact ⟨entry, inBlock⟩

/-- The program stays the same and only comment lines of it differ - the result is read, has the
same statements and tokens, and what is removed and added are comment lines - exactly when the
blocks of the class in the text are comment lines of the program, its definition starts where a
line of the program starts, and the new block has comment lines without null characters. -/
theorem replace_keeps_program_iff {nameOf : Text → Option Nat}
    {content qualname block result : Text} {file : SourceFile} (plain : IsPlain qualname block)
    (isRead : SourceFile.read nameOf content = .ok file)
    (replaced : replace nameOf content qualname block = .ok result) :
    ((∃ written, SourceFile.read nameOf result = .ok written ∧
          written.statements = file.statements) ∧
        (∀ tokens, Gives result tokens ↔ Gives content tokens) ∧
        BlocksAreComments qualname content ∧
        AddsComments nameOf (strip qualname content) qualname block) ↔
      BlocksAreComments qualname content ∧ StartsLine nameOf (strip qualname content) qualname ∧
        (∀ entry ∈ Text.displayLines block, onlyComments entry = true) ∧
        Char.ofNat 0 ∉ block := by
  obtain ⟨above, statement, below, starts, rfl⟩ := insertWith_eq_ok_iff.mp replaced
  obtain ⟨absent, tokens, gives, parsed⟩ :=
    SourceFile.read_eq_ok_iff.mp ⟨file, isRead, Eq.refl file.statements⟩
  have absentKept : Char.ofNat 0 ∉ strip qualname content := fun member =>
    absent (mem_of_mem_strip member)
  have nullIff := @null_mem_insert_iff _ _ block _ _ _ _ starts absentKept
  constructor
  · rintro ⟨⟨written, isWritten, -⟩, -, comments, above', statement', below', starts', lineStart,
      added⟩
    obtain ⟨rfl, rfl, rfl⟩ := starts.unique starts'
    have entries := onlyComments_linesAbove.mp added
    obtain ⟨entry, inBlock⟩ := plain.exists_displayLine
    have absentResult := (SourceFile.read_eq_ok_iff.mp ⟨written, isWritten, rfl⟩).1
    exact ⟨comments, ⟨above, statement, below, starts, lineStart, (entries entry inBlock).2⟩,
      fun other member => (entries other member).1, fun inside => absentResult (nullIff.mpr inside)⟩
  · rintro ⟨comments, ⟨above', statement', below', starts', lineStart, space⟩, entries, noNull⟩
    obtain ⟨rfl, rfl, rfl⟩ := starts.unique starts'
    have added : ReadsAsComments above.flatten (linesAbove statement block).flatten :=
      ⟨lineStart, onlyComments_linesAbove.mpr fun entry member => ⟨entries entry member, space⟩⟩
    have same := fun tokens =>
      (gives_insert starts added tokens).trans (gives_strip comments tokens)
    exact ⟨SourceFile.read_eq_ok_iff.mpr ⟨fun inside => noNull (nullIff.mp inside), tokens,
      (same tokens).mpr gives, parsed⟩, same, comments, above, statement, below, starts, added⟩

namespace Sample

/-- The statement of the sample class, whose first word stands at a place among the tokens. -/
def classStatement (place : Nat) : Stmt :=
  .classDef ⟨place, className, [], []⟩ [.simple .pass]

theorem read_source :
    SourceFile.read (fun _ => none) source =
      .ok ⟨[classStatement 0], [1, 1, 1, 1, 2, 2, 2, 3, 3]⟩ := by
  rfl

end Sample

theorem replace_keeps_program_sample :
    ((∃ written,
          SourceFile.read (fun _ => none) (Sample.block ++ Sample.source) = .ok written ∧
            written.statements = [Sample.classStatement 0]) ∧
        (∀ tokens, Gives (Sample.block ++ Sample.source) tokens ↔ Gives Sample.source tokens) ∧
        BlocksAreComments Sample.className Sample.source ∧
        AddsComments (fun _ => none) (strip Sample.className Sample.source) Sample.className
          Sample.block) ↔
      BlocksAreComments Sample.className Sample.source ∧
        StartsLine (fun _ => none) (strip Sample.className Sample.source) Sample.className ∧
        (∀ entry ∈ Text.displayLines Sample.block, onlyComments entry = true) ∧
        Char.ofNat 0 ∉ Sample.block :=
  replace_keeps_program_iff Sample.isPlain_block Sample.read_source
    (by rw [replace, replaceWith, Sample.strip_source]; exact Sample.insert_source)

namespace Sample

/-- An assignment of a text to a name. -/
def assignment (value : Text) : Stmt :=
  .simple (.assign [.name ['x']] (.text (value.map Char.toNat)))

/-- The lines of a block, without columns, in a string in front of the class. -/
def quotedSource : Text :=
  "x = \"\"\"\n# region model-doc: User\n# endregion model-doc\n\"\"\"\n" ++ source

theorem strip_quotedSource :
    strip className quotedSource = "x = \"\"\"\n\"\"\"\n" ++ source := by
  have cut : Text.lines quotedSource =
      "x = \"\"\"\n".toList :: "# region model-doc: User\n".toList ::
        "# endregion model-doc\n".toList :: "\"\"\"\n".toList :: Text.lines source := by
    decide +kernel
  have rest : Stripped className ("\"\"\"\n".toList :: Text.lines source) := by decide +kernel
  rw [strip, cut, stripLines_kept (by decide +kernel), stripLines_closed (by decide +kernel)
    (afterEnd?_closing (by decide +kernel) _), rest.stripLines_eq_self]
  decide +kernel

end Sample

set_option maxRecDepth 4000 in
/-- A block inside a string is removed from it. -/
theorem replace_in_string :
    SourceFile.read (fun _ => none) Sample.quotedSource =
        .ok ⟨[Sample.assignment "\n# region model-doc: User\n# endregion model-doc\n",
          Sample.classStatement 4], [1, 1, 1, 4, 5, 5, 5, 5, 6, 6, 6, 7, 7]⟩ ∧
      replace (fun _ => none) Sample.quotedSource Sample.className Sample.block =
        .ok ("x = \"\"\"\n\"\"\"\n" ++ (Sample.block ++ Sample.source)) ∧
      SourceFile.read (fun _ => none) ("x = \"\"\"\n\"\"\"\n" ++ (Sample.block ++ Sample.source)) =
        .ok ⟨[Sample.assignment "\n", Sample.classStatement 4],
          [1, 1, 1, 2, 7, 7, 7, 7, 8, 8, 8, 9, 9]⟩ ∧
      Sample.assignment "\n# region model-doc: User\n# endregion model-doc\n" ≠
        Sample.assignment "\n" := by
  have located : locate (fun _ => none) ("x = \"\"\"\n\"\"\"\n" ++ Sample.source) Sample.className =
      .ok 3 := by
    rfl
  have differ : Sample.assignment "\n# region model-doc: User\n# endregion model-doc\n" ≠
      Sample.assignment "\n" := by
    simp [Sample.assignment]
  refine ⟨rfl, ?_, rfl, differ⟩
  rw [replace, replaceWith, Sample.strip_quotedSource, insertWith, located]
  rfl

end SchemaDoc.Block
