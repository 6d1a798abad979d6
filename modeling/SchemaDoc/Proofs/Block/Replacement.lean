import SchemaDoc.Block.Write
import SchemaDoc.Proofs.Block.Insert

/-!
Contract: when a replaced block is found again.

A second replacement removes what the first one inserted and inserts it again, unless the place
of the block is unsound: an open marker of the class reaches down to it, and the removal takes
the lines in between along; or the line below the block is blank, and its line end, copied in
front of every line of the block, takes the block apart. Both conditions are exact.

The way in which classes are located is arbitrary: it need only be a function of the text. What the
rewriting of a file's bytes gives is said once (`RewriteForm`).
-/

namespace SchemaDoc.Block

variable {locate : Text → Text → Except PlacementFault Nat} {qualname : Text}

/-! ## What removal leaves of an inserted block -/

/-- What removal leaves, as a list of lines. -/
theorem lines_strip (qualname content : Text) :
    Text.lines (strip qualname content) = stripLines qualname (Text.lines content) :=
  Text.lines_flatten ((Text.areLines_lines content).of_sublist (stripLines_sublist _ _))

theorem stripped_lines_strip (qualname content : Text) :
    Stripped qualname (Text.lines (strip qualname content)) := by
  rw [lines_strip]
  exact stripped_stripLines qualname (Text.lines content)

theorem strip_eq_self_iff {content : Text} :
    strip qualname content = content ↔ Stripped qualname (Text.lines content) := by
  rw [← stripLines_eq_self_iff, ← lines_strip]
  constructor
  · exact congrArg Text.lines
  · intro same
    rw [← Text.flatten_lines (strip qualname content), same, Text.flatten_lines]

section Inserted

variable {content block statement : Text} {above below : List Text}
  (starts : StartsAt locate content qualname above statement below)
  (stripped : Stripped qualname (Text.lines content))
  (plain : IsPlain qualname block) (unspaced : Text.Unspaced qualname)
include starts stripped plain unspaced

/-- Without an open marker above it, the block is removed and nothing else. -/
theorem strip_inserted (noFeed : '\n' ∉ Text.margin statement)
    (closed : ¬ EndsOpen qualname above) :
    strip qualname (above ++ (linesAbove statement block ++ statement :: below)).flatten =
      content := by
  rw [starts.split] at stripped
  rw [strip, starts.lines_insert plain unspaced noFeed,
    stripLines_insert (plain.isBlock_linesAbove unspaced statement) stripped closed,
    ← starts.split, Text.flatten_lines]

/-- An open marker above the block is removed with it. -/
theorem count_hash_strip_inserted (noFeed : '\n' ∉ Text.margin statement)
    (open_ : EndsOpen qualname above) :
    (strip qualname
      (above ++ (linesAbove statement block ++ statement :: below)).flatten).count '#' <
        content.count '#' := by
  have whole := starts.split
  rw [starts.split] at stripped
  obtain ⟨kept, marker, dropped, split, begins, removed⟩ :=
    stripLines_insert_endsOpen (plain.isBlock_linesAbove unspaced statement) stripped open_
  have markerSigns : 0 < marker.count '#' := by
    refine List.count_pos_iff.mpr ?_
    have comment := isComment_of_isBegin begins
    rw [isComment, beq_iff_eq] at comment
    exact (List.dropWhile_suffix _).mem (List.mem_of_head? comment)
  rw [strip, starts.lines_insert plain unspaced noFeed, removed,
    ← Text.flatten_lines content, whole, split]
  simp only [List.flatten_append, List.flatten_cons, List.count_append]
  omega

end Inserted

/-! ## A block above a blank line -/

/-- The lines of a block, each behind a copy of the statement's line. -/
def tornLines (statement block : Text) : List Text :=
  (Text.displayLines block).flatMap fun entry => [statement, entry ++ endingLike statement]

section Torn

variable {content block statement : Text} {above below : List Text}
  (starts : StartsAt locate content qualname above statement below)
  (feed : '\n' ∈ Text.margin statement)
include starts feed

/-- A line whose white space runs over its end is blank. -/
theorem StartsAt.isWhole_blank : Text.IsWhole statement ∧ Text.Blank statement := by
  have inLines : statement ∈ above ++ statement :: below := by simp
  rcases starts.areLines.isWhole_or inLines with whole | absent
  · refine ⟨whole, ?_⟩
    rw [← whole.margin_eq_self feed]
    exact Text.blank_margin statement
  · exact absurd ((List.takeWhile_prefix _).mem feed) absent

/-- Above a blank line the lines of a block are torn apart. -/
theorem StartsAt.flatten_linesAbove :
    (linesAbove statement block).flatten = (tornLines statement block).flatten := by
  obtain ⟨whole, -⟩ := starts.isWhole_blank feed
  unfold linesAbove tornLines
  rw [whole.margin_eq_self feed]
  induction Text.displayLines block with
  | nil => rfl
  | cons entry entries inductionHypothesis =>
      rw [List.map_cons, List.flatten_cons, inductionHypothesis, List.flatMap_cons]
      simp

end Torn

/-- A line that is no comment keeps the markers above it from what follows. -/
theorem Stripped.replace_below {above below other : List Text} {solid : Text}
    (isSolid : isComment solid = false) (stripped : Stripped qualname (above ++ solid :: below))
    (otherStripped : Stripped qualname (solid :: other)) :
    Stripped qualname (above ++ solid :: other) := by
  induction above with
  | nil => exact otherStripped
  | cons line above inductionHypothesis =>
      refine ⟨fun begins => ?_, inductionHypothesis stripped.2⟩
      have stopped : afterEnd? (solid :: other) = none := by simp [afterEnd?, isSolid]
      have missing : afterEnd? (above ++ solid :: other) = none := by
        rw [afterEnd?_append, afterEnd?_left_none (stripped.1 begins), stopped]
        simp
      exact missing

theorem isComment_of_blank {line : Text} (blank : Text.Blank line) : isComment line = false := by
  have empty : Text.trimStart line = [] := by
    have dropped := Text.trimStart_blank_append blank []
    rwa [List.append_nil] at dropped
  rw [isComment, empty]
  rfl

theorem isWhole_tornLines {statement block : Text} (whole : Text.IsWhole statement)
    (oneLine : ∀ entry ∈ Text.displayLines block, Text.OneLine entry) :
    ∀ line ∈ tornLines statement block, Text.IsWhole line := by
  intro line member
  obtain ⟨entry, inBlock, inPair⟩ := List.mem_flatMap.mp member
  rcases List.mem_cons.mp inPair with rfl | inLast
  · exact whole
  · rw [List.mem_singleton.mp inLast]
    exact isWhole_append_endingLike ((oneLine entry inBlock).not_mem (by decide)) statement

/-- In front of the statement, torn lines start with a copy of it. -/
theorem exists_tornLines_append (statement block : Text) (below : List Text) :
    ∃ other, tornLines statement block ++ statement :: below = statement :: other := by
  unfold tornLines
  cases Text.displayLines block with
  | nil => exact ⟨below, rfl⟩
  | cons entry entries => exact ⟨_, rfl⟩

/-- Lines that alternate with blank ones hold no block. -/
theorem stripped_tornLines {statement : Text} (blank : Text.Blank statement) (block : Text)
    {below : List Text} (stripped : Stripped qualname (statement :: below)) :
    Stripped qualname (tornLines statement block ++ statement :: below) := by
  have solid := isComment_of_blank blank
  have noMarker : isBegin qualname statement = true → ∀ lines, afterEnd? lines = none := by
    intro begins
    rw [isComment_of_isBegin begins] at solid
    exact absurd solid (by decide)
  unfold tornLines
  induction Text.displayLines block with
  | nil => exact stripped
  | cons entry entries inductionHypothesis =>
      refine ⟨fun begins => noMarker begins _, fun _ => ?_, inductionHypothesis⟩
      -- The next line is blank, whether a copy of it or the line itself.
      cases entries with
      | nil => simp [afterEnd?, solid]
      | cons _ _ => simp [afterEnd?, solid]

/-- A block that a blank line takes apart is not found again. -/
theorem strip_torn {content block statement : Text} {above below : List Text}
    (starts : StartsAt locate content qualname above statement below)
    (stripped : Stripped qualname (Text.lines content))
    (plain : IsPlain qualname block) (unspaced : Text.Unspaced qualname)
    (feed : '\n' ∈ Text.margin statement) :
    strip qualname (above ++ (linesAbove statement block ++ statement :: below)).flatten =
      (above ++ (linesAbove statement block ++ statement :: below)).flatten := by
  obtain ⟨whole, blank⟩ := starts.isWhole_blank feed
  obtain ⟨-, -, -, oneLine⟩ := plain.displayLines_eq (.of_unspaced unspaced)
  obtain ⟨rest, wholeAbove⟩ := starts.areLines.of_append
  have cut : Text.AreLines (above ++ (tornLines statement block ++ statement :: below)) :=
    (rest.whole_append (isWhole_tornLines whole oneLine)).whole_append (wholeAbove (by simp))
  have torn : (above ++ (linesAbove statement block ++ statement :: below)).flatten =
      (above ++ (tornLines statement block ++ statement :: below)).flatten := by
    rw [List.flatten_append, List.flatten_append, starts.flatten_linesAbove feed,
      List.flatten_append, List.flatten_append]
  rw [torn, strip_eq_self_iff, Text.lines_flatten cut]
  rw [starts.split] at stripped
  have strippedRest := stripped_tornLines blank block stripped.of_append
  obtain ⟨other, opens⟩ := exists_tornLines_append statement block below
  rw [opens] at strippedRest ⊢
  exact stripped.replace_below (isComment_of_blank blank) strippedRest

/-- Insertion above a line that is not blank is undone by removal exactly when no open marker of
the class reaches down to that line. -/
theorem strip_insertWith_eq_self_iff {content block result statement : Text}
    {above below : List Text} (unspaced : Text.Unspaced qualname)
    (plain : IsPlain qualname block) (noBlock : strip qualname content = content)
    (starts : StartsAt locate content qualname above statement below)
    (notBlank : ¬ Text.Blank statement)
    (inserted : insertWith locate content qualname block = .ok result) :
    strip qualname result = content ↔ ¬ EndsOpen qualname above := by
  have stripped := strip_eq_self_iff.mp noBlock
  have noFeed : '\n' ∉ Text.margin statement :=
    fun feed => notBlank (starts.isWhole_blank feed).2
  obtain ⟨above', statement', below', starts', rfl⟩ := insertWith_eq_ok_iff.mp inserted
  obtain ⟨rfl, rfl, rfl⟩ := starts.unique starts'
  constructor
  · intro undone open_
    have fewer := count_hash_strip_inserted starts stripped plain unspaced noFeed open_
    rw [undone] at fewer
    omega
  · exact strip_inserted starts stripped plain unspaced noFeed

namespace Sample

theorem strip_source : strip className source = source :=
  strip_eq_self_iff.mpr (by decide)

theorem locate_source : Block.locate (fun _ => none) source className = .ok 1 := by
  rfl

theorem startsAt_source :
    StartsAt (Block.locate fun _ => none) source className [] "class User:\n" ["    pass\n"] :=
  ⟨by decide, 1, locate_source, rfl⟩

theorem insert_source :
    insertWith (Block.locate fun _ => none) source className block = .ok (block ++ source) := by
  rw [insertWith, locate_source]
  rfl

end Sample

theorem strip_insertWith_sample :
    strip Sample.className (Sample.block ++ Sample.source) = Sample.source ↔
      ¬ EndsOpen Sample.className [] :=
  strip_insertWith_eq_self_iff (by decide) Sample.isPlain_block Sample.strip_source
    Sample.startsAt_source (by decide) Sample.insert_source

/-! ## Replacing twice -/

/-- The block can be found again where the class is located: the line below it has a character or
lacks its line feed, and no open marker of the class reaches down to it. -/
def SoundPlace (locate : Text → Text → Except PlacementFault Nat)
    (qualname content : Text) : Prop :=
  ∃ above statement below, StartsAt locate content qualname above statement below ∧
    '\n' ∉ Text.margin statement ∧ ¬ EndsOpen qualname above

theorem IsPlain.count_hash_pos {block : Text} (plain : IsPlain qualname block)
    (unspaced : Text.Unspaced qualname) : 0 < (Text.displayLines block).flatten.count '#' := by
  obtain ⟨tagged, split, -⟩ := plain.displayLines_eq (.of_unspaced unspaced)
  rw [split]
  exact List.count_pos_iff.mpr (List.mem_cons_self ..)

/-- A second replacement gives the text of the first one exactly where the place is sound. -/
theorem replaceWith_eq_self_iff {content block first : Text} (unspaced : Text.Unspaced qualname)
    (plain : IsPlain qualname block)
    (replaced : replaceWith locate content qualname block = .ok first) :
    replaceWith locate first qualname block = .ok first ↔
      SoundPlace locate qualname (strip qualname content) := by
  have stripped := stripped_lines_strip qualname content
  have blockSigns := plain.count_hash_pos unspaced
  obtain ⟨above, statement, below, starts, whole⟩ := insertWith_eq_ok_iff.mp replaced
  have firstSigns := count_hash_insertWith replaced
  constructor
  · intro again
    have againSigns := count_hash_insertWith again
    -- An unsound place gives the second text another number of number signs than the first.
    have noFeed : '\n' ∉ Text.margin statement := by
      intro feed
      rw [whole, strip_torn starts stripped plain unspaced feed, ← whole] at againSigns
      omega
    refine ⟨above, statement, below, starts, noFeed, fun open_ => ?_⟩
    have fewer := count_hash_strip_inserted starts stripped plain unspaced noFeed open_
    rw [← whole] at fewer
    omega
  · rintro ⟨above', statement', below', starts', noFeed, closed⟩
    obtain ⟨rfl, rfl, rfl⟩ := starts.unique starts'
    unfold replaceWith
    rw [whole, strip_inserted starts stripped plain unspaced noFeed closed, ← whole]
    exact replaced

/-! ## Bytes and files -/

section Bytes

variable {nameOf : Text → Option Nat} {bytes : Bytes} {original block : Text}
  {declared : Encoding.Declared}

/-- What the rewriting of bytes gives: the first fault, nothing when the text stays, or new bytes. -/
inductive RewriteForm (nameOf : Text → Option Nat) (bytes : Bytes) (qualname block : Text) :
    Except WriteFault (Option Bytes) → Prop
  | unread {fault : WriteFault} : readBytes bytes = .error fault →
      RewriteForm nameOf bytes qualname block (.error fault)
  | unplaced {original : Text} {declared : Encoding.Declared} {fault : PlacementFault} :
      readBytes bytes = .ok (original, declared) →
      replace nameOf original qualname block = .error fault →
      RewriteForm nameOf bytes qualname block (.error (.placement fault))
  | same {original : Text} {declared : Encoding.Declared} :
      readBytes bytes = .ok (original, declared) →
      replace nameOf original qualname block = .ok original →
      RewriteForm nameOf bytes qualname block (.ok none)
  | unencodable {original updated : Text} {declared : Encoding.Declared} :
      readBytes bytes = .ok (original, declared) →
      replace nameOf original qualname block = .ok updated → updated ≠ original →
      declared.codec.encode updated = none →
      RewriteForm nameOf bytes qualname block (.error (.unencodable declared.name))
  | stored {original updated : Text} {declared : Encoding.Declared} {stored : Bytes} :
      readBytes bytes = .ok (original, declared) →
      replace nameOf original qualname block = .ok updated → updated ≠ original →
      declared.codec.encode updated = some stored →
      RewriteForm nameOf bytes qualname block (.ok (some stored))

theorem rewrite?_eq_iff {outcome : Except WriteFault (Option Bytes)} :
    rewrite? nameOf bytes qualname block = outcome ↔
      RewriteForm nameOf bytes qualname block outcome := by
  constructor
  · rintro rfl
    unfold rewrite?
    cases isRead : readBytes bytes with
    | error fault => exact .unread isRead
    | ok found =>
        obtain ⟨original, declared⟩ := found
        simp only [bind, Except.bind]
        split
        · next fault replaced => exact .unplaced isRead replaced
        · next updated replaced =>
            split
            · next same => exact .same isRead (same ▸ replaced)
            · next differ =>
                split
                · next encoded => exact .unencodable isRead replaced differ encoded
                · next stored encoded => exact .stored isRead replaced differ encoded
  · rintro (isRead | ⟨isRead, replaced⟩ | ⟨isRead, replaced⟩ | ⟨isRead, replaced, differ, encoded⟩ |
      ⟨isRead, replaced, differ, encoded⟩)
    · simp only [rewrite?, isRead, bind, Except.bind]
    · simp only [rewrite?, isRead, bind, Except.bind, replaced]
    · simp only [rewrite?, isRead, bind, Except.bind, replaced, if_true, pure, Except.pure]
    · simp only [rewrite?, isRead, bind, Except.bind, replaced, if_neg differ, encoded]
    · simp only [rewrite?, isRead, bind, Except.bind, replaced, if_neg differ, encoded, pure,
        Except.pure]

/-- There is nothing to store exactly when replacement does not change the text. -/
theorem rewrite?_eq_none_iff (isRead : readBytes bytes = .ok (original, declared)) :
    rewrite? nameOf bytes qualname block = .ok none ↔
      replace nameOf original qualname block = .ok original := by
  rw [rewrite?_eq_iff]
  constructor
  · intro form
    cases form with
    | same isFound replaced =>
        obtain ⟨rfl, -⟩ := Prod.mk.inj (Except.ok.inj (isRead.symm.trans isFound))
        exact replaced
  · exact .same isRead

end Bytes

/-- A file is left alone exactly when replacement does not change its text. -/
theorem write_eq_false_iff {nameOf : Text → Option Nat} {isFull : Bool} {tree : FileTree}
    {path : Path} {original block : Text} {declared : Encoding.Declared}
    (isRead : readSource tree path = .ok (original, declared)) :
    (write nameOf isFull tree path qualname block).2 = .ok false ↔
      replace nameOf original qualname block = .ok original := by
  unfold readSource at isRead
  unfold write
  split at isRead
  · exact absurd isRead (by simp)
  · next bytes found =>
      rw [← rewrite?_eq_none_iff isRead]
      cases rewrite? nameOf bytes qualname block with
      | error fault => simp
      | ok change =>
          cases change with
          | none => simp
          | some stored =>
              by_cases full : (isFull && !List.isEmpty stored) = true
              · simp [full]
              · simp [full]

/-- Writing a block twice changes nothing the second time exactly where the place of the block is
sound: the second replacement gives the first text again, and a file that holds that text is left
alone. -/
theorem replace_again_iff {content block first : Text} (unspaced : Text.Unspaced qualname)
    (plain : IsPlain qualname block)
    (replaced : replaceWith locate content qualname block = .ok first) :
    (replaceWith locate first qualname block = .ok first ↔
        SoundPlace locate qualname (strip qualname content)) ∧
      ∀ nameOf isFull tree path declared, locate = Block.locate nameOf →
        readSource tree path = .ok (first, declared) →
        ((write nameOf isFull tree path qualname block).2 = .ok false ↔
          SoundPlace locate qualname (strip qualname content)) := by
  have exact_ := replaceWith_eq_self_iff unspaced plain replaced
  refine ⟨exact_, ?_⟩
  rintro nameOf isFull tree path declared rfl isRead
  rw [write_eq_false_iff isRead]
  exact exact_

theorem replace_again_sample :
    replaceWith (Block.locate fun _ => none) (Sample.block ++ Sample.source) Sample.className
        Sample.block = .ok (Sample.block ++ Sample.source) ↔
      SoundPlace (Block.locate fun _ => none) Sample.className
        (strip Sample.className Sample.source) :=
  (replace_again_iff (by decide) Sample.isPlain_block
    (by rw [replaceWith, Sample.strip_source]; exact Sample.insert_source)).1

/-- A marker that nothing closes, above a class without a block. -/
def Sample.openSource : Text := "# region model-doc: User\n" ++ Sample.source

/-- The second block replaces the first one together with the open marker above it. -/
theorem replace_below_open_marker :
    replace (fun _ => none) Sample.openSource Sample.className Sample.block =
        .ok ("# region model-doc: User\n" ++ (Sample.block ++ Sample.source)) ∧
      replace (fun _ => none) ("# region model-doc: User\n" ++ (Sample.block ++ Sample.source))
        Sample.className Sample.block = .ok (Sample.block ++ Sample.source) ∧
      Sample.block ++ Sample.source ≠
        "# region model-doc: User\n" ++ (Sample.block ++ Sample.source) := by
  have opening : strip Sample.className Sample.openSource = Sample.openSource :=
    strip_eq_self_iff.mpr (by decide +kernel)
  have located : locate (fun _ => none) Sample.openSource Sample.className = .ok 2 := rfl
  have swallowed : strip Sample.className
      ("# region model-doc: User\n" ++ (Sample.block ++ Sample.source)) = Sample.source := by
    have cut : Text.lines ("# region model-doc: User\n" ++ (Sample.block ++ Sample.source)) =
        "# region model-doc: User\n".toList :: Text.lines (Sample.block ++ Sample.source) := by
      decide +kernel
    have closed : afterEnd? (Text.lines (Sample.block ++ Sample.source)) =
        some (Text.lines Sample.source) := by
      decide +kernel
    rw [strip, cut, stripLines_closed (by decide +kernel) closed]
    exact Sample.strip_source
  refine ⟨?_, ?_, by decide +kernel⟩
  · rw [replace, replaceWith, opening, insertWith, located]
    rfl
  · rw [replace, replaceWith, swallowed]
    exact Sample.insert_source

end SchemaDoc.Block
