import SchemaDoc.Block.Strip
import SchemaDoc.Proofs.Text.Blank
import SchemaDoc.Proofs.Text.Lines

/-!
Contract: what the removal of a class's blocks leaves of a list of lines.

A begin marker is open when comment lines follow it but no end marker closes them. Lines without
closed blocks stay as they are (`stripLines_eq_self_iff`), and removal leaves such lines. A block
that is put between lines without blocks is removed again; an open marker that reaches down to
it goes with it, and all lines in between.
-/

namespace SchemaDoc.Block

/-! ## Markers are comments -/

theorem isComment_of_isEnd {line : Text} (isEnd : isEnd line = true) : isComment line = true := by
  have trimmed : Text.trim line = '#' :: " endregion model-doc".toList := eq_of_beq isEnd
  simp [isComment, Text.head_trimStart_of_trim trimmed]

theorem isComment_of_isBegin {qualname line : Text} (isBegin : isBegin qualname line = true) :
    isComment line = true := by
  have trimmed : Text.trim line = '#' :: (" region model-doc: ".toList ++ qualname) :=
    eq_of_beq isBegin
  simp [isComment, Text.head_trimStart_of_trim trimmed]

theorem isEnd_eq_false_of_isBegin {qualname line : Text}
    (begins : isBegin qualname line = true) : isEnd line = false := by
  have trimmed : Text.trim line = beginMarker qualname := eq_of_beq begins
  rw [isEnd, trimmed, beq_eq_false_iff_ne]
  intro same
  have third : some 'r' = some 'e' := congrArg (fun text : Text => text[2]?) same
  exact absurd third (by decide)

/-- The line is the begin marker of some class, white space around it aside. -/
def beginsBlock (line : Text) : Bool :=
  "# region model-doc: ".toList.isPrefixOf (Text.trim line)

theorem beginsBlock_iff {line : Text} :
    beginsBlock line = true ↔ ∃ name, isBegin name line = true := by
  rw [beginsBlock, List.isPrefixOf_iff_prefix]
  constructor
  · rintro ⟨name, split⟩
    exact ⟨name, beq_iff_eq.mpr split.symm⟩
  · rintro ⟨name, begins⟩
    exact ⟨name, (eq_of_beq begins).symm⟩

theorem isBegin_eq_false_of_beginsBlock {line : Text} (plain : beginsBlock line = false)
    (name : Text) : isBegin name line = false := by
  refine Bool.eq_false_iff.mpr fun begins => ?_
  rw [beginsBlock_iff.mpr ⟨name, begins⟩] at plain
  exact absurd plain (by decide)

/-- A marker names one class. -/
theorem isBegin_unique {name other line : Text} (first : isBegin name line = true)
    (second : isBegin other line = true) : name = other := by
  have same : beginMarker name = beginMarker other :=
    (eq_of_beq first).symm.trans (eq_of_beq second)
  exact List.append_cancel_left same

theorem beginsBlock_eq_false_of_isEnd {line : Text} (closes : isEnd line = true) :
    beginsBlock line = false := by
  refine Bool.eq_false_iff.mpr fun begins => ?_
  obtain ⟨name, isBegin⟩ := beginsBlock_iff.mp begins
  rw [isEnd_eq_false_of_isBegin isBegin] at closes
  exact absurd closes (by decide)

/-! ## The search for an end marker -/

/-- The search over joined lists: it goes on in the second one only through comment lines. -/
theorem afterEnd?_append (front back : List Text) :
    afterEnd? (front ++ back) =
      match afterEnd? front with
      | some rest => some (rest ++ back)
      | none => if front.all isComment then afterEnd? back else none := by
  induction front with
  | nil => rfl
  | cons line front inductionHypothesis =>
      rw [List.cons_append, afterEnd?, afterEnd?]
      by_cases comment : isComment line = true
      · by_cases closing : isEnd line = true
        · simp [comment, closing]
        · rw [if_pos comment, if_pos comment, if_neg closing, if_neg closing,
            inductionHypothesis, List.all_cons, comment, Bool.true_and]
      · simp [comment]

/-- What the search finds, however the lines go on. -/
theorem afterEnd?_append_some {front rest : List Text} (found : afterEnd? front = some rest)
    (back : List Text) : afterEnd? (front ++ back) = some (rest ++ back) := by
  rw [afterEnd?_append, found]

theorem afterEnd?_left_none {front back : List Text} (missing : afterEnd? (front ++ back) = none) :
    afterEnd? front = none := by
  cases found : afterEnd? front with
  | none => rfl
  | some rest =>
      rw [afterEnd?_append_some found] at missing
      exact absurd missing (by simp)

/-- A line that is no comment ends the search for good. -/
theorem afterEnd?_append_none {front : List Text} (missing : afterEnd? front = none)
    (stopped : front.all isComment = false) (back : List Text) :
    afterEnd? (front ++ back) = none := by
  rw [afterEnd?_append, missing, stopped]
  rfl

/-- What the search passes: comment lines up to the first end marker. -/
theorem split_of_afterEnd? {lines rest : List Text} (found : afterEnd? lines = some rest) :
    ∃ comments closing, lines = comments ++ closing :: rest ∧
      (∀ line ∈ comments, isComment line = true ∧ isEnd line = false) ∧ isEnd closing = true := by
  induction lines with
  | nil => exact absurd found (by simp [afterEnd?])
  | cons line lines inductionHypothesis =>
      rw [afterEnd?] at found
      split at found
      · next comment =>
          split at found
          · next closes =>
              obtain rfl := Option.some.inj found
              exact ⟨[], line, rfl, by simp, closes⟩
          · next open_ =>
              obtain ⟨comments, closing, rfl, areOpen, closes⟩ := inductionHypothesis found
              refine ⟨line :: comments, closing, rfl, fun other member => ?_, closes⟩
              rcases List.mem_cons.mp member with rfl | inComments
              · exact ⟨comment, by simpa using open_⟩
              · exact areOpen other inComments
      · exact absurd found (by simp)

/-- What is left behind an end marker is the end of the lines. -/
theorem suffix_of_afterEnd? {lines rest : List Text} (found : afterEnd? lines = some rest) :
    rest.IsSuffix lines := by
  obtain ⟨comments, closing, rfl, -, -⟩ := split_of_afterEnd? found
  exact ⟨comments ++ [closing], by simp⟩

/-! ## Removal, one line at a time -/

variable {qualname line : Text} {rest : List Text}

@[simp]
theorem stripLines_nil (qualname : Text) : stripLines qualname [] = [] := by
  rw [stripLines]

/-- A closed block is removed with its markers. -/
theorem stripLines_closed (begins : isBegin qualname line = true) {remaining : List Text}
    (closed : afterEnd? rest = some remaining) :
    stripLines qualname (line :: rest) = stripLines qualname remaining := by
  rw [stripLines, if_pos begins]
  split
  · next other found =>
      rw [closed] at found
      rw [Option.some.inj found]
  · next missing =>
      rw [closed] at missing
      exact absurd missing (by simp)

/-- A line that opens no closed block is kept. -/
theorem stripLines_kept (kept : isBegin qualname line = true → afterEnd? rest = none) :
    stripLines qualname (line :: rest) = line :: stripLines qualname rest := by
  rw [stripLines]
  split
  · next begins =>
      split
      · next found =>
          rw [kept begins] at found
          exact absurd found (by simp)
      · rfl
  · rfl

/-- Each line is kept, or opens a block that is removed whole. -/
theorem stripLines_induction (qualname : Text) {motive : List Text → List Text → Prop}
    (nil : motive [] [])
    (closed : ∀ line rest remaining, isBegin qualname line = true →
      afterEnd? rest = some remaining → motive remaining (stripLines qualname remaining) →
      motive (line :: rest) (stripLines qualname remaining))
    (kept : ∀ line rest, (isBegin qualname line = true → afterEnd? rest = none) →
      motive rest (stripLines qualname rest) →
      motive (line :: rest) (line :: stripLines qualname rest))
    (lines : List Text) : motive lines (stripLines qualname lines) := by
  induction size : lines.length using Nat.strongRecOn generalizing lines with
  | ind size inductionHypothesis =>
      subst size
      cases lines with
      | nil =>
          rw [stripLines_nil]
          exact nil
      | cons line rest =>
          by_cases begins : isBegin qualname line = true
          · cases found : afterEnd? rest with
            | some remaining =>
                have shorter := length_of_afterEnd? found
                rw [stripLines_closed begins found]
                exact closed line rest remaining begins found
                  (inductionHypothesis _ (by simp only [List.length_cons]; omega) _ rfl)
            | none =>
                rw [stripLines_kept fun _ => found]
                exact kept line rest (fun _ => found) (inductionHypothesis _ (by simp) _ rfl)
          · rw [stripLines_kept fun isBegin => absurd isBegin begins]
            exact kept line rest (fun isBegin => absurd isBegin begins)
              (inductionHypothesis _ (by simp) _ rfl)

theorem stripLines_sublist (qualname : Text) (lines : List Text) :
    (stripLines qualname lines).Sublist lines := by
  induction lines using stripLines_induction qualname with
  | nil => exact List.Sublist.refl _
  | closed line rest remaining _ found inductionHypothesis =>
      exact (inductionHypothesis.trans (suffix_of_afterEnd? found).sublist).cons line
  | kept line rest _ inductionHypothesis => exact inductionHypothesis.cons_cons line

theorem mem_of_mem_strip {qualname content : Text} {c : Char}
    (member : c ∈ strip qualname content) : c ∈ content := by
  obtain ⟨line, inLines, inLine⟩ := List.mem_flatten.mp member
  have inOld := (stripLines_sublist qualname (Text.lines content)).mem inLines
  exact Text.flatten_lines content ▸ List.mem_flatten_of_mem inOld inLine

theorem hasLoneReturn_of_strip {qualname content : Text}
    (lone : Text.HasLoneReturn (strip qualname content)) : Text.HasLoneReturn content := by
  have kept := stripLines_sublist qualname (Text.lines content)
  obtain ⟨line, inLines, inLine⟩ := lone.exists_line ((Text.areLines_lines content).of_sublist kept)
  exact Text.flatten_lines content ▸ inLine.of_mem (kept.mem inLines)

/-! ## Lines without blocks -/

/-- No begin marker of the class is followed by comment lines up to an end marker. -/
def Stripped (qualname : Text) : List Text → Prop
  | [] => True
  | line :: rest =>
    (isBegin qualname line = true → afterEnd? rest = none) ∧ Stripped qualname rest

instance decidableStripped (qualname : Text) :
    (lines : List Text) → Decidable (Stripped qualname lines)
  | [] => isTrue trivial
  | _ :: rest => @instDecidableAnd _ _ inferInstance (decidableStripped qualname rest)

theorem Stripped.of_append {front back : List Text}
    (stripped : Stripped qualname (front ++ back)) : Stripped qualname back := by
  induction front with
  | nil => exact stripped
  | cons line front inductionHypothesis => exact inductionHypothesis stripped.2

theorem Stripped.stripLines_eq_self {lines : List Text} (stripped : Stripped qualname lines) :
    stripLines qualname lines = lines := by
  induction lines with
  | nil => exact stripLines_nil qualname
  | cons line lines inductionHypothesis =>
      rw [stripLines_kept stripped.1, inductionHypothesis stripped.2]

/-- Removal closes no marker that was open. -/
theorem afterEnd?_stripLines_none {lines : List Text} (missing : afterEnd? lines = none) :
    afterEnd? (stripLines qualname lines) = none := by
  revert missing
  induction lines using stripLines_induction qualname with
  | nil => exact id
  | closed line rest remaining begins found _ =>
      intro missing
      rw [afterEnd?, if_pos (isComment_of_isBegin begins)] at missing
      split at missing
      · exact absurd missing (by simp)
      · rw [found] at missing
        exact absurd missing (by simp)
  | kept line rest _ inductionHypothesis =>
      intro missing
      rw [afterEnd?] at missing ⊢
      split at missing
      · next comment =>
          rw [if_pos comment]
          split at missing
          · exact absurd missing (by simp)
          · next open_ =>
              rw [if_neg open_]
              exact inductionHypothesis missing
      · next solid => rw [if_neg solid]

/-- Removal leaves no block. -/
theorem stripped_stripLines (qualname : Text) (lines : List Text) :
    Stripped qualname (stripLines qualname lines) := by
  induction lines using stripLines_induction qualname with
  | nil => trivial
  | closed _ _ _ _ _ inductionHypothesis => exact inductionHypothesis
  | kept line rest kept inductionHypothesis =>
      exact ⟨fun begins => afterEnd?_stripLines_none (kept begins), inductionHypothesis⟩

/-- Removal changes nothing exactly where there is no block. -/
theorem stripLines_eq_self_iff {lines : List Text} :
    stripLines qualname lines = lines ↔ Stripped qualname lines := by
  constructor
  · intro same
    rw [← same]
    exact stripped_stripLines qualname lines
  · exact Stripped.stripLines_eq_self

/-! ## Blocks and open markers -/

/-- A block of the class: its begin marker, comment lines, and the first end marker. -/
def IsBlock (qualname : Text) (block : List Text) : Prop :=
  ∃ marker comments closing, block = marker :: (comments ++ [closing]) ∧
    isBegin qualname marker = true ∧
    (∀ line ∈ comments, isComment line = true ∧ isEnd line = false) ∧ isEnd closing = true

theorem IsBlock.isComment {block : List Text} (isBlock : IsBlock qualname block) :
    ∀ line ∈ block, isComment line = true := by
  obtain ⟨marker, comments, closing, rfl, begins, areOpen, closes⟩ := isBlock
  intro line member
  rcases List.mem_cons.mp member with rfl | inRest
  · exact isComment_of_isBegin begins
  · rcases List.mem_append.mp inRest with inComments | isLast
    · exact (areOpen line inComments).1
    · rw [List.mem_singleton.mp isLast]
      exact isComment_of_isEnd closes

/-- A complete block of a class: its begin marker, comment lines that are no markers of any class,
and an end marker. -/
def IsComplete (owner : Text) (block : List Text) : Prop :=
  ∃ marker comments closing, block = marker :: (comments ++ [closing]) ∧
    isBegin owner marker = true ∧
    (∀ line ∈ comments, isComment line = true ∧ isEnd line = false ∧ beginsBlock line = false) ∧
    isEnd closing = true

theorem IsComplete.isBlock {block : List Text} (complete : IsComplete qualname block) :
    IsBlock qualname block := by
  obtain ⟨marker, comments, closing, rfl, begins, plain, closes⟩ := complete
  exact ⟨marker, comments, closing, rfl, begins,
    fun line member => ⟨(plain line member).1, (plain line member).2.1⟩, closes⟩

/-- Below its begin marker no line of a complete block begins one. -/
theorem beginsBlock_eq_false_of_mem {comments : List Text} {closing : Text}
    (plain : ∀ line ∈ comments, isComment line = true ∧ isEnd line = false ∧
      beginsBlock line = false) (closes : isEnd closing = true) :
    ∀ line ∈ comments ++ [closing], beginsBlock line = false := by
  intro line member
  rcases List.mem_append.mp member with inComments | isLast
  · exact (plain line inComments).2.2
  · rw [List.mem_singleton.mp isLast]
    exact beginsBlock_eq_false_of_isEnd closes

/-- No line of a complete block begins a block of another class. -/
theorem IsComplete.isBegin_eq_false {owner : Text} {block : List Text}
    (complete : IsComplete owner block) (distinct : qualname ≠ owner) :
    ∀ line ∈ block, isBegin qualname line = false := by
  obtain ⟨marker, comments, closing, rfl, begins, plain, closes⟩ := complete
  intro line member
  rcases List.mem_cons.mp member with rfl | inRest
  · exact Bool.eq_false_iff.mpr fun other => distinct (isBegin_unique other begins)
  · exact isBegin_eq_false_of_beginsBlock (beginsBlock_eq_false_of_mem plain closes line inRest)
      qualname

/-- The lines end in a begin marker of the class and comment lines below it. -/
def EndsOpen (qualname : Text) (lines : List Text) : Prop :=
  ∃ before marker comments, lines = before ++ marker :: comments ∧
    isBegin qualname marker = true ∧ ∀ line ∈ comments, isComment line = true

/-- A begin marker whose search succeeds opens a block. -/
theorem isBlock_of_afterEnd? {remaining : List Text} (begins : isBegin qualname line = true)
    (closed : afterEnd? rest = some remaining) :
    ∃ block, line :: rest = block ++ remaining ∧ IsBlock qualname block := by
  obtain ⟨comments, closing, rfl, areOpen, closes⟩ := split_of_afterEnd? closed
  exact ⟨line :: (comments ++ [closing]), by simp, line, comments, closing, rfl, begins, areOpen,
    closes⟩

/-- Comment lines without end marker do not stop the search. -/
theorem afterEnd?_comments {comments : List Text}
    (open_ : ∀ line ∈ comments, isComment line = true ∧ isEnd line = false)
    (back : List Text) : afterEnd? (comments ++ back) = afterEnd? back := by
  induction comments with
  | nil => rfl
  | cons line comments inductionHypothesis =>
      obtain ⟨comment, notEnd⟩ := open_ line (by simp)
      rw [List.cons_append, afterEnd?, if_pos comment, if_neg (by simp [notEnd]),
        inductionHypothesis fun other member => open_ other (List.mem_cons_of_mem line member)]

theorem afterEnd?_closing {closing : Text} (isEnd : isEnd closing = true) (back : List Text) :
    afterEnd? (closing :: back) = some back := by
  rw [afterEnd?, if_pos (isComment_of_isEnd isEnd), if_pos isEnd]

theorem IsBlock.stripLines_append {block : List Text} (isBlock : IsBlock qualname block)
    (back : List Text) : stripLines qualname (block ++ back) = stripLines qualname back := by
  obtain ⟨marker, comments, closing, rfl, begins, open_, isEnd⟩ := isBlock
  rw [List.cons_append, List.append_assoc]
  exact stripLines_closed begins
    (by rw [afterEnd?_comments open_, List.singleton_append, afterEnd?_closing isEnd])

/-- An open marker above a block runs on to the block's end. -/
theorem IsBlock.afterEnd?_append {block : List Text} (isBlock : IsBlock qualname block)
    (back : List Text) : afterEnd? (block ++ back) = some back := by
  obtain ⟨marker, comments, closing, rfl, begins, open_, isEnd⟩ := isBlock
  rw [List.cons_append, List.append_assoc, afterEnd?, if_pos (isComment_of_isBegin begins)]
  rw [if_neg (by simp [isEnd_eq_false_of_isBegin begins]), afterEnd?_comments open_,
    List.singleton_append, afterEnd?_closing isEnd]

theorem EndsOpen.cons {lines : List Text} (open_ : EndsOpen qualname lines) (line : Text) :
    EndsOpen qualname (line :: lines) := by
  obtain ⟨before, marker, comments, rfl, begins, areComments⟩ := open_
  exact ⟨line :: before, marker, comments, rfl, begins, areComments⟩

/-- A block between lines without blocks is removed, if no open marker reaches down to it. -/
theorem stripLines_insert {above block below : List Text} (isBlock : IsBlock qualname block)
    (stripped : Stripped qualname (above ++ below)) (closed : ¬ EndsOpen qualname above) :
    stripLines qualname (above ++ (block ++ below)) = above ++ below := by
  induction above with
  | nil =>
      rw [List.nil_append, isBlock.stripLines_append]
      exact stripped.stripLines_eq_self
  | cons line above inductionHypothesis =>
      have kept : isBegin qualname line = true → afterEnd? (above ++ (block ++ below)) = none := by
        intro begins
        -- The marker would be open down to the block, were all lines below it comments.
        have stopped : above.all isComment = false :=
          Bool.eq_false_iff.mpr fun areComments =>
            closed ⟨[], line, above, rfl, begins, List.all_eq_true.mp areComments⟩
        exact afterEnd?_append_none (afterEnd?_left_none (stripped.1 begins)) stopped _
      rw [List.cons_append, stripLines_kept kept,
        inductionHypothesis stripped.2 fun open_ => closed (open_.cons line)]
      rfl

/-- An open marker that reaches down to a block is removed with it, and so is all in between. -/
theorem stripLines_insert_endsOpen {above block below : List Text}
    (isBlock : IsBlock qualname block) (stripped : Stripped qualname (above ++ below))
    (open_ : EndsOpen qualname above) :
    ∃ kept marker dropped, above = kept ++ marker :: dropped ∧ isBegin qualname marker = true ∧
      stripLines qualname (above ++ (block ++ below)) = kept ++ below := by
  induction above with
  | nil =>
      obtain ⟨before, marker, comments, empty, -⟩ := open_
      exact absurd empty (by simp)
  | cons line above inductionHypothesis =>
      by_cases opens : isBegin qualname line = true ∧ above.all isComment = true
      · obtain ⟨begins, areComments⟩ := opens
        refine ⟨[], line, above, rfl, begins, ?_⟩
        have found : afterEnd? (above ++ (block ++ below)) = some below := by
          rw [Block.afterEnd?_append, afterEnd?_left_none (stripped.1 begins)]
          simp only [areComments, if_true]
          exact isBlock.afterEnd?_append below
        rw [List.cons_append, stripLines_closed begins found]
        exact stripped.2.of_append.stripLines_eq_self
      · obtain ⟨before, marker, comments, whole, begins, areComments⟩ := open_
        cases before with
        | nil =>
            obtain ⟨rfl, rfl⟩ := List.cons.inj whole
            exact absurd ⟨begins, List.all_eq_true.mpr areComments⟩ opens
        | cons first before =>
            obtain ⟨rfl, rfl⟩ := List.cons.inj whole
            obtain ⟨kept, found, dropped, split, foundBegins, removed⟩ :=
              inductionHypothesis stripped.2 ⟨before, marker, comments, rfl, begins, areComments⟩
            refine ⟨line :: kept, found, dropped, by rw [split]; rfl, foundBegins, ?_⟩
            rw [List.cons_append, stripLines_kept, removed]
            · rfl
            · intro lineBegins
              exact afterEnd?_append_none (afterEnd?_left_none (stripped.1 lineBegins))
                (Bool.eq_false_iff.mpr fun areAll => opens ⟨lineBegins, areAll⟩) _

end SchemaDoc.Block
