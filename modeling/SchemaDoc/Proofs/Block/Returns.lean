import SchemaDoc.Proofs.Block.Target

/-!
Contract: carriage returns in front of line feeds.

A block takes over the ending of one line, the one that it goes above. Where every line feed of the text
stands behind a carriage return, this holds of the text with the block, too, if that line has a line feed;
above a last line without one, the block's lines end in bare line feeds (`insert_paired_iff`).
-/

namespace SchemaDoc.Block

open Source (SourceFile ClassStatement)

variable {front back content : Text} {lines : List Text}

/-- Every line feed of the text stands directly behind a carriage return. -/
def IsPaired (text : Text) : Prop :=
  ∀ front back, text = front ++ '\n' :: back → front.getLast? = some '\r'

theorem isPaired_iff_getElem? {text : Text} :
    IsPaired text ↔ ∀ index < text.length, text[index]? = some '\n' →
      (text.take index).getLast? = some '\r' := by
  constructor
  · intro paired index inside isFeed
    obtain ⟨_, atIndex⟩ := List.getElem?_eq_some_iff.mp isFeed
    apply paired (text.take index) (text.drop (index + 1))
    rw [← atIndex, ← List.drop_eq_getElem_cons inside, List.take_append_drop]
  · rintro paired front back rfl
    have behind := paired front.length (by simp) (by simp)
    rwa [List.take_left] at behind

instance (text : Text) : Decidable (IsPaired text) :=
  decidable_of_iff _ isPaired_iff_getElem?.symm

/-! ## Paired texts -/

theorem IsPaired.of_append (paired : IsPaired (front ++ back)) : IsPaired front := by
  rintro before after rfl
  exact paired before (after ++ back) (by simp)

/-- A line feed of the second text may stand behind the last character of the first one. -/
theorem isPaired_append_iff :
    IsPaired (front ++ back) ↔ IsPaired front ∧
      ∀ before after, back = before ++ '\n' :: after → (front ++ before).getLast? = some '\r' := by
  constructor
  · intro paired
    refine ⟨paired.of_append, ?_⟩
    rintro before after rfl
    exact paired (front ++ before) after (by simp)
  · rintro ⟨isFront, isBack⟩ before after whole
    rcases List.append_eq_append_iff.mp whole with ⟨between, rfl, inBack⟩ | ⟨between, inFront, rest⟩
    · exact isBack between after inBack
    · cases between with
      | nil =>
          have atEnd := isBack [] after rest.symm
          rw [List.append_nil] at inFront atEnd
          rwa [← inFront]
      | cons c between =>
          obtain ⟨rfl, -⟩ := List.cons.inj rest
          exact isFront before between inFront

/-- Behind a text that does not end in a carriage return, a text is paired by itself. -/
theorem isPaired_append (notReturn : front.getLast? ≠ some '\r') :
    IsPaired (front ++ back) ↔ IsPaired front ∧ IsPaired back := by
  have ownEnd (before : Text) :
      (front ++ before).getLast? = some '\r' ↔ before.getLast? = some '\r' := by
    rw [List.getLast?_append]
    cases before.getLast? with
    | none => simpa using notReturn
    | some c => rfl
  rw [isPaired_append_iff]
  simp only [ownEnd]
  rfl

theorem isPaired_of_not_mem (absent : '\n' ∉ content) : IsPaired content := by
  rintro before after rfl
  have member : '\n' ∈ before ++ '\n' :: after := by simp
  exact absurd member absent

theorem IsPaired.append_of_not_mem (paired : IsPaired front) (absent : '\n' ∉ back) :
    IsPaired (front ++ back) := by
  refine isPaired_append_iff.mpr ⟨paired, ?_⟩
  rintro before after rfl
  have member : '\n' ∈ before ++ '\n' :: after := by simp
  exact absurd member absent

theorem isPaired_append_feed :
    IsPaired (front ++ ['\n']) ↔ IsPaired front ∧ front.getLast? = some '\r' := by
  rw [isPaired_append_iff]
  apply and_congr_right
  intro _
  constructor
  · intro isEnd
    simpa using isEnd [] [] rfl
  · intro atEnd before after isFeed
    cases before with
    | nil => rwa [List.append_nil]
    | cons c before => exact absurd (congrArg List.length isFeed) (by simp)

/-- Lines that end in line feeds are paired together when each of them is. -/
theorem isPaired_flatten (ends : ∀ line ∈ lines, line.getLast? = some '\n') :
    IsPaired lines.flatten ↔ ∀ line ∈ lines, IsPaired line := by
  induction lines with
  | nil =>
      have isPaired : IsPaired [] := isPaired_of_not_mem (by simp)
      simpa using isPaired
  | cons line lines inductionHypothesis =>
      obtain ⟨isEnd, others⟩ := List.forall_mem_cons.mp ends
      rw [List.flatten_cons, isPaired_append (by simp [isEnd]), inductionHypothesis others,
        List.forall_mem_cons]

theorem getLast?_flatten_ne_return (ends : ∀ line ∈ lines, line.getLast? = some '\n') :
    lines.flatten.getLast? ≠ some '\r' := by
  rcases List.eq_nil_or_concat lines with rfl | ⟨others, line, rfl⟩
  · simp
  · rw [List.concat_eq_append, List.flatten_append, List.flatten_singleton, List.getLast?_append,
      ends line (by simp)]
    simp

/-! ## The lines of a block -/

theorem getLast?_of_mem_linesAbove (statement block : Text) :
    ∀ line ∈ linesAbove statement block, line.getLast? = some '\n' := by
  intro line member
  obtain ⟨entry, -, rfl⟩ := List.mem_map.mp member
  rcases isPhysicalEnd_endingLike statement with isFeed | isPair
  · simp [isFeed]
  · simp [isPair]

section Above

variable {statement block : Text} (isLine : Text.IsWhole statement ∨ '\n' ∉ statement)
  (paired : IsPaired statement)
include isLine paired

/-- A paired line hands on a paired ending exactly when it has a line feed. -/
theorem endingLike_eq_iff : endingLike statement = ['\r', '\n'] ↔ '\n' ∈ statement := by
  constructor
  · intro isPair
    by_contra absent
    unfold endingLike at isPair
    split at isPair
    · next lastTwo =>
        have atEnd : '\n' ∈ statement.reverse.take 2 := by simp [lastTwo]
        exact absent (List.mem_reverse.mp (List.mem_of_mem_take atEnd))
    · exact absurd isPair (by decide)
  · intro feed
    obtain ⟨body, -, rfl⟩ := isLine.resolve_right (not_not_intro feed)
    obtain ⟨inner, rfl⟩ := List.getLast?_eq_some_iff.mp (isPaired_append_feed.mp paired).2
    simp [endingLike]

/-- The lines of a block with some text in it are paired exactly above a line with a line feed. -/
theorem isPaired_linesAbove_iff (filled : ∃ entry ∈ Text.displayLines block, entry ≠ []) :
    IsPaired (linesAbove statement block).flatten ↔ '\n' ∈ statement := by
  have noFeed (entry : Text) (member : entry ∈ Text.displayLines block) {c : Char}
      (isEnd : Text.endsDisplayLine c = true) : c ∉ entry :=
    (Text.oneLine_of_mem_displayLines member).not_mem isEnd
  rw [isPaired_flatten (getLast?_of_mem_linesAbove statement block), ← endingLike_eq_iff isLine paired]
  constructor
  · intro arePaired
    obtain ⟨entry, member, nonempty⟩ := filled
    have inLines : Text.margin statement ++ entry ++ endingLike statement ∈
        linesAbove statement block := List.mem_map.mpr ⟨entry, member, rfl⟩
    have isPaired := arePaired _ inLines
    apply (isPhysicalEnd_endingLike statement).resolve_left
    intro isFeed
    -- The line feed would stand behind the last character of the entry.
    rw [isFeed, isPaired_append_feed, List.getLast?_append,
      List.getLast?_eq_some_getLast nonempty] at isPaired
    have isReturn : entry.getLast nonempty = '\r' := Option.some.inj isPaired.2
    exact noFeed entry member (by decide) (isReturn ▸ List.getLast_mem nonempty)
  · intro isPair line member
    obtain ⟨entry, inBlock, rfl⟩ := List.mem_map.mp member
    rw [isPair]
    have isMargin : IsPaired (Text.margin statement) := by
      rw [← Text.margin_append_trimStart statement] at paired
      exact paired.of_append
    have body : IsPaired (Text.margin statement ++ entry ++ ['\r']) :=
      (isMargin.append_of_not_mem (noFeed entry inBlock (by decide))).append_of_not_mem (by decide)
    have whole := isPaired_append_feed.mpr ⟨body, by simp⟩
    simpa using whole

end Above

/-- A rendered block has some text. -/
theorem exists_displayLine_of_render? {owner table block : Text} {columns : List Column}
    {relations : List Relation} (rendered : render? owner table columns relations = some block) :
    ∃ entry ∈ Text.displayLines block, entry ≠ [] := by
  obtain ⟨rest, rfl⟩ : ∃ rest, block = '#' :: rest := ⟨_, render?_eq_some rendered⟩
  rw [Text.displayLines_of_not_ends (by decide)]
  exact ⟨_, List.mem_cons_self, by simp⟩

theorem getLast?_of_isWhole {line : Text} (whole : Text.IsWhole line) : line.getLast? = some '\n' := by
  obtain ⟨body, -, rfl⟩ := whole
  simp

/-- A block leaves a paired text paired exactly above a line with a line feed. -/
theorem StartsAt.isPaired_iff {locate : Text → Text → Except PlacementFault Nat}
    {qualname block statement : Text} {above below : List Text}
    (starts : StartsAt locate content qualname above statement below) (paired : IsPaired content)
    (filled : ∃ entry ∈ Text.displayLines block, entry ≠ []) :
    IsPaired (above ++ (linesAbove statement block ++ statement :: below)).flatten ↔
      '\n' ∈ statement := by
  have isCut := starts.areLines
  have isLine := isCut.isWhole_or (List.mem_append_right above List.mem_cons_self)
  have endsAbove : ∀ line ∈ above, line.getLast? = some '\n' := fun line member =>
    getLast?_of_isWhole (isCut.of_append.2 (by simp) line member)
  rw [← Text.flatten_lines content, starts.split, List.flatten_append,
    isPaired_append (getLast?_flatten_ne_return endsAbove)] at paired
  obtain ⟨isAbove, isRest⟩ := paired
  have isStatement : IsPaired statement := by
    rw [List.flatten_cons] at isRest
    exact isRest.of_append
  rw [List.flatten_append, isPaired_append (getLast?_flatten_ne_return endsAbove),
    List.flatten_append,
    isPaired_append (getLast?_flatten_ne_return (getLast?_of_mem_linesAbove statement block)),
    isPaired_linesAbove_iff isLine isStatement filled]
  exact ⟨fun parts => parts.2.1, fun feed => ⟨isAbove, feed, isRest⟩⟩

/-! ## Main statement -/

/-- Where every line feed stands behind a carriage return, a rendered block keeps it so exactly when
the line that it goes above is there and has a line feed. -/
theorem insert_paired_iff {nameOf : Text → Option Nat} {qualname owner table block : Text}
    {columns : List Column} {relations : List Relation} {file : SourceFile} {found : ClassStatement}
    (isRead : SourceFile.read nameOf content = .ok file) (isFound : file.find? qualname = some found)
    (paired : IsPaired content) (rendered : render? owner table columns relations = some block) :
    (∃ result, insert nameOf content qualname block = .ok result ∧ IsPaired result) ↔
      ∃ line, (Text.lines content)[file.firstLine found - 1]? = some line ∧ '\n' ∈ line := by
  have located := locate_eq_ok isRead isFound
  have filled := exists_displayLine_of_render? rendered
  constructor
  · rintro ⟨result, inserted, isPaired⟩
    obtain ⟨above, statement, below, starts, rfl⟩ := insertWith_eq_ok_iff.mp inserted
    obtain ⟨first, isFirst, place⟩ := starts.located
    obtain rfl := Except.ok.inj (located.symm.trans isFirst)
    refine ⟨statement, ?_, (starts.isPaired_iff paired filled).mp isPaired⟩
    rw [starts.split, ← place]
    simp
  · rintro ⟨line, isLine, feed⟩
    obtain ⟨inside, atPlace⟩ := List.getElem?_eq_some_iff.mp isLine
    let place := file.firstLine found - 1
    have starts : StartsAt (locate nameOf) content qualname ((Text.lines content).take place) line
        ((Text.lines content).drop (place + 1)) := by
      refine ⟨?_, _, located, List.length_take_of_le (Nat.le_of_lt inside)⟩
      rw [← atPlace, ← List.drop_eq_getElem_cons inside, List.take_append_drop]
    refine ⟨_, insertWith_eq_ok_iff.mpr ⟨_, _, _, starts, rfl⟩, ?_⟩
    exact (starts.isPaired_iff paired filled).mpr feed

namespace Sample

/-- The source file with a carriage return in front of each line feed. -/
def pairedSource : Text := "class User:\r\n    pass\r\n"

def pairedFile : SourceFile :=
  ⟨[.classDef (userAt 0).head (userAt 0).body], [1, 1, 1, 1, 2, 2, 2, 4, 4]⟩

/-- The class on a last line without a line feed. -/
def unendedSource : Text := "pass\r\nclass User: pass"

def unendedFile : SourceFile :=
  ⟨[.simple .pass, .classDef (userAt 2).head (userAt 2).body], [1, 1, 2, 2, 2, 2, 2, 3]⟩

theorem startsAt_unendedSource :
    StartsAt (locate fun _ => none) unendedSource className ["pass\r\n".toList]
      "class User: pass".toList [] := by
  refine ⟨by decide +kernel, 2, ?_, rfl⟩
  rfl

end Sample

theorem insert_paired_sample :
    SourceFile.read (fun _ => none) Sample.pairedSource = .ok Sample.pairedFile ∧
      Sample.pairedFile.find? Sample.className = some (Sample.userAt 0) ∧
      IsPaired Sample.pairedSource ∧
      render? Sample.className "users" Sample.columns [] = some Sample.block ∧
      ∃ result, insert (fun _ => none) Sample.pairedSource Sample.className Sample.block = .ok result ∧
        IsPaired result := by
  have isRead : SourceFile.read (fun _ => none) Sample.pairedSource = .ok Sample.pairedFile := by
    rfl
  have paired : IsPaired Sample.pairedSource := by decide +kernel
  refine ⟨isRead, rfl, paired, Sample.render_block, ?_⟩
  exact (insert_paired_iff isRead rfl paired Sample.render_block).mpr
    ⟨"class User:\r\n".toList, by decide +kernel, by decide +kernel⟩

/-- Above a class on a last line without a line feed, the lines of the block end in bare line feeds,
though every line feed of the file stands behind a carriage return. -/
theorem insert_unended_line :
    '\n' ∈ Sample.unendedSource ∧ IsPaired Sample.unendedSource ∧
      SourceFile.read (fun _ => none) Sample.unendedSource = .ok Sample.unendedFile ∧
      Sample.unendedFile.find? Sample.className = some (Sample.userAt 2) ∧
      IsPlain Sample.className Sample.block ∧
      ∃ result, insert (fun _ => none) Sample.unendedSource Sample.className Sample.block = .ok result ∧
        ¬ IsPaired result := by
  have paired : IsPaired Sample.unendedSource := by decide +kernel
  refine ⟨by decide, paired, rfl, rfl, Sample.isPlain_block, ?_⟩
  refine ⟨_, insertWith_eq_ok_iff.mpr ⟨_, _, _, Sample.startsAt_unendedSource, rfl⟩, ?_⟩
  have filled := exists_displayLine_of_render? Sample.render_block
  rw [Sample.startsAt_unendedSource.isPaired_iff paired filled]
  decide

end SchemaDoc.Block
