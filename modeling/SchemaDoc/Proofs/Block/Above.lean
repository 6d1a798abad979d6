import SchemaDoc.Proofs.Block.Insert
import SchemaDoc.Proofs.Source.Definition

/-!
Contract: that a block lands directly above the definition of its class.

The lines of the text are counted in two ways: at line feeds where the block goes in, and at every line
end where the definition is looked for. Both give one place where each physical line above the definition
has a line feed, and the block goes above the definition's first line where the first decorator's
expression stands on the line of its sign (`insert_above_iff`).
-/

namespace SchemaDoc.Block

open Source (SourceFile ClassStatement)

variable {nameOf : Text → Option Nat} {content qualname : Text} {upper lower : List Text}
  {line : Text}

/-- The lines of the block go between the upper lines and the line, each behind this line's white
space. -/
def InsertsAbove (nameOf : Text → Option Nat) (content qualname block : Text) (upper : List Text)
    (line : Text) (lower : List Text) : Prop :=
  ∃ ending, Text.IsPhysicalEnd ending ∧ insert nameOf content qualname block =
    .ok (upper ++ ((Text.displayLines block).map (fun entry => Text.margin line ++ entry ++ ending) ++
      line :: lower)).flatten

theorem locate_eq_ok {file : SourceFile} {found : ClassStatement}
    (isRead : SourceFile.read nameOf content = .ok file) (isFound : file.find? qualname = some found) :
    locate nameOf content qualname = .ok (file.firstLine found) := by
  rw [locate, isRead]
  simp only [isFound]

/-! ## White space in front of a line -/

/-- The white space in front of a text that is not blank is found again in a longer text. -/
theorem margin_append {text : Text} (solid : ∃ c ∈ text, Text.isBlank c = false) (rest : Text) :
    Text.margin (text ++ rest) = Text.margin text := by
  induction text with
  | nil => exact absurd solid (by simp)
  | cons d text inductionHypothesis =>
      by_cases blank : Text.isBlank d = true
      · have later : ∃ c ∈ text, Text.isBlank c = false := by
          obtain ⟨c, member, notBlank⟩ := solid
          rcases List.mem_cons.mp member with rfl | inText
          · rw [blank] at notBlank
            exact absurd notBlank (by decide)
          · exact ⟨c, inText, notBlank⟩
        rw [List.cons_append, Text.margin, List.takeWhile_cons_of_pos blank, Text.margin,
          List.takeWhile_cons_of_pos blank]
        exact congrArg (d :: ·) (inductionHypothesis later)
      · rw [List.cons_append, Text.margin, List.takeWhile_cons_of_neg blank, Text.margin,
          List.takeWhile_cons_of_neg blank]

/-- The white space in front of a physical line that is not blank does not run over its end. -/
theorem feed_not_mem_margin (isLine : Text.IsPhysicalLine line)
    (solid : ∃ c ∈ line, Text.isBlank c = false) : '\n' ∉ Text.margin line := by
  intro feed
  have whole := isLine.isWhole ((List.takeWhile_prefix _).subset feed)
  obtain ⟨c, member, notBlank⟩ := solid
  rw [← whole.margin_eq_self feed] at member
  exact absurd member ((Text.blank_margin line).not_mem notBlank)

theorem lines_append {front : Text} (nonempty : front ≠ []) (noFeed : '\n' ∉ front) (rest : Text) :
    Text.lines (front ++ rest) =
      (front ++ (Text.lines rest).headD []) :: (Text.lines rest).tail := by
  induction front with
  | nil => exact absurd rfl nonempty
  | cons c front inductionHypothesis =>
      rw [List.mem_cons, not_or] at noFeed
      rw [List.cons_append, Text.lines_of_ne (Ne.symm noFeed.1)]
      cases front with
      | nil => rfl
      | cons d others =>
          rw [inductionHypothesis (by simp) noFeed.2]
          rfl

/-- The first of the lines that are cut at line feeds has the white space of the physical line. -/
theorem exists_first_line (isLine : Text.IsPhysicalLine line)
    (solid : ∃ c ∈ line, Text.isBlank c = false) (rest : Text) :
    ∃ statement below, Text.lines (line ++ rest) = statement :: below ∧
      Text.margin statement = Text.margin line := by
  by_cases feed : '\n' ∈ line
  · obtain ⟨body, noFeed, rfl⟩ := isLine.isWhole feed
    refine ⟨body ++ ['\n'], Text.lines rest, ?_, rfl⟩
    rw [List.append_assoc]
    exact Text.lines_line noFeed rest
  · have nonempty : line ≠ [] := by
      rintro rfl
      exact absurd solid (by simp)
    exact ⟨_, _, lines_append nonempty feed rest, margin_append solid _⟩

/-! ## Sufficiency -/

/-- Where each upper line has a line feed, the block goes above the line. -/
theorem insertsAbove_of_feeds (split : Text.physicalLines content = upper ++ line :: lower)
    (solid : ∃ c ∈ line, Text.isBlank c = false)
    (located : locate nameOf content qualname = .ok (upper.length + 1))
    (feeds : ∀ other ∈ upper, '\n' ∈ other) (block : Text) :
    InsertsAbove nameOf content qualname block upper line lower := by
  have areLines (other : Text) (member : other ∈ upper ++ line :: lower) : Text.IsPhysicalLine other :=
    Text.isPhysicalLine_of_mem (split ▸ member)
  obtain ⟨statement, below, cut, sameMargin⟩ := exists_first_line
    (areLines line (List.mem_append_right upper List.mem_cons_self)) solid lower.flatten
  have rest : (statement :: below).flatten = (line :: lower).flatten := by
    rw [← cut, Text.flatten_lines, List.flatten_cons]
  have whole : ∀ other ∈ upper, Text.IsWhole other := fun other member =>
    (areLines other (List.mem_append_left _ member)).isWhole (feeds other member)
  have starts : StartsAt (locate nameOf) content qualname upper statement below := by
    refine ⟨?_, upper.length + 1, located, rfl⟩
    have areCut := Text.AreLines.whole_append whole (cut ▸ Text.areLines_lines (line ++ lower.flatten))
    rw [← Text.flatten_physicalLines content, split, List.flatten_append, ← rest,
      ← List.flatten_append]
    exact Text.lines_flatten areCut
  refine ⟨endingLike statement, isPhysicalEnd_endingLike statement, ?_⟩
  rw [insert, insertWith_eq_ok_iff.mpr ⟨upper, statement, below, starts, rfl⟩, linesAbove, sameMargin]
  rw [List.flatten_append, List.flatten_append, rest, ← List.flatten_append, ← List.flatten_append]

/-! ## Necessity -/

/-- The character behind a run is no part of a run that starts later, within the first one's length. -/
theorem length_le_of_append_replicate {c d e : Char} {count : Nat} {first second rest others : Text}
    (same : first ++ (List.replicate count c ++ d :: rest) =
      second ++ (List.replicate count c ++ e :: others))
    (notRun : d ≠ c) (short : second.length < count) : second.length ≤ first.length := by
  by_contra behind
  have isBehind : (first ++ (List.replicate count c ++ d :: rest))[first.length + count]? = some d := by
    simp
  have isInside :
      (second ++ (List.replicate count c ++ e :: others))[first.length + count]? = some c := by
    rw [List.getElem?_append_right (by omega),
      List.getElem?_append_left (by rw [List.length_replicate]; omega),
      List.getElem?_replicate, if_pos (by omega)]
  rw [same, isInside] at isBehind
  exact notRun (Option.some.inj isBehind).symm

/-- Behind texts that are shorter than a run of one character, the run stands at one place. -/
theorem eq_of_append_replicate {c d e : Char} {count : Nat} {first second rest others : Text}
    (same : first ++ (List.replicate count c ++ d :: rest) =
      second ++ (List.replicate count c ++ e :: others))
    (notRun : d ≠ c) (otherNotRun : e ≠ c) (short : first.length < count)
    (otherShort : second.length < count) : first = second := by
  have notLonger := length_le_of_append_replicate same notRun otherShort
  have notShorter := length_le_of_append_replicate same.symm otherNotRun short
  exact (List.append_inj same (Nat.le_antisymm notShorter notLonger)).1

theorem count_flatten_le_length {cut : List Text} (few : ∀ other ∈ cut, other.count '\n' ≤ 1) :
    cut.flatten.count '\n' ≤ cut.length := by
  induction cut with
  | nil => exact Nat.le_refl 0
  | cons first rest inductionHypothesis =>
      obtain ⟨here, others⟩ := List.forall_mem_cons.mp few
      have below := inductionHypothesis others
      rw [List.flatten_cons, List.count_append, List.length_cons]
      omega

/-- As many lines as line feeds, and no more than one line feed on each: each line has one. -/
theorem forall_mem_of_length_le_count {cut : List Text} (few : ∀ other ∈ cut, other.count '\n' ≤ 1)
    (many : cut.length ≤ cut.flatten.count '\n') : ∀ other ∈ cut, '\n' ∈ other := by
  induction cut with
  | nil => simp
  | cons first rest inductionHypothesis =>
      obtain ⟨here, others⟩ := List.forall_mem_cons.mp few
      have below := count_flatten_le_length others
      rw [List.flatten_cons, List.count_append, List.length_cons] at many
      refine List.forall_mem_cons.mpr ⟨List.count_pos_iff.mp (by omega), ?_⟩
      exact inductionHypothesis others (by omega)

theorem count_flatten_of_whole {cut : List Text} (whole : ∀ other ∈ cut, Text.IsWhole other) :
    cut.flatten.count '\n' = cut.length := by
  induction cut with
  | nil => rfl
  | cons first rest inductionHypothesis =>
      obtain ⟨⟨body, noFeed, rfl⟩, others⟩ := List.forall_mem_cons.mp whole
      rw [List.flatten_cons, List.count_append, inductionHypothesis others, List.count_append,
        List.count_eq_zero.mpr noFeed, List.length_cons]
      simp [Nat.add_comm]

theorem exists_cons_of_isPhysicalEnd {ending : Text} (isEnd : Text.IsPhysicalEnd ending) :
    ∃ c rest, ending = c :: rest ∧ c ≠ '#' := by
  rcases isEnd with rfl | rfl
  · exact ⟨_, _, rfl, by decide⟩
  · exact ⟨_, _, rfl, by decide⟩

/-- The text up to the first character of a line that is not white space is a part of the whole text. -/
theorem length_append_margin {text : Text} {above below : List Text}
    (split : (above ++ line :: below).flatten = text) :
    (above.flatten ++ Text.margin line).length < text.length + 1 := by
  have inside : (Text.margin line).length ≤ line.length := (List.takeWhile_prefix _).length_le
  rw [← split, List.flatten_append, List.flatten_cons, List.length_append, List.length_append,
    List.length_append]
  omega

/-- A block line that is longer than the text is found again in the result, at one place: in front of
it stand the upper lines and the white space of the line. -/
theorem exists_startsAt_of_insertsAbove (split : Text.physicalLines content = upper ++ line :: lower)
    (inserts : ∀ block, InsertsAbove nameOf content qualname block upper line lower) :
    ∃ above statement below, StartsAt (locate nameOf) content qualname above statement below ∧
      upper.flatten ++ Text.margin line = above.flatten ++ Text.margin statement := by
  let run : Text := List.replicate (content.length + 1) '#'
  have isRun : Text.displayLines (run ++ ['\n']) = [run] := by
    refine Text.displayLines_line (fun c member => ?_) []
    rw [(List.mem_replicate.mp member).2]
    decide
  obtain ⟨ending, isEnd, inserted⟩ := inserts (run ++ ['\n'])
  obtain ⟨above, statement, below, starts, same⟩ := insertWith_eq_ok_iff.mp inserted
  obtain ⟨d, more, rfl, notRun⟩ := exists_cons_of_isPhysicalEnd isEnd
  obtain ⟨e, others, isLike, otherNotRun⟩ :=
    exists_cons_of_isPhysicalEnd (isPhysicalEnd_endingLike statement)
  rw [linesAbove, isRun, isLike] at same
  refine ⟨above, statement, below, starts, ?_⟩
  apply eq_of_append_replicate (by simpa using same) notRun otherNotRun
  · exact length_append_margin (split ▸ Text.flatten_physicalLines content)
  · exact length_append_margin (starts.split ▸ Text.flatten_lines content)

/-- Where every block goes above the line, each upper line has a line feed, and the line is that on which
the class is located. -/
theorem feeds_of_insertsAbove (split : Text.physicalLines content = upper ++ line :: lower)
    (solid : ∃ c ∈ line, Text.isBlank c = false) {first : Nat}
    (located : locate nameOf content qualname = .ok first) (inFront : upper.length + 1 ≤ first)
    (inserts : ∀ block, InsertsAbove nameOf content qualname block upper line lower) :
    first = upper.length + 1 ∧ ∀ other ∈ upper, '\n' ∈ other := by
  have areLines (other : Text) (member : other ∈ upper ++ line :: lower) : Text.IsPhysicalLine other :=
    Text.isPhysicalLine_of_mem (split ▸ member)
  obtain ⟨above, statement, below, starts, atOnePlace⟩ := exists_startsAt_of_insertsAbove split inserts
  have counted := congrArg (List.count '\n') atOnePlace
  rw [List.count_append, List.count_append,
    List.count_eq_zero.mpr (feed_not_mem_margin (areLines line (by simp)) solid)] at counted
  have few := fun other member => (areLines other (List.mem_append_left _ member)).count_le
  have atMost := count_flatten_le_length few
  obtain ⟨place, isLocated, isPlace⟩ := starts.located
  obtain rfl := Except.ok.inj (located.symm.trans isLocated)
  have isCut := starts.areLines
  have whole := count_flatten_of_whole (isCut.of_append.2 (by simp))
  exact ⟨by omega, forall_mem_of_length_le_count few (by omega)⟩

/-! ## Main statement -/

/-- The definition of a class begins on a physical line. A block lands directly above this line, indented
like it, exactly where each physical line above has a line feed and the expression of the first decorator
stands on the line of its sign. -/
theorem insert_above_iff {file : SourceFile} {found : ClassStatement}
    (isRead : SourceFile.read nameOf content = .ok file) (isFound : file.find? qualname = some found) :
    (∃ upper line lower, Source.BeginsOn content found.head upper line lower) ∧
      ∀ upper line lower, Source.BeginsOn content found.head upper line lower →
        ((∀ block, InsertsAbove nameOf content qualname block upper line lower) ↔
          (∀ other ∈ upper, '\n' ∈ other) ∧
            ∀ first ∈ found.head.decorators.head?, file.lineOf first.place = upper.length + 1) := by
  obtain ⟨placed, front, opening, behind, opens⟩ :=
    Source.exists_opens isRead (SourceFile.find?_sound isFound).1
  obtain ⟨upper, line, lower, begins, isLine, solid⟩ := opens.exists_beginsOn
  refine ⟨⟨upper, line, lower, begins⟩, fun upper' line' lower' alsoBegins => ?_⟩
  obtain ⟨rfl, rfl, rfl⟩ := begins.unique alsoBegins
  have located := locate_eq_ok isRead isFound
  have inFront := opens.lineOf_le_firstLine
  have onSignLine := opens.firstLine_eq_iff
  rw [isLine] at inFront onSignLine
  constructor
  · intro inserts
    obtain ⟨isFirst, feeds⟩ := feeds_of_insertsAbove begins.split solid located inFront inserts
    exact ⟨feeds, onSignLine.mp isFirst⟩
  · rintro ⟨feeds, onLine⟩
    rw [onSignLine.mpr onLine] at located
    exact insertsAbove_of_feeds begins.split solid located feeds

namespace Sample

/-- The class `User` below a decorator, whose words stand at places among the tokens. -/
def decorated (decorator first : Nat) : ClassStatement :=
  ⟨⟨first, className, [], [⟨decorator, .name "deco".toList⟩]⟩, [.simple .pass]⟩

def decoratedSource : Text := "@deco\n".toList ++ source

def decoratedFile : SourceFile :=
  ⟨[.classDef (decorated 1 3).head (decorated 1 3).body], [1, 1, 1, 2, 2, 2, 2, 3, 3, 3, 4, 4]⟩

theorem read_decoratedSource : SourceFile.read (fun _ => none) decoratedSource = .ok decoratedFile := by
  rfl

/-- The tokens of the file with their lines. -/
def decoratedTokens : List Source.PlacedToken :=
  [⟨.symbol "@", 1⟩, ⟨.name "deco".toList true, 1⟩, ⟨.newline, 1⟩, ⟨.keyword "class", 2⟩,
    ⟨.name className true, 2⟩, ⟨.symbol ":", 2⟩, ⟨.newline, 2⟩, ⟨.indent, 3⟩, ⟨.keyword "pass", 3⟩,
    ⟨.newline, 3⟩, ⟨.dedent, 4⟩, ⟨.finish, 4⟩]

/-- A decorator whose expression stands below its sign. -/
def bracketedSource : Text := "@(\n    deco\n)\n".toList ++ source

def bracketedFile : SourceFile :=
  ⟨[.classDef (decorated 2 5).head (decorated 2 5).body],
    [1, 1, 2, 3, 3, 4, 4, 4, 4, 5, 5, 5, 6, 6]⟩

/-- The tokens of the file with their lines. -/
def bracketedTokens : List Source.PlacedToken :=
  [⟨.symbol "@", 1⟩, ⟨.symbol "(", 1⟩, ⟨.name "deco".toList true, 2⟩, ⟨.symbol ")", 3⟩, ⟨.newline, 3⟩,
    ⟨.keyword "class", 4⟩, ⟨.name className true, 4⟩, ⟨.symbol ":", 4⟩, ⟨.newline, 4⟩, ⟨.indent, 5⟩,
    ⟨.keyword "pass", 5⟩, ⟨.newline, 5⟩, ⟨.dedent, 6⟩, ⟨.finish, 6⟩]

/-- The lines below the sign of the decorator. -/
def belowSign : List Text :=
  ["    deco\n".toList, ")\n".toList, "class User:\n".toList, "    pass\n".toList]

theorem beginsOn_decoratedSource :
    Source.BeginsOn decoratedSource (decorated 1 3).head [] "@deco\n".toList
      ["class User:\n".toList, "    pass\n".toList] := by
  refine ⟨by decide +kernel, decoratedTokens, 0, ⟨.symbol "@", 1⟩, rfl, ?_, rfl, rfl⟩
  refine ⟨rfl, by decide, fun place isBehind inFront => ?_⟩
  change place < 1 at inFront
  omega

set_option maxRecDepth 4000 in
theorem beginsOn_bracketedSource :
    Source.BeginsOn bracketedSource (decorated 2 5).head [] "@(\n".toList belowSign := by
  refine ⟨by decide +kernel, bracketedTokens, 0, ⟨.symbol "@", 1⟩, rfl, ?_, rfl, rfl⟩
  refine ⟨rfl, by decide, fun place isBehind inFront => ?_⟩
  obtain rfl : place = 1 := by
    change place < 2 at inFront
    omega
  rfl

theorem insert_bracketedSource :
    insert (fun _ => none) bracketedSource className block =
      .ok ("@(\n".toList ++ (linesAbove "    deco\n".toList block).flatten ++ belowSign.flatten) := by
  have located : locate (fun _ => none) bracketedSource className = .ok 2 := by
    rfl
  have cut : Text.lines bracketedSource = "@(\n".toList :: belowSign := by
    decide +kernel
  rw [insert, insertWith_eq_ok_iff]
  refine ⟨["@(\n".toList], _, _, ⟨cut, 2, located, rfl⟩, ?_⟩
  simp [belowSign]

end Sample

theorem insert_above_sample :
    Source.BeginsOn Sample.decoratedSource (Sample.decorated 1 3).head [] "@deco\n".toList
        ["class User:\n".toList, "    pass\n".toList] ∧
      ∀ block, InsertsAbove (fun _ => none) Sample.decoratedSource Sample.className block []
        "@deco\n".toList ["class User:\n".toList, "    pass\n".toList] := by
  have isFound : Sample.decoratedFile.find? Sample.className = some (Sample.decorated 1 3) := rfl
  have above := (insert_above_iff Sample.read_decoratedSource isFound).2 _ _ _
    Sample.beginsOn_decoratedSource
  refine ⟨Sample.beginsOn_decoratedSource, above.mpr ⟨by simp, fun first isFirst => ?_⟩⟩
  obtain rfl := Option.some.inj isFirst
  rfl

/-- The block of a class goes between the sign of its decorator and the decorator's expression. -/
theorem insert_below_sign :
    SourceFile.read (fun _ => none) Sample.bracketedSource = .ok Sample.bracketedFile ∧
      Sample.bracketedFile.find? Sample.className = some (Sample.decorated 2 5) ∧
      Source.BeginsOn Sample.bracketedSource (Sample.decorated 2 5).head [] "@(\n".toList
        Sample.belowSign ∧
      insert (fun _ => none) Sample.bracketedSource Sample.className Sample.block =
        .ok ("@(\n".toList ++ (linesAbove "    deco\n".toList Sample.block).flatten ++
          Sample.belowSign.flatten) ∧
      ¬ InsertsAbove (fun _ => none) Sample.bracketedSource Sample.className Sample.block []
        "@(\n".toList Sample.belowSign := by
  have display : (Text.displayLines Sample.block).head? = some "# region model-doc: User".toList := by
    decide +kernel
  refine ⟨rfl, rfl, Sample.beginsOn_bracketedSource, Sample.insert_bracketedSource, ?_⟩
  rintro ⟨ending, -, above⟩
  obtain ⟨others, isFirst⟩ := List.head?_eq_some_iff.mp display
  rw [Sample.insert_bracketedSource, isFirst] at above
  have sameFirst : some '@' = some '#' := congrArg List.head? (Except.ok.inj above)
  exact absurd sameFirst (by decide)

end SchemaDoc.Block
