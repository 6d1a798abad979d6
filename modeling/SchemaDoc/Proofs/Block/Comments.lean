import SchemaDoc.Proofs.Block.Replacement
import SchemaDoc.Proofs.Source.LineEnds

/-!
Contract: which texts of a catalogue stay inside the comments of a block.

A line end in the name of a table or a column, or in a native type, cuts the line of the block that
shows it; what follows stands on a line of its own. All added lines are comments exactly when what
follows each such cut opens a comment itself, and the insertion line is indented by white space of
the program (`insertWith_adds_comments_iff`).
-/

namespace SchemaDoc.Block

open Source Source.Lexer

/-- The line holds a comment behind its indentation. -/
def opensComment (line : Text) : Bool :=
  (line.dropWhile isGap).head? == some '#'

/-- Each display line of the text but the first holds a comment behind its indentation. -/
def ContinuesAsComment (text : Text) : Prop :=
  ∀ line ∈ (Text.displayLines text).tail, opensComment line = true

/-! ## Comments behind indentation -/

theorem opensComment_gap_append {gap : Text} (isGap : gap.all isGap = true) (rest : Text) :
    opensComment (gap ++ rest) = opensComment rest := by
  rw [opensComment, List.dropWhile_append_of_pos (List.all_eq_true.mp isGap)]
  rfl

/-- Whether a line is a comment is decided by its first character that is no gap. -/
theorem opensComment_append {front : Text} (solid : front.all isGap = false) (back : Text) :
    opensComment (front ++ back) = opensComment front := by
  have nonempty : front.dropWhile isGap ≠ [] := by
    intro empty
    rw [List.all_eq_true.mpr (List.dropWhile_eq_nil_iff.mp empty)] at solid
    exact absurd solid (by decide)
  obtain ⟨c, rest, split⟩ := List.exists_cons_of_ne_nil nonempty
  rw [opensComment, opensComment, List.dropWhile_append, if_neg (by simpa using nonempty), split]
  rfl

theorem opensComment_of_gap {gap : Text} (isGap : gap.all isGap = true) :
    opensComment gap = false := by
  have appended := opensComment_gap_append isGap []
  rw [List.append_nil] at appended
  rw [appended]
  rfl

/-- Behind a line, text that opens no comment makes none of it. -/
theorem opensComment_append_plain {back : Text} (plain : opensComment back = false)
    (front : Text) : opensComment (front ++ back) = opensComment front := by
  by_cases isGap : front.all isGap = true
  · rw [opensComment_gap_append isGap, plain, opensComment_of_gap isGap]
  · exact opensComment_append (by simpa using isGap) back

/-! ## The lines above a statement -/

theorem opensComment_endingLike (line : Text) : opensComment (endingLike line) = false := by
  rcases isPhysicalEnd_endingLike line with isFeed | isPair
  · rw [isFeed]
    decide
  · rw [isPair]
    decide

/-- Under other white space the first line above a statement is no comment. -/
theorem exists_not_opensComment {margin : Text} (blank : Text.Blank margin)
    (solid : margin.all isGap = false) (rest : Text) :
    ∃ line ∈ Text.physicalLines (margin ++ rest), opensComment line = false := by
  obtain ⟨c, others, split⟩ : ∃ c others, margin.dropWhile isGap = c :: others := by
    refine List.exists_cons_of_ne_nil fun empty => ?_
    rw [List.all_eq_true.mpr (List.dropWhile_eq_nil_iff.mp empty)] at solid
    exact absurd solid (by decide)
  have whole : margin = margin.takeWhile isGap ++ c :: others := by
    rw [← split, List.takeWhile_append_dropWhile]
  have gaps : (margin.takeWhile isGap).all isGap = true := List.all_takeWhile
  have noEnd : ∀ {d : Char}, isGap d = false → d ∉ margin.takeWhile isGap := by
    intro d notGap member
    rw [List.all_eq_true.mp gaps d member] at notGap
    exact absurd notGap (by decide)
  have notGap : isGap c = false := by
    have stopped := List.head?_dropWhile_not isGap margin
    rw [split] at stopped
    simpa using stopped
  have notComment : c ≠ '#' := by
    rintro rfl
    have inMargin : '#' ∈ margin := whole ▸ List.mem_append_right _ List.mem_cons_self
    exact blank.not_mem (by decide) inMargin
  obtain ⟨behind, lines, cut⟩ := Text.physicalLines_first (noEnd (by decide)) (noEnd (by decide))
    c (others ++ rest)
  refine ⟨margin.takeWhile isGap ++ c :: behind, ?_, ?_⟩
  · rw [whole, List.append_assoc, List.cons_append, ← whole, cut]
    exact List.mem_cons_self
  · rw [opensComment_gap_append gaps, opensComment, List.dropWhile_cons_of_neg (by simp [notGap])]
    simpa using notComment

theorem exists_flatten_linesAbove (line : Text) {block : Text}
    (nonempty : Text.displayLines block ≠ []) :
    ∃ rest, (linesAbove line block).flatten = Text.margin line ++ rest := by
  obtain ⟨entry, entries, split⟩ := List.exists_cons_of_ne_nil nonempty
  refine ⟨entry ++ (endingLike line ++
    (entries.map fun entry => Text.margin line ++ entry ++ endingLike line).flatten), ?_⟩
  rw [linesAbove, split, List.map_cons, List.flatten_cons]
  simp only [List.append_assoc]

/-- The lines above a statement are comments when the block's display lines are, and the statement
is indented by gaps alone. -/
theorem opensComment_linesAbove_iff {line block : Text}
    (nonempty : Text.displayLines block ≠ []) :
    (∀ added ∈ Text.physicalLines (linesAbove line block).flatten, opensComment added = true) ↔
      (Text.margin line).all isGap = true ∧
        ∀ entry ∈ Text.displayLines block, opensComment entry = true := by
  by_cases gaps : (Text.margin line).all isGap = true
  · have noEnd : ∀ {c : Char}, isGap c = false → Text.endsDisplayLine c = true →
        ∀ body ∈ (Text.displayLines block).map (Text.margin line ++ ·), c ∉ body := by
      intro c notGap ends body inBodies member
      obtain ⟨entry, inBlock, rfl⟩ := List.mem_map.mp inBodies
      rcases List.mem_append.mp member with inMargin | inEntry
      · rw [List.all_eq_true.mp gaps c inMargin] at notGap
        exact absurd notGap (by decide)
      · exact (Text.oneLine_of_mem_displayLines inBlock).not_mem ends inEntry
    have lines : linesAbove line block =
        ((Text.displayLines block).map (Text.margin line ++ ·)).map (· ++ endingLike line) := by
      rw [linesAbove, List.map_map]
      rfl
    rw [lines, Text.physicalLines_flatten (isPhysicalEnd_endingLike line) fun body member =>
      ⟨noEnd (by decide) (by decide) body member, noEnd (by decide) (by decide) body member⟩]
    simp only [List.forall_mem_map, gaps, true_and,
      opensComment_append_plain (opensComment_endingLike line), opensComment_gap_append gaps]
  · refine ⟨fun comments => ?_, fun both => absurd both.1 gaps⟩
    obtain ⟨rest, isMargin⟩ := exists_flatten_linesAbove line nonempty
    obtain ⟨added, inLines, plain⟩ := exists_not_opensComment (Text.blank_margin line)
      (by simpa using gaps) rest
    rw [← isMargin] at inLines
    rw [comments added inLines] at plain
    exact absurd plain (by decide)

/-! ## Comments of a program -/

/-- Joined lines are comments when each of them is. -/
theorem onlyComments_append {front : Text} (ends : Lexer.EndsLine front) (back : Text) :
    onlyComments (front ++ back) = (onlyComments front && onlyComments back) := by
  obtain ⟨body, rfl⟩ := List.getLast?_eq_some_iff.mp ends
  rw [List.append_assoc, List.singleton_append, onlyComments, onlyComments,
    onlyCommentsFrom_append (by decide), onlyCommentsFrom_append (by decide), Bool.and_assoc]
  rfl

theorem endsLine_endingLike (line : Text) : Lexer.EndsLine (endingLike line) := by
  rcases isPhysicalEnd_endingLike line with isFeed | isPair
  · rw [isFeed]
    rfl
  · rw [isPair]
    rfl

theorem onlyComments_append_endingLike (text line : Text) :
    onlyComments (text ++ endingLike line) = onlyComments text := by
  have ends : ∃ c rest, endingLike line = c :: rest ∧ isLineEnd c = true ∧
      onlyComments rest = true := by
    rcases isPhysicalEnd_endingLike line with isFeed | isPair
    · exact ⟨'\n', [], isFeed, by decide, by decide⟩
    · exact ⟨'\r', ['\n'], isPair, by decide, by decide⟩
  obtain ⟨c, rest, split, isEnd, comments⟩ := ends
  rw [split, onlyComments, onlyCommentsFrom_append isEnd, comments, Bool.and_true]
  rfl

/-- White space in front of a comment must be white space of the program. -/
theorem onlyComments_margin_append {margin : Text} (blank : Text.Blank margin) (rest : Text) :
    onlyComments (margin ++ rest) =
      (margin.all (fun c => isLineEnd c || Lexer.isGap c) && onlyComments rest) := by
  induction margin with
  | nil => rfl
  | cons c margin inductionHypothesis =>
      have later := inductionHypothesis fun d member => blank d (List.mem_cons_of_mem c member)
      have notComment : c ≠ '#' := by
        rintro rfl
        exact blank.not_mem (by decide) List.mem_cons_self
      unfold onlyComments at later ⊢
      rw [List.cons_append, onlyCommentsFrom, List.all_cons]
      by_cases ends : isLineEnd c = true
      · rw [if_pos ends, later, ends, Bool.true_or, Bool.true_and]
      · rw [if_neg ends, if_neg (by simp), if_neg notComment, later]
        simp [ends, Bool.and_assoc]

/-- The lines above a statement are comments when the block's display lines are, and the white
space in front of the statement is white space of the program. -/
theorem onlyComments_linesAbove {line block : Text} :
    onlyComments (linesAbove line block).flatten = true ↔
      ∀ entry ∈ Text.displayLines block, onlyComments entry = true ∧
        ∀ c ∈ Text.margin line, isLineEnd c = true ∨ Lexer.isGap c = true := by
  unfold linesAbove
  induction Text.displayLines block with
  | nil => simp [onlyComments, onlyCommentsFrom]
  | cons entry entries inductionHypothesis =>
      rw [List.map_cons, List.flatten_cons,
        onlyComments_append ((endsLine_endingLike line).append _), Bool.and_eq_true,
        inductionHypothesis, onlyComments_append_endingLike,
        onlyComments_margin_append (Text.blank_margin line), List.forall_mem_cons]
      simp only [Bool.and_eq_true, List.all_eq_true, Bool.or_eq_true]
      exact and_congr_left fun _ => and_comm

theorem isLineEnd_of_oneLine {text : Text} (oneLine : Text.OneLine text) :
    ∀ c ∈ text, isLineEnd c = false := by
  intro c member
  have keeps := oneLine c member
  by_cases ends : c = '\n' ∨ c = '\r'
  · rcases ends with rfl | rfl
    · exact absurd keeps (by decide)
    · exact absurd keeps (by decide)
  · simpa [isLineEnd] using ends

theorem blank_of_gap {gap : Text} (gaps : gap.all isGap = true) : Text.Blank gap := by
  intro c member
  have isGap := List.all_eq_true.mp gaps c member
  simp only [Lexer.isGap, Bool.or_eq_true, decide_eq_true_eq] at isGap
  rcases isGap with (rfl | rfl) | rfl
  · decide
  · decide
  · decide

/-- A line that holds a comment behind its indentation is a comment of a program. -/
theorem onlyComments_of_opensComment {entry : Text} (oneLine : Text.OneLine entry)
    (comment : opensComment entry = true) : onlyComments entry = true := by
  have gaps : (entry.takeWhile isGap).all isGap = true := List.all_takeWhile
  obtain ⟨rest, split⟩ := List.head?_eq_some_iff.mp (eq_of_beq comment)
  have whole : entry = entry.takeWhile isGap ++ '#' :: rest := by
    rw [← split, List.takeWhile_append_dropWhile]
  have rest_oneLine : Text.OneLine rest := fun c member =>
    oneLine c (whole ▸ List.mem_append_right _ (List.mem_cons_of_mem _ member))
  rw [whole, onlyComments_margin_append (blank_of_gap gaps),
    onlyComments_comment (isLineEnd_of_oneLine rest_oneLine), Bool.and_true, List.all_eq_true]
  intro c member
  rw [List.all_eq_true.mp gaps c member, Bool.or_true]

/-! ## The lines of a block -/

theorem displayLines_block {entries : List Text} :
    Text.displayLines (entries.flatMap (· ++ ['\n'])) =
      entries.flatMap fun entry => Text.displayLines (entry ++ ['\n']) := by
  induction entries with
  | nil => exact Text.displayLines_nil
  | cons entry entries inductionHypothesis =>
      rw [List.flatMap_cons, List.flatMap_cons, List.append_assoc, List.singleton_append,
        Text.displayLines_append_lineFeed, inductionHypothesis]

/-- A line that starts with a number sign holds comments when it continues as a comment. -/
theorem forall_displayLines_comment {text : Text} :
    (∀ line ∈ Text.displayLines ('#' :: text), opensComment line = true) ↔
      ContinuesAsComment ('#' :: text) := by
  unfold ContinuesAsComment
  rw [Text.displayLines_of_not_ends (by decide), List.tail_cons, List.forall_mem_cons]
  exact and_iff_right rfl

/-- Text on one line does not matter for what follows it. -/
theorem continuesAsComment_append {front : Text} (oneLine : Text.OneLine front) (back : Text) :
    ContinuesAsComment (front ++ back) ↔ ContinuesAsComment back := by
  unfold ContinuesAsComment
  by_cases isEmpty : front = []
  · rw [isEmpty, List.nil_append]
  · rw [Text.displayLines_append oneLine isEmpty, List.tail_cons]

theorem continuesAsComment_line {text : Text} (oneLine : Text.OneLine text) :
    ContinuesAsComment (text ++ ['\n']) := by
  rw [continuesAsComment_append oneLine, ContinuesAsComment,
    show Text.displayLines ['\n'] = [[]] by decide]
  exact fun line member => absurd member (by simp)

/-- The text shows a character that opens no comment, behind gaps that end no line. -/
def StartsPlain (text : Text) : Prop :=
  ∃ gap c rest, text = gap ++ c :: rest ∧ gap.all isGap = true ∧ Text.OneLine gap ∧
    isGap c = false ∧ c ≠ '#' ∧ Text.endsDisplayLine c = false

/-- In front of plain text, what precedes and what follows a space do not touch. -/
theorem continuesAsComment_space {front back : Text} (plain : StartsPlain back) :
    ContinuesAsComment (front ++ ' ' :: back) ↔
      ContinuesAsComment (front ++ [' ']) ∧ ContinuesAsComment back := by
  obtain ⟨gap, c, rest, split, gaps, oneLine, notGap, notComment, inside⟩ := plain
  obtain ⟨whole, last, goesOn⟩ := Text.displayLines_append_inside
    (show Text.endsDisplayLine ' ' = false by decide) front
  have cut : Text.displayLines (front ++ [' ']) = whole ++ [last ++ [' ']] := by
    rw [goesOn, Text.displayLines_nil]
    rfl
  have head : ∃ more, (Text.displayLines back).headD [] = gap ++ c :: more := by
    have solid := Text.displayLines_of_not_ends inside rest
    by_cases isEmpty : gap = []
    · rw [split, isEmpty, List.nil_append, solid]
      exact ⟨_, rfl⟩
    · rw [split, Text.displayLines_append oneLine isEmpty, solid]
      exact ⟨_, rfl⟩
  have same : opensComment (last ++ ' ' :: (Text.displayLines back).headD []) =
      opensComment (last ++ [' ']) := by
    obtain ⟨more, isHead⟩ := head
    rw [isHead, ← List.singleton_append, ← List.append_assoc]
    by_cases isGap : (last ++ [' ']).all Lexer.isGap = true
    · rw [opensComment_gap_append isGap, opensComment_gap_append gaps, opensComment_of_gap isGap,
        opensComment, List.dropWhile_cons_of_neg (by simp [notGap])]
      simpa using notComment
    · exact opensComment_append (by simpa using isGap) _
  unfold ContinuesAsComment
  rw [cut, goesOn]
  cases whole with
  | nil => simp
  | cons first whole =>
      simp only [List.cons_append, List.tail_cons, List.forall_mem_append, List.forall_mem_cons,
        same, List.not_mem_nil, false_implies, implies_true, and_true, and_assoc]

/-! ## The texts of a catalogue -/

theorem documentedType_plain (native : Text) :
    ∃ c rest, documentedType native = c :: rest ∧ isGap c = false ∧ c ≠ '#' ∧
      Text.OneLine (c :: rest) := by
  unfold documentedType
  cases TypeFamily.ofNative native with
  | whole => exact ⟨_, _, rfl, by decide, by decide, by decide⟩
  | truth => exact ⟨_, _, rfl, by decide, by decide, by decide⟩
  | real => exact ⟨_, _, rfl, by decide, by decide, by decide⟩
  | text => exact ⟨_, _, rfl, by decide, by decide, by decide⟩
  | moment => exact ⟨_, _, rfl, by decide, by decide, by decide⟩
  | other => exact ⟨_, _, rfl, by decide, by decide, by decide⟩

theorem oneLine_spaces (count : Nat) : Text.OneLine (List.replicate count ' ') := by
  intro c member
  rw [(List.mem_replicate.mp member).2]
  decide

/-- At least two spaces stand between the native type of a column and what follows it. -/
theorem columnLine_eq (nativeWidth documentedWidth : Nat) (column : Column) (ending : Text) :
    columnLine nativeWidth documentedWidth column ++ ending =
      "# @property  ".toList ++ (column.native ++
        ' ' :: (List.replicate (nativeWidth - column.native.length + 1) ' ' ++
          (Text.padEnd documentedWidth column.documented ++ [' ', ' '] ++
            (column.name ++ ending)))) := by
  have spaces : ' ' :: List.replicate (nativeWidth - column.native.length + 1) ' ' =
      List.replicate (nativeWidth - column.native.length) ' ' ++ [' ', ' '] := by
    change List.replicate (nativeWidth - column.native.length + 2) ' ' = _
    rw [← List.replicate_append_replicate]
    rfl
  rw [← List.cons_append, spaces]
  unfold columnLine
  generalize "# @property  ".toList = tag
  simp [Text.padEnd]

/-- The native type and the name of a column continue as comments each by itself: the documented
type stands between them. -/
theorem continuesAsComment_columnLine {column : Column}
    (typed : column.documented = documentedType column.native) (nativeWidth documentedWidth : Nat) :
    ContinuesAsComment (columnLine nativeWidth documentedWidth column ++ ['\n']) ↔
      ContinuesAsComment (column.native ++ [' ']) ∧
        ContinuesAsComment (column.name ++ ['\n']) := by
  obtain ⟨c, rest, isDocumented, notGap, notComment, documented_oneLine⟩ :=
    documentedType_plain column.native
  have gap_oneLine := oneLine_spaces (nativeWidth - column.native.length + 1)
  have gaps : (List.replicate (nativeWidth - column.native.length + 1) ' ').all isGap = true := by
    rw [List.all_replicate]
    simp [isGap]
  rw [columnLine_eq]
  generalize List.replicate (nativeWidth - column.native.length + 1) ' ' = gap at gap_oneLine gaps ⊢
  have between_oneLine :
      Text.OneLine (Text.padEnd documentedWidth column.documented ++ [' ', ' ']) := by
    rw [← isDocumented, ← typed] at documented_oneLine
    exact (documented_oneLine.padEnd _).append (by decide)
  obtain ⟨others, starts⟩ : ∃ others, Text.padEnd documentedWidth column.documented ++ [' ', ' '] ++
      (column.name ++ ['\n']) = c :: others := by
    simp [Text.padEnd, typed, isDocumented]
  have plain : StartsPlain (gap ++ (Text.padEnd documentedWidth column.documented ++ [' ', ' '] ++
      (column.name ++ ['\n']))) :=
    ⟨gap, c, others, by rw [starts], gaps, gap_oneLine, notGap, notComment,
      documented_oneLine c List.mem_cons_self⟩
  rw [continuesAsComment_append (by decide), continuesAsComment_space plain,
    continuesAsComment_append gap_oneLine, continuesAsComment_append between_oneLine]

/-- The display lines of a block are comments when the text of each of its lines continues as a
comment. -/
theorem forall_displayLines_render? {qualname table block : Text} {columns : List Column}
    {relations : List Relation}
    (rendered : render? qualname table columns relations = some block) :
    (∀ line ∈ Text.displayLines block, opensComment line = true) ↔
      ∀ entry ∈ bodyLines qualname table columns relations,
        ContinuesAsComment (entry ++ ['\n']) := by
  obtain ⟨tagged, split, areTagged⟩ := bodyLines_eq qualname table columns relations
  rw [render?_eq_some rendered, displayLines_block]
  simp only [List.forall_mem_flatMap]
  refine forall_congr' fun entry => forall_congr' fun member => ?_
  obtain ⟨rest, rfl⟩ := starts_of_split split areTagged entry member
  exact forall_displayLines_comment

theorem continuesAsComment_relationLine (relation : Relation) :
    ContinuesAsComment (relationLine relation ++ ['\n']) ↔
      ContinuesAsComment (relation.documented ++ ' ' :: relation.name ++ ['\n']) := by
  have split : relationLine relation ++ ['\n'] =
      "# @property-read ".toList ++ (relation.documented ++ ' ' :: relation.name ++ ['\n']) := by
    unfold relationLine
    generalize "# @property-read ".toList = tag
    simp
  rw [split, continuesAsComment_append (by decide)]

/-- The lines of a block continue as comments when the texts of the catalogue do. -/
theorem forall_bodyLines_iff {qualname table : Text} {columns : List Column}
    {relations : List Relation} (qualname_oneLine : Text.OneLine qualname)
    (typed : ∀ column ∈ columns, column.documented = documentedType column.native) :
    (∀ entry ∈ bodyLines qualname table columns relations,
        ContinuesAsComment (entry ++ ['\n'])) ↔
      ContinuesAsComment (table ++ ['\n']) ∧
        (∀ column ∈ columns, ContinuesAsComment (column.native ++ [' ']) ∧
          ContinuesAsComment (column.name ++ ['\n'])) ∧
        ∀ relation ∈ relations,
          ContinuesAsComment (relation.documented ++ ' ' :: relation.name ++ ['\n']) := by
  have isBegin : ContinuesAsComment (beginMarker qualname ++ ['\n']) :=
    continuesAsComment_line (.append (by decide) qualname_oneLine)
  have isEnd : ContinuesAsComment (endMarker ++ ['\n']) := continuesAsComment_line (by decide)
  have isTable : ContinuesAsComment ("# @table " ++ table ++ ['\n']) ↔
      ContinuesAsComment (table ++ ['\n']) := by
    rw [List.append_assoc, continuesAsComment_append (by decide)]
  have ofColumns : ∀ nativeWidth documentedWidth,
      (∀ column ∈ columns,
        ContinuesAsComment (columnLine nativeWidth documentedWidth column ++ ['\n'])) ↔
        ∀ column ∈ columns, ContinuesAsComment (column.native ++ [' ']) ∧
          ContinuesAsComment (column.name ++ ['\n']) := fun nativeWidth documentedWidth =>
    forall_congr' fun column => forall_congr' fun member =>
      continuesAsComment_columnLine (typed column member) nativeWidth documentedWidth
  simp only [bodyLines, List.forall_mem_append, List.forall_mem_cons, List.forall_mem_map,
    List.not_mem_nil, false_implies, implies_true, and_true, isBegin, isEnd, isTable, ofColumns,
    continuesAsComment_relationLine, true_and, and_assoc]

/-- The added lines are comments exactly when the class is indented by gaps, and every further
line of a text from the catalogue opens a comment itself; then nothing but comments is added. -/
theorem insertWith_adds_comments_iff {locate : Text → Text → Except PlacementFault Nat}
    {content qualname table block result : Text} {columns : List Column}
    {relations : List Relation} (qualname_oneLine : Text.OneLine qualname)
    (typed : ∀ column ∈ columns, column.documented = documentedType column.native)
    (rendered : render? qualname table columns relations = some block)
    (inserted : insertWith locate content qualname block = .ok result) :
    ∃ above statement below, StartsAt locate content qualname above statement below ∧
      result = (above ++ (linesAbove statement block ++ statement :: below)).flatten ∧
      ((∀ added ∈ Text.physicalLines (linesAbove statement block).flatten,
          opensComment added = true) ↔
        (Text.margin statement).all isGap = true ∧ ContinuesAsComment (table ++ ['\n']) ∧
          (∀ column ∈ columns, ContinuesAsComment (column.native ++ [' ']) ∧
            ContinuesAsComment (column.name ++ ['\n'])) ∧
          ∀ relation ∈ relations,
            ContinuesAsComment (relation.documented ++ ' ' :: relation.name ++ ['\n'])) ∧
      ((∀ added ∈ Text.physicalLines (linesAbove statement block).flatten,
          opensComment added = true) →
        onlyComments (linesAbove statement block).flatten = true) := by
  obtain ⟨above, statement, below, starts, rfl⟩ := insertWith_eq_ok_iff.mp inserted
  refine ⟨above, statement, below, starts, rfl, ?_⟩
  have nonempty : Text.displayLines block ≠ [] := by
    refine Text.displayLines_ne_nil ?_
    rw [render?_eq_some rendered]
    exact List.cons_ne_nil _ _
  constructor
  · rw [opensComment_linesAbove_iff nonempty, forall_displayLines_render? rendered,
      forall_bodyLines_iff qualname_oneLine typed]
  · intro comments
    obtain ⟨gaps, entries⟩ := (opensComment_linesAbove_iff nonempty).mp comments
    apply onlyComments_linesAbove.mpr
    intro entry member
    have oneLine := Text.oneLine_of_mem_displayLines member
    exact ⟨onlyComments_of_opensComment oneLine (entries entry member),
      fun c inMargin => .inr (List.all_eq_true.mp gaps c inMargin)⟩

theorem insertWith_adds_comments_sample :
    ∃ above statement below,
      StartsAt (locate fun _ => none) Sample.source Sample.className above statement below ∧
      Sample.block ++ Sample.source =
        (above ++ (linesAbove statement Sample.block ++ statement :: below)).flatten ∧
      ((∀ added ∈ Text.physicalLines (linesAbove statement Sample.block).flatten,
          opensComment added = true) ↔
        (Text.margin statement).all isGap = true ∧
          ContinuesAsComment ("users".toList ++ ['\n']) ∧
          (∀ column ∈ Sample.columns, ContinuesAsComment (column.native ++ [' ']) ∧
            ContinuesAsComment (column.name ++ ['\n'])) ∧
          ∀ relation ∈ ([] : List Relation),
            ContinuesAsComment (relation.documented ++ ' ' :: relation.name ++ ['\n'])) ∧
      ((∀ added ∈ Text.physicalLines (linesAbove statement Sample.block).flatten,
          opensComment added = true) →
        onlyComments (linesAbove statement Sample.block).flatten = true) :=
  insertWith_adds_comments_iff (by decide) (by decide +kernel) Sample.render_block
    Sample.insert_source

/-- The block of a column whose name goes on behind a line end. -/
def Sample.brokenBlock : Text :=
  "# region model-doc: User\n# @table users\n".toList ++
    "# @property  INTEGER  int  id\nimport os\n# endregion model-doc\n".toList

/-- What follows a line end in the name of a column stands in the source as code. -/
theorem insert_broken_column_name :
    render? Sample.className "users" [Column.ofNative "id\nimport os" "INTEGER"] [] =
        some Sample.brokenBlock ∧
      insert (fun _ => none) Sample.source Sample.className Sample.brokenBlock =
        .ok (Sample.brokenBlock ++ Sample.source) ∧
      "import os\n".toList ∈ Text.physicalLines
        (linesAbove "class User:\n" Sample.brokenBlock).flatten ∧
      opensComment "import os\n" = false := by
  refine ⟨by decide +kernel, ?_, by decide +kernel, by decide⟩
  rw [insert, insertWith, Sample.locate_source]
  rfl

end SchemaDoc.Block
