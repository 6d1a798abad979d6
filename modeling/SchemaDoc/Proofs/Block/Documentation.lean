import Mathlib.Data.List.DropRight
import SchemaDoc.Proofs.Block.Insert

/-!
Contract: what a block documents can be read back from it.

The columns of a block are padded to widths that depend on all of them, and native types may hold spaces
themselves. The reader works from the end of a line: the name and the documented type of a column hold no
space, so that each of them is the last word of what is left, and what stands before them is the native type
with spaces behind it. The type of a relationship tells by its bracket whether it leads to many objects.

Main statements: `read?_block` and `block_determines`.
-/

namespace SchemaDoc.Block

/-- What a block documents. -/
structure Documentation where
  qualname : Text
  table : Text
  columns : List Column
  relations : List Relation
deriving DecidableEq, Repr

namespace Documentation

def block? (documentation : Documentation) : Option Text :=
  render? documentation.qualname documentation.table documentation.columns documentation.relations

/-- All texts that the block shows. -/
def texts (documentation : Documentation) : List Text :=
  documentation.qualname :: documentation.table ::
    ((documentation.columns.flatMap fun column => [column.name, column.native, column.documented]) ++
      documentation.relations.flatMap fun relation => [relation.name, relation.related])

/-- A block shows the documentation without ambiguity: there are columns, no text has a line feed, names and
documented types are words, native types do not end in a space, and related classes have no bracket. -/
structure IsLegible (documentation : Documentation) : Prop where
  filled : documentation.columns ≠ []
  unbroken : ∀ text ∈ documentation.texts, '\n' ∉ text
  columns : ∀ column ∈ documentation.columns, ' ' ∉ column.name ∧ column.documented ≠ [] ∧
    ' ' ∉ column.documented ∧ column.native.getLast? ≠ some ' '
  relations : ∀ relation ∈ documentation.relations, ' ' ∉ relation.name ∧ '[' ∉ relation.related

end Documentation

/-! ## The end of a line -/

/-- The text in front of the last space, and the word behind it. -/
def cutWord (text : Text) : Text × Text :=
  ((text.rdropWhile (· != ' ')).dropLast, text.rtakeWhile (· != ' '))

/-- The text without the spaces at its end. -/
def dropSpaces (text : Text) : Text :=
  text.rdropWhile (· == ' ')

theorem cutWord_append (front : Text) {word : Text} (solid : ' ' ∉ word) :
    cutWord (front ++ ' ' :: word) = (front, word) := by
  have inWord : ∀ c ∈ word.reverse, (c != ' ') = true := by
    intro c member
    simp only [bne_iff_ne]
    intro isSpace
    exact solid (isSpace ▸ List.mem_reverse.mp member)
  have reversed : (front ++ ' ' :: word).reverse = word.reverse ++ ' ' :: front.reverse := by simp
  have dropped : (front ++ ' ' :: word).rdropWhile (· != ' ') = front ++ [' '] := by
    rw [List.rdropWhile, reversed, List.dropWhile_append_of_pos inWord,
      List.dropWhile_cons_of_neg (by decide), List.reverse_cons, List.reverse_reverse]
  have taken : (front ++ ' ' :: word).rtakeWhile (· != ' ') = word := by
    rw [List.rtakeWhile, reversed, List.takeWhile_append_of_pos inWord,
      List.takeWhile_cons_of_neg (by decide), List.append_nil, List.reverse_reverse]
  rw [cutWord, dropped, taken, List.dropLast_concat]

theorem dropSpaces_append {text : Text} (solid : text.getLast? ≠ some ' ') (count : Nat) :
    dropSpaces (text ++ List.replicate count ' ') = text := by
  induction count with
  | zero =>
      rw [List.replicate_zero, List.append_nil, dropSpaces, List.rdropWhile_eq_self_iff]
      intro filled isSpace
      rw [List.getLast?_eq_some_getLast filled, eq_of_beq isSpace] at solid
      exact solid rfl
  | succ count inductionHypothesis =>
      rw [List.replicate_succ', ← List.append_assoc, dropSpaces,
        List.rdropWhile_concat_pos _ _ _ (by decide)]
      exact inductionHypothesis

theorem getLast?_append_word (front : Text) {word : Text} (filled : word ≠ []) (solid : ' ' ∉ word) :
    (front ++ word).getLast? ≠ some ' ' := by
  rw [List.getLast?_append_of_ne_nil front filled]
  intro isSpace
  exact solid (List.mem_of_getLast? isSpace)

/-! ## Lines -/

theorem filterMap_map_of_some {α : Type} {shown : List α} {render : α → Text} {read : Text → Option α}
    (undone : ∀ entry ∈ shown, read (render entry) = some entry) :
    (shown.map render).filterMap read = shown := by
  have congruent : shown.filterMap (read ∘ render) = shown.filterMap some :=
    List.filterMap_congr undone
  rw [List.filterMap_map, congruent, List.filterMap_some]

theorem filterMap_map_of_none {α β : Type} {shown : List α} {render : α → Text} {read : Text → Option β}
    (never : ∀ entry ∈ shown, read (render entry) = none) : (shown.map render).filterMap read = [] := by
  rw [List.filterMap_map]
  exact List.filterMap_eq_nil_iff.mpr never

/-- The column that a line shows. -/
def readColumn? (line : Text) : Option Column :=
  (Text.after? "# @property  " line).map fun shown =>
    let (types, name) := cutWord shown
    let (native, documented) := cutWord (dropSpaces types)
    ⟨name, dropSpaces native, documented⟩

/-- The relationship of a name and a documented type. -/
def relationOf (name documented : Text) : Relation :=
  if '[' ∈ documented then ⟨name, (documented.drop "list[".toList.length).dropLast, .many⟩
  else ⟨name, documented, .one⟩

/-- The relationship that a line shows. -/
def readRelation? (line : Text) : Option Relation :=
  (Text.after? "# @property-read " line).map fun shown =>
    let (documented, name) := cutWord shown
    relationOf name documented

/-- Two spaces end each type of a column, and one of them belongs to what fills its width. -/
theorem columnLine_words (nativeWidth documentedWidth : Nat) (column : Column) :
    columnLine nativeWidth documentedWidth column = "# @property  ".toList ++
      ((column.native ++ List.replicate (nativeWidth - column.native.length + 1) ' ') ++
          ' ' :: column.documented ++
        List.replicate (documentedWidth - column.documented.length + 1) ' ' ++ ' ' :: column.name) := by
  have spaces (count : Nat) (rest : Text) :
      List.replicate (count + 1) ' ' ++ ' ' :: rest = List.replicate count ' ' ++ (' ' :: ' ' :: rest) := by
    rw [List.replicate_succ', List.append_assoc]
    rfl
  unfold columnLine Text.padEnd
  generalize "# @property  ".toList = tag
  simp only [List.append_assoc, List.cons_append, spaces]
  rfl

theorem readColumn?_columnLine {column : Column} (solidName : ' ' ∉ column.name)
    (typed : column.documented ≠ []) (solidType : ' ' ∉ column.documented)
    (solidNative : column.native.getLast? ≠ some ' ') (nativeWidth documentedWidth : Nat) :
    readColumn? (columnLine nativeWidth documentedWidth column) = some column := by
  have lastSolid := getLast?_append_word
    (column.native ++ List.replicate (nativeWidth - column.native.length + 1) ' ' ++ [' ']) typed solidType
  rw [List.append_assoc, List.singleton_append] at lastSolid
  rw [columnLine_words, readColumn?, Text.after?_append, Option.map_some, cutWord_append _ solidName]
  simp only
  rw [dropSpaces_append lastSolid, cutWord_append _ solidType]
  simp only
  rw [dropSpaces_append solidNative]

theorem relationOf_documented {relation : Relation} (noBracket : '[' ∉ relation.related) :
    relationOf relation.name relation.documented = relation := by
  obtain ⟨name, related, multiplicity⟩ := relation
  cases multiplicity with
  | one => exact if_neg noBracket
  | many =>
      have bracketed : '[' ∈ "list[".toList ++ related ++ "]".toList := by simp
      change relationOf name ("list[".toList ++ related ++ "]".toList) = _
      rw [relationOf, if_pos bracketed, List.append_assoc, List.drop_left]
      exact congrArg (Relation.mk name · .many) List.dropLast_concat

theorem readRelation?_relationLine {relation : Relation} (solidName : ' ' ∉ relation.name)
    (noBracket : '[' ∉ relation.related) : readRelation? (relationLine relation) = some relation := by
  have split : relationLine relation = "# @property-read ".toList ++
      (relation.documented ++ ' ' :: relation.name) := by
    unfold relationLine
    generalize "# @property-read ".toList = tag
    simp
  rw [split, readRelation?, Text.after?_append, Option.map_some, cutWord_append _ solidName]
  exact congrArg some (relationOf_documented noBracket)

/-! ## Blocks -/

/-- The documentation that a block shows. -/
def read? (block : Text) : Option Documentation :=
  match Text.splitOnChar '\n' block with
  | first :: second :: rest => do
    let qualname ← Text.after? "# region model-doc: " first
    let table ← Text.after? "# @table " second
    return ⟨qualname, table, rest.filterMap readColumn?, rest.filterMap readRelation?⟩
  | _ => none

/-- The tags of columns and relationships differ in the character behind the property. -/
theorem readColumn?_relationLine (relation : Relation) : readColumn? (relationLine relation) = none :=
  rfl

theorem readRelation?_columnLine (nativeWidth documentedWidth : Nat) (column : Column) :
    readRelation? (columnLine nativeWidth documentedWidth column) = none :=
  rfl

namespace Documentation

variable {documentation : Documentation}

/-- The lines of the block. -/
def lines (documentation : Documentation) : List Text :=
  bodyLines documentation.qualname documentation.table documentation.columns documentation.relations

theorem block?_eq (filled : documentation.columns ≠ []) :
    documentation.block? = some (documentation.lines.flatMap (· ++ ['\n'])) :=
  if_neg (mt List.isEmpty_iff.mp filled)

theorem forall_texts_iff {condition : Text → Prop} :
    (∀ text ∈ documentation.texts, condition text) ↔
      condition documentation.qualname ∧ condition documentation.table ∧
        (∀ column ∈ documentation.columns,
          condition column.name ∧ condition column.native ∧ condition column.documented) ∧
        ∀ relation ∈ documentation.relations, condition relation.name ∧ condition relation.related := by
  unfold texts
  simp only [List.forall_mem_cons, List.forall_mem_append, List.forall_mem_flatMap, List.not_mem_nil,
    false_implies, implies_true, and_true]

theorem feed_not_mem_lines (unbroken : ∀ text ∈ documentation.texts, '\n' ∉ text) :
    ∀ line ∈ documentation.lines, '\n' ∉ line := by
  obtain ⟨qualname, table, columns, relations⟩ := forall_texts_iff.mp unbroken
  have padded {text : Text} (inside : '\n' ∉ text) (width : Nat) : '\n' ∉ Text.padEnd width text :=
    List.not_mem_append inside fun member => absurd (List.eq_of_mem_replicate member) (by decide)
  intro line member
  simp only [lines, bodyLines, List.mem_append, List.mem_cons, List.mem_map, List.not_mem_nil,
    or_false] at member
  rcases member with (((rfl | rfl) | ⟨column, inColumns, rfl⟩) | ⟨relation, inRelations, rfl⟩) | rfl
  · exact List.not_mem_append (by decide) qualname
  · exact List.not_mem_append (by decide) table
  · obtain ⟨name, native, documented⟩ := columns column inColumns
    exact List.not_mem_append (List.not_mem_append (List.not_mem_append (List.not_mem_append
      (List.not_mem_append (by decide) (padded native _)) (by decide)) (padded documented _))
      (by decide)) name
  · obtain ⟨name, related⟩ := relations relation inRelations
    have documented : '\n' ∉ relation.documented := by
      unfold Relation.documented
      cases relation.multiplicity with
      | one => exact related
      | many => exact List.not_mem_append (List.not_mem_append (by decide) related) (by decide)
    exact List.not_mem_append (List.not_mem_append (List.not_mem_append (by decide) documented)
      (by decide)) name
  · decide

section Legible

variable (legible : documentation.IsLegible)
include legible

theorem IsLegible.filterMap_readColumn? (nativeWidth documentedWidth : Nat) (others : List Text) :
    (documentation.columns.map (columnLine nativeWidth documentedWidth) ++
      (documentation.relations.map relationLine ++ others)).filterMap readColumn? =
      documentation.columns ++ others.filterMap readColumn? := by
  have columns : (documentation.columns.map (columnLine nativeWidth documentedWidth)).filterMap
      readColumn? = documentation.columns := by
    apply filterMap_map_of_some
    intro column member
    obtain ⟨solidName, typed, solidType, solidNative⟩ := legible.columns column member
    exact readColumn?_columnLine solidName typed solidType solidNative _ _
  have relations : (documentation.relations.map relationLine).filterMap readColumn? = [] := by
    apply filterMap_map_of_none
    intro relation _
    exact readColumn?_relationLine relation
  rw [List.filterMap_append, List.filterMap_append, columns, relations, List.nil_append]

theorem IsLegible.filterMap_readRelation? (nativeWidth documentedWidth : Nat) (others : List Text) :
    (documentation.columns.map (columnLine nativeWidth documentedWidth) ++
      (documentation.relations.map relationLine ++ others)).filterMap readRelation? =
      documentation.relations ++ others.filterMap readRelation? := by
  have columns : (documentation.columns.map (columnLine nativeWidth documentedWidth)).filterMap
      readRelation? = [] := by
    apply filterMap_map_of_none
    intro column _
    exact readRelation?_columnLine nativeWidth documentedWidth column
  have relations : (documentation.relations.map relationLine).filterMap readRelation? =
      documentation.relations := by
    apply filterMap_map_of_some
    intro relation member
    obtain ⟨solidName, noBracket⟩ := legible.relations relation member
    exact readRelation?_relationLine solidName noBracket
  rw [List.filterMap_append, List.filterMap_append, columns, relations, List.nil_append]

/-- Reading undoes the rendering. -/
theorem IsLegible.read?_block :
    ∃ block, documentation.block? = some block ∧ read? block = some documentation := by
  refine ⟨_, block?_eq legible.filled, ?_⟩
  have split : documentation.lines ++ [[]] =
      ("# region model-doc: ".toList ++ documentation.qualname) ::
        ("# @table ".toList ++ documentation.table) ::
          (documentation.columns.map (columnLine (widest (documentation.columns.map Column.native))
              (widest (documentation.columns.map Column.documented))) ++
            (documentation.relations.map relationLine ++ [endMarker, []])) := by
    unfold lines bodyLines beginMarker
    simp only [List.cons_append, List.nil_append, List.append_assoc]
  rw [read?, Text.splitOnChar_flatMap (feed_not_mem_lines legible.unbroken), split]
  dsimp only
  have noColumn : [endMarker, []].filterMap readColumn? = [] := rfl
  have noRelation : [endMarker, []].filterMap readRelation? = [] := rfl
  rw [Text.after?_append, Text.after?_append, legible.filterMap_readColumn?,
    legible.filterMap_readRelation?, noColumn, noRelation, List.append_nil, List.append_nil]
  rfl

end Legible

end Documentation

/-! ## Files -/

/-- Lines between one margin and one ending are determined by the text that they make up. -/
theorem eq_of_flatten_lines {margin behind : Text} {entries others : List Text} {c : Char}
    (absent : ∀ entry ∈ entries, c ∉ entry) (absentOthers : ∀ other ∈ others, c ∉ other)
    (same : (entries.map fun entry => margin ++ entry ++ c :: behind).flatten =
      (others.map fun other => margin ++ other ++ c :: behind).flatten) : entries = others := by
  induction entries generalizing others with
  | nil =>
      cases others with
      | nil => rfl
      | cons other others => simp at same
  | cons entry entries inductionHypothesis =>
      cases others with
      | nil => simp at same
      | cons other others =>
          rw [List.forall_mem_cons] at absent absentOthers
          have joined (line rest : Text) :
              margin ++ line ++ c :: behind ++ rest = margin ++ (line ++ c :: (behind ++ rest)) := by simp
          rw [List.map_cons, List.map_cons, List.flatten_cons, List.flatten_cons, joined, joined] at same
          obtain ⟨sameEntry, sameRest⟩ :=
            Text.eq_of_append_cons absent.1 absentOthers.1 (List.append_cancel_left same)
          rw [sameEntry, inductionHypothesis absent.2 absentOthers.2 (List.append_cancel_left sameRest)]

/-- Above one line two blocks of unbroken lines give one text only if they are one block. -/
theorem eq_of_linesAbove {line : Text} {entries others : List Text}
    (oneLine : ∀ entry ∈ entries, Text.OneLine entry) (othersOneLine : ∀ other ∈ others, Text.OneLine other)
    (same : (linesAbove line (entries.flatMap (· ++ ['\n']))).flatten =
      (linesAbove line (others.flatMap (· ++ ['\n']))).flatten) : entries = others := by
  unfold linesAbove at same
  rw [Text.displayLines_flatMap oneLine, Text.displayLines_flatMap othersOneLine] at same
  have feed {lines : List Text} (whole : ∀ line ∈ lines, Text.OneLine line) : ∀ line ∈ lines, '\n' ∉ line :=
    fun line member => (whole line member).not_mem (by decide)
  have turn {lines : List Text} (whole : ∀ line ∈ lines, Text.OneLine line) : ∀ line ∈ lines, '\r' ∉ line :=
    fun line member => (whole line member).not_mem (by decide)
  unfold endingLike at same
  split at same
  · exact eq_of_flatten_lines (turn oneLine) (turn othersOneLine) same
  · exact eq_of_flatten_lines (feed oneLine) (feed othersOneLine) same

namespace Documentation

theorem oneLine_lines {documentation : Documentation}
    (oneLine : ∀ text ∈ documentation.texts, Text.OneLine text) :
    ∀ line ∈ documentation.lines, Text.OneLine line := by
  obtain ⟨qualname, table, columns, relations⟩ := forall_texts_iff.mp oneLine
  exact oneLine_bodyLines qualname table columns relations

/-- Two blocks put into one text at one place give one text only if they have the same lines. -/
theorem lines_eq_of_insertWith {locate : Text → Text → Except PlacementFault Nat}
    {first second : Documentation} {content qualname written : Text}
    (firstOneLine : ∀ text ∈ first.texts, Text.OneLine text)
    (secondOneLine : ∀ text ∈ second.texts, Text.OneLine text)
    (isWritten : insertWith locate content qualname (first.lines.flatMap (· ++ ['\n'])) = .ok written)
    (isRewritten : insertWith locate content qualname (second.lines.flatMap (· ++ ['\n'])) = .ok written) :
    first.lines = second.lines := by
  obtain ⟨above, statement, below, starts, rfl⟩ := insertWith_eq_ok_iff.mp isWritten
  obtain ⟨above', statement', below', starts', same⟩ := insertWith_eq_ok_iff.mp isRewritten
  obtain ⟨rfl, rfl, rfl⟩ := starts.unique starts'
  rw [List.flatten_append, List.flatten_append, List.flatten_append, List.flatten_append] at same
  exact eq_of_linesAbove (oneLine_lines firstOneLine) (oneLine_lines secondOneLine)
    (List.append_cancel_right (List.append_cancel_left same))

/-- Legible documentation can be told from its block. Where no text holds an end of a line it can also be
told from the file whose block is replaced, so that a file changes with what its block documents. -/
theorem block_determines {first second : Documentation} (firstLegible : first.IsLegible)
    (secondLegible : second.IsLegible) :
    (first.block? = second.block? ↔ first = second) ∧
      ((∀ text ∈ first.texts ++ second.texts, Text.OneLine text) → first.qualname = second.qualname →
        ∀ locate content block other written, first.block? = some block → second.block? = some other →
          replaceWith locate content first.qualname block = .ok written →
          (replaceWith locate content second.qualname other = .ok written ↔ first = second)) := by
  have determined : first.block? = second.block? → first = second := by
    intro same
    obtain ⟨block, isBlock, isRead⟩ := firstLegible.read?_block
    obtain ⟨other, isOther, otherRead⟩ := secondLegible.read?_block
    rw [isBlock, isOther] at same
    rw [Option.some.inj same, otherRead] at isRead
    exact (Option.some.inj isRead).symm
  refine ⟨⟨determined, fun same => congrArg block? same⟩, ?_⟩
  intro oneLine sameName locate content block other written isBlock isOther isWritten
  rw [List.forall_mem_append] at oneLine
  constructor
  · intro isRewritten
    rw [block?_eq firstLegible.filled] at isBlock
    rw [block?_eq secondLegible.filled] at isOther
    rw [← Option.some.inj isBlock, sameName] at isWritten
    rw [← Option.some.inj isOther] at isRewritten
    have sameLines := lines_eq_of_insertWith oneLine.1 oneLine.2 isWritten isRewritten
    apply determined
    rw [block?_eq firstLegible.filled, block?_eq secondLegible.filled, sameLines]
  · intro same
    subst same
    rw [← Option.some.inj (isBlock.symm.trans isOther)]
    exact isWritten

/-- Columns with a native type of two words and without any, and a relationship to many objects. -/
def visits : Documentation where
  qualname := "Visit"
  table := "visits"
  columns := [.ofNative "id" "bigint unsigned", ⟨"place", "", "Any"⟩]
  relations := [⟨"guests", "Guest", .many⟩]

/-- The same but for the number of guests. -/
def lonelyVisits : Documentation :=
  { visits with relations := [⟨"guests", "Guest", .one⟩] }

def visitSource : Text := "class Visit:\n    pass\n"

theorem block_determines_visits : visits.IsLegible ∧ lonelyVisits.IsLegible ∧
    (∀ text ∈ visits.texts ++ lonelyVisits.texts, Text.OneLine text) ∧
    visits.block? ≠ lonelyVisits.block? ∧
    ∃ block other written, visits.block? = some block ∧ lonelyVisits.block? = some other ∧
      replaceWith (fun _ _ => .ok 1) visitSource visits.qualname block = .ok written ∧
      replaceWith (fun _ _ => .ok 1) visitSource lonelyVisits.qualname other ≠ .ok written := by
  have isLegible : visits.IsLegible := ⟨by decide, by decide, by decide, by decide⟩
  have isLonelyLegible : lonelyVisits.IsLegible := ⟨by decide, by decide, by decide, by decide⟩
  have oneLine : ∀ text ∈ visits.texts ++ lonelyVisits.texts, Text.OneLine text := by decide
  have differ : visits ≠ lonelyVisits := by decide
  have unmarked : strip visits.qualname visitSource = visitSource := by decide +kernel
  have isWritten : ∃ written, replaceWith (fun _ _ => .ok 1) visitSource visits.qualname
      (visits.lines.flatMap (· ++ ['\n'])) = .ok written := by
    rw [replaceWith, unmarked]
    exact ⟨_, rfl⟩
  obtain ⟨fromBlock, fromFile⟩ := block_determines isLegible isLonelyLegible
  obtain ⟨written, isWritten⟩ := isWritten
  have isBlock := block?_eq isLegible.filled
  have isOther := block?_eq isLonelyLegible.filled
  exact ⟨isLegible, isLonelyLegible, oneLine, mt fromBlock.mp differ, _, _, written, isBlock, isOther,
    isWritten, mt (fromFile oneLine rfl _ _ _ _ _ isBlock isOther isWritten).mp differ⟩

end Documentation

end SchemaDoc.Block
