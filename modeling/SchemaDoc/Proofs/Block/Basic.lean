import SchemaDoc.Block.Insert
import SchemaDoc.Proofs.Block.Strip

/-!
Contract: the lines of a rendered block, and how they stand above a line of a text.

Owns:
- that a block of texts without line ends is cut back into the lines it was rendered from;
- that these lines are a block of the class for the removal, whatever indents and ends them.
-/

namespace SchemaDoc.Block

/-- The block is rendered for the class from texts without line ends. -/
def IsPlain (qualname block : Text) : Prop :=
  ∃ table columns relations, render? qualname table columns relations = some block ∧
    Text.OneLine table ∧
    (∀ column ∈ columns, Text.OneLine column.name ∧ Text.OneLine column.native ∧
      Text.OneLine column.documented) ∧
    ∀ relation ∈ relations, Text.OneLine relation.name ∧ Text.OneLine relation.related

namespace Sample

def className : Text := "User"

/-- A source file with one class and no block. -/
def source : Text := "class User:\n    pass\n"

def block : Text :=
  "# region model-doc: User\n# @table users\n".toList ++
    "# @property  INTEGER  int  id\n# endregion model-doc\n".toList

def columns : List Column := [Column.ofNative "id" "INTEGER"]

theorem render_block : render? className "users" columns [] = some block := by
  decide

theorem isPlain_block : IsPlain className block :=
  ⟨"users", columns, [], render_block, by decide, by decide, by decide⟩

end Sample

/-! ## The lines of a block -/

theorem render?_eq_some {qualname table block : Text} {columns : List Column}
    {relations : List Relation}
    (rendered : render? qualname table columns relations = some block) :
    block = (bodyLines qualname table columns relations).flatMap (· ++ ['\n']) := by
  unfold render? at rendered
  split at rendered
  · exact absurd rendered (by simp)
  · exact (Option.some.inj rendered).symm

/-- Between its markers a block has lines that start with a tag. -/
theorem bodyLines_eq (qualname table : Text) (columns : List Column)
    (relations : List Relation) :
    ∃ tagged, bodyLines qualname table columns relations =
        beginMarker qualname :: (tagged ++ [endMarker]) ∧
      ∀ entry ∈ tagged, ∃ rest, entry = '#' :: ' ' :: '@' :: rest := by
  let nativeWidth := widest (columns.map Column.native)
  let documentedWidth := widest (columns.map Column.documented)
  refine ⟨("# @table " ++ table) :: (columns.map (columnLine nativeWidth documentedWidth) ++
    relations.map relationLine), by simp [bodyLines, nativeWidth, documentedWidth], ?_⟩
  intro entry member
  rcases List.mem_cons.mp member with rfl | member
  · exact ⟨_, rfl⟩
  · rcases List.mem_append.mp member with inColumns | inRelations
    · obtain ⟨column, -, rfl⟩ := List.mem_map.mp inColumns
      exact ⟨_, rfl⟩
    · obtain ⟨relation, -, rfl⟩ := List.mem_map.mp inRelations
      exact ⟨_, rfl⟩

theorem starts_of_split {qualname : Text} {tagged lines : List Text}
    (split : lines = beginMarker qualname :: (tagged ++ [endMarker]))
    (areTagged : ∀ entry ∈ tagged, ∃ rest, entry = '#' :: ' ' :: '@' :: rest) :
    ∀ entry ∈ lines, ∃ rest, entry = '#' :: rest := by
  intro entry member
  rw [split] at member
  rcases List.mem_cons.mp member with rfl | inRest
  · exact ⟨_, rfl⟩
  · rcases List.mem_append.mp inRest with inTagged | isEnd
    · obtain ⟨rest, rfl⟩ := areTagged entry inTagged
      exact ⟨_, rfl⟩
    · exact ⟨_, List.mem_singleton.mp isEnd⟩

theorem oneLine_relationDocumented {relation : Relation}
    (oneLine : Text.OneLine relation.related) : Text.OneLine relation.documented := by
  unfold Relation.documented
  cases relation.multiplicity with
  | one => exact oneLine
  | many => exact (Text.OneLine.append (by decide) oneLine).append (by decide)

theorem oneLine_bodyLines {qualname table : Text} {columns : List Column}
    {relations : List Relation} (qualname_oneLine : Text.OneLine qualname)
    (table_oneLine : Text.OneLine table)
    (columns_oneLine : ∀ column ∈ columns, Text.OneLine column.name ∧
      Text.OneLine column.native ∧ Text.OneLine column.documented)
    (relations_oneLine : ∀ relation ∈ relations, Text.OneLine relation.name ∧
      Text.OneLine relation.related) :
    ∀ entry ∈ bodyLines qualname table columns relations, Text.OneLine entry := by
  intro entry member
  simp only [bodyLines, List.mem_append, List.mem_cons, List.mem_map, List.not_mem_nil,
    or_false] at member
  rcases member with (((rfl | rfl) | ⟨column, inColumns, rfl⟩) | ⟨relation, inRelations, rfl⟩) | rfl
  · exact Text.OneLine.append (by decide) qualname_oneLine
  · exact Text.OneLine.append (by decide) table_oneLine
  · obtain ⟨name, native, documented⟩ := columns_oneLine column inColumns
    exact ((((Text.OneLine.append (by decide) (native.padEnd _)).append (by decide)).append
      (documented.padEnd _)).append (by decide)).append name
  · obtain ⟨name, related⟩ := relations_oneLine relation inRelations
    exact ((Text.OneLine.append (by decide) (oneLine_relationDocumented related)).append
      (by decide)).append name
  · decide

/-- The display lines of a plain block: markers, and tagged lines between them. -/
theorem IsPlain.displayLines_eq {qualname block : Text} (plain : IsPlain qualname block)
    (qualname_oneLine : Text.OneLine qualname) :
    ∃ tagged, Text.displayLines block = beginMarker qualname :: (tagged ++ [endMarker]) ∧
      (∀ entry ∈ tagged, ∃ rest, entry = '#' :: ' ' :: '@' :: rest) ∧
      ∀ entry ∈ Text.displayLines block, Text.OneLine entry := by
  obtain ⟨table, columns, relations, rendered, table_oneLine, columns_oneLine,
    relations_oneLine⟩ := plain
  have oneLine := oneLine_bodyLines qualname_oneLine table_oneLine columns_oneLine relations_oneLine
  obtain ⟨tagged, split, areTagged⟩ := bodyLines_eq qualname table columns relations
  rw [render?_eq_some rendered, Text.displayLines_flatMap oneLine]
  exact ⟨tagged, split, areTagged, oneLine⟩

/-! ## A block above a line -/

theorem isPhysicalEnd_endingLike (line : Text) : Text.IsPhysicalEnd (endingLike line) := by
  unfold endingLike
  split
  · exact .inr rfl
  · exact .inl rfl

theorem blank_endingLike (line : Text) : Text.Blank (endingLike line) := by
  rcases isPhysicalEnd_endingLike line with isFeed | isPair
  · rw [isFeed]
    decide
  · rw [isPair]
    decide

section Indented

variable {margin ending : Text} (blankMargin : Text.Blank margin)
include blankMargin

/-- White space around a text that starts and ends with other characters is trimmed. -/
theorem trim_indented (blankEnding : Text.Blank ending) {first last : Char} {rest front : Text}
    (firstSolid : Text.isBlank first = false) (lastSolid : Text.isBlank last = false)
    (finish : first :: rest = front ++ [last]) :
    Text.trim (margin ++ first :: rest ++ ending) = first :: rest := by
  rw [Text.trim, List.append_assoc, Text.trimStart_blank_append blankMargin, List.cons_append,
    Text.trimStart_solid firstSolid, ← List.cons_append, Text.trimEnd_append_blank blankEnding,
    finish, Text.trimEnd_solid lastSolid]

theorem isBegin_indented (blankEnding : Text.Blank ending) {qualname : Text}
    (unspaced : Text.Unspaced qualname) :
    isBegin qualname (margin ++ beginMarker qualname ++ ending) = true := by
  obtain ⟨nonempty, solid⟩ := unspaced
  have finish : beginMarker qualname =
      ("# region model-doc: ".toList ++ qualname.dropLast) ++ [qualname.getLast nonempty] := by
    rw [List.append_assoc, List.dropLast_concat_getLast nonempty]
    rfl
  have trimmed : Text.trim (margin ++ beginMarker qualname ++ ending) = beginMarker qualname :=
    trim_indented blankMargin blankEnding (by decide) (solid _ (List.getLast_mem nonempty)) finish
  rw [isBegin, trimmed]
  exact beq_self_eq_true _

theorem isEnd_indented (blankEnding : Text.Blank ending) :
    isEnd (margin ++ endMarker ++ ending) = true := by
  have finish : endMarker = "# endregion model-do".toList ++ ['c'] := rfl
  have trimmed : Text.trim (margin ++ endMarker ++ ending) = endMarker :=
    trim_indented blankMargin blankEnding (by decide) (by decide) finish
  rw [isEnd, trimmed]
  exact beq_self_eq_true _

theorem isComment_indented (rest : Text) :
    isComment (margin ++ '#' :: rest ++ ending) = true := by
  rw [isComment, List.append_assoc, Text.trimStart_blank_append blankMargin, List.cons_append,
    Text.trimStart_solid (by decide)]
  rfl

theorem trim_tagged (rest : Text) :
    Text.trim (margin ++ '#' :: ' ' :: '@' :: rest ++ ending) =
      ['#', ' '] ++ '@' :: Text.trimEnd (rest ++ ending) := by
  rw [Text.trim, List.append_assoc, Text.trimStart_blank_append blankMargin, List.cons_append,
    Text.trimStart_solid (by decide)]
  exact Text.trimEnd_solid_append (by decide) ['#', ' '] (rest ++ ending)

theorem isEnd_tagged (rest : Text) :
    isEnd (margin ++ '#' :: ' ' :: '@' :: rest ++ ending) = false := by
  rw [isEnd, trim_tagged blankMargin, beq_eq_false_iff_ne]
  intro same
  have third : some '@' = some 'e' := congrArg (fun text : Text => text[2]?) same
  exact absurd third (by decide)

theorem beginsBlock_tagged (rest : Text) :
    beginsBlock (margin ++ '#' :: ' ' :: '@' :: rest ++ ending) = false := by
  rw [beginsBlock, trim_tagged blankMargin]
  rfl

end Indented

/-- A plain block above a line is a complete block of its class. -/
theorem IsPlain.isComplete_linesAbove {qualname block : Text} (plain : IsPlain qualname block)
    (unspaced : Text.Unspaced qualname) (line : Text) :
    IsComplete qualname (linesAbove line block) := by
  obtain ⟨tagged, split, areTagged, -⟩ := plain.displayLines_eq (.of_unspaced unspaced)
  have blankMargin := Text.blank_margin line
  have blankEnding := blank_endingLike line
  refine ⟨_, tagged.map fun entry => Text.margin line ++ entry ++ endingLike line, _,
    by rw [linesAbove, split, List.map_cons, List.map_append]; rfl,
    isBegin_indented blankMargin blankEnding unspaced, ?_, isEnd_indented blankMargin blankEnding⟩
  intro entry member
  obtain ⟨source, inTagged, rfl⟩ := List.mem_map.mp member
  obtain ⟨rest, rfl⟩ := areTagged source inTagged
  exact ⟨isComment_indented blankMargin _, isEnd_tagged blankMargin rest,
    beginsBlock_tagged blankMargin rest⟩

/-- A plain block above a line is a block for the removal. -/
theorem IsPlain.isBlock_linesAbove {qualname block : Text} (plain : IsPlain qualname block)
    (unspaced : Text.Unspaced qualname) (line : Text) :
    IsBlock qualname (linesAbove line block) :=
  (plain.isComplete_linesAbove unspaced line).isBlock

theorem isWhole_append_endingLike {body : Text} (absent : '\n' ∉ body) (line : Text) :
    Text.IsWhole (body ++ endingLike line) := by
  rcases isPhysicalEnd_endingLike line with isFeed | isPair
  · exact ⟨body, absent, by rw [isFeed]⟩
  · refine ⟨body ++ ['\r'], ?_, by simp [isPair]⟩
    intro member
    rcases List.mem_append.mp member with inBody | inReturn
    · exact absent inBody
    · exact absurd inReturn (by decide)

/-- A plain block above a line whose margin ends no line consists of whole lines. -/
theorem IsPlain.isWhole_linesAbove {qualname block line : Text} (plain : IsPlain qualname block)
    (unspaced : Text.Unspaced qualname) (noFeed : '\n' ∉ Text.margin line) :
    ∀ above ∈ linesAbove line block, Text.IsWhole above := by
  obtain ⟨-, -, -, oneLine⟩ := plain.displayLines_eq (.of_unspaced unspaced)
  intro above member
  obtain ⟨entry, inBlock, rfl⟩ := List.mem_map.mp member
  refine isWhole_append_endingLike (fun member => ?_) line
  rcases List.mem_append.mp member with inMargin | inEntry
  · exact noFeed inMargin
  · exact (oneLine entry inBlock).not_mem (by decide) inEntry

end SchemaDoc.Block
