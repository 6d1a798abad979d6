import SchemaDoc.Column

/-!
Contract: the comment block of one model class.

A block names the class in its first line, then the table, then one line per column with the
types padded to the widest of the batch, then one line per relationship, and closes with a line
that is the same for every class.
-/

namespace SchemaDoc.Block

/-- The line that opens the block of a class. -/
def beginMarker (qualname : Text) : Text :=
  "# region model-doc: " ++ qualname

/-- The line that closes every block. -/
def endMarker : Text := "# endregion model-doc".toList

/-- The length of the longest text. -/
def widest (texts : List Text) : Nat :=
  (texts.map List.length).foldl max 0

/-- The line of one column. -/
def columnLine (nativeWidth documentedWidth : Nat) (column : Column) : Text :=
  "# @property  " ++ Text.padEnd nativeWidth column.native ++ "  " ++
    Text.padEnd documentedWidth column.documented ++ "  " ++ column.name

/-- The line of one relationship. -/
def relationLine (relation : Relation) : Text :=
  "# @property-read " ++ relation.documented ++ " " ++ relation.name

/-- The lines of a block, without their endings. -/
def bodyLines (qualname table : Text) (columns : List Column) (relations : List Relation) :
    List Text :=
  let nativeWidth := widest (columns.map Column.native)
  let documentedWidth := widest (columns.map Column.documented)
  [beginMarker qualname, "# @table " ++ table] ++
    columns.map (columnLine nativeWidth documentedWidth) ++
    relations.map relationLine ++ [endMarker]

/-- The text of a block, each line ended by a line feed; a class without columns has none. -/
def render? (qualname table : Text) (columns : List Column) (relations : List Relation) :
    Option Text :=
  if columns.isEmpty then none
  else some ((bodyLines qualname table columns relations).flatMap (· ++ ['\n']))

end SchemaDoc.Block
