import SchemaDoc.Text.Case
import SchemaDoc.Text.Basic

/-!
Contract: which documented type a native column type belongs to.

The families are tried in order, and a native type belongs to the first family of which a word
stands anywhere in its lowercase text; so `bigint` is a whole number and never reaches the later
families, and `tinyint(1)` stays one.
-/

namespace SchemaDoc

inductive TypeFamily where
  | whole
  | truth
  | real
  | text
  | moment
  | other
deriving DecidableEq, Repr

namespace TypeFamily

/-- The families with words, in the order in which they are tried. -/
def ordered : List TypeFamily := [.whole, .truth, .real, .text, .moment]

/-- The place of a family in the order; types of no family come last. -/
def rank : TypeFamily → Nat
  | .whole => 0
  | .truth => 1
  | .real => 2
  | .text => 3
  | .moment => 4
  | .other => 5

/-- The words that place a native type in the family. -/
def words : TypeFamily → List Text
  | .whole => ["int".toList]
  | .truth => ["bool".toList]
  | .real => ["decimal".toList, "double".toList, "float".toList, "real".toList]
  | .text => ["char".toList, "text".toList, "enum".toList, "set".toList]
  | .moment => ["date".toList, "time".toList, "year".toList, "timestamp".toList]
  | .other => []

/-- The type shown in a block. -/
def label : TypeFamily → Text
  | .whole => "int".toList
  | .truth => "bool".toList
  | .real => "float".toList
  | .text => "str".toList
  | .moment => "datetime".toList
  | .other => "Any".toList

/-- A word of the family stands in the text. -/
def matchesLowered (family : TypeFamily) (lowered : Text) : Bool :=
  family.words.any fun word => Text.isInfix word lowered

/-- The family of a text that is already lowercase. -/
def ofLowered (lowered : Text) : TypeFamily :=
  (ordered.find? (·.matchesLowered lowered)).getD .other

/-- The family of a native type. -/
def ofNative (native : Text) : TypeFamily :=
  ofLowered (Text.lower native)

end TypeFamily

/-- The documented type of a native type. -/
def documentedType (native : Text) : Text :=
  (TypeFamily.ofNative native).label

/-- Documented types that need no import where they are used. -/
def builtinTypes : List Text :=
  ["int".toList, "str".toList, "bool".toList, "float".toList, "Any".toList]

/-- The documented type needs no import. -/
def isBuiltinType (documented : Text) : Bool :=
  builtinTypes.contains documented

end SchemaDoc
