import SchemaDoc.Fault
import SchemaDoc.Text.Basic
import SchemaDoc.TypeFamily

/-!
Contract: the columns and relationships of a block, and the orders of its columns.

Each order compares a list of texts behind one flag, and ends with the column's name; columns
with distinct names are therefore never equal under an order.
-/

namespace SchemaDoc

/-- One table column as a block shows it. -/
structure Column where
  name : Text
  native : Text
  documented : Text
deriving DecidableEq, Repr

/-- The column of a native type, documented by its family. -/
def Column.ofNative (name native : Text) : Column :=
  ⟨name, native, documentedType native⟩

/-- How many objects a relationship leads to. -/
inductive Multiplicity where
  | one
  | many
deriving DecidableEq, Repr

namespace Multiplicity

def label : Multiplicity → Text
  | .one => "one".toList
  | .many => "many".toList

def ofLabel? (label : Text) : Option Multiplicity :=
  if label = "one".toList then some .one
  else if label = "many".toList then some .many
  else none

end Multiplicity

/-- A relationship that a model class declares. -/
structure Relation where
  name : Text
  related : Text
  multiplicity : Multiplicity
deriving DecidableEq, Repr

/-- The type that a block shows for a relationship. -/
def Relation.documented (relation : Relation) : Text :=
  match relation.multiplicity with
  | .one => relation.related
  | .many => "list[" ++ relation.related ++ "]"

/-- The order of the columns of a block. -/
inductive SortOrder where
  | byType
  | byName
  | byDatabase
deriving DecidableEq, Repr

namespace SortOrder

def all : List SortOrder := [.byType, .byName, .byDatabase]

def label : SortOrder → Text
  | .byType => "type".toList
  | .byName => "name".toList
  | .byDatabase => "db".toList

/-- The order of exactly this label. -/
def ofLabel? (label : Text) : Option SortOrder :=
  all.find? (·.label = label)

/-- The order that a value on the command line names, white space and letter case ignored. -/
def parse (value : Text) : Except Fault SortOrder :=
  match ofLabel? (Text.lower (Text.trim value)) with
  | some order => .ok order
  | none =>
    .error (.input "--sort" ("allowed values are " ++ Text.join ", " (all.map label)) (.str value))

/-- The sort key: the flag comes first, then the texts. -/
def key (order : SortOrder) (column : Column) : Bool × List Text :=
  let foreign := !isBuiltinType column.documented
  match order with
  | .byType => (foreign, [column.documented, column.name])
  | .byName => (false, [column.name])
  | .byDatabase => (foreign, [column.documented, column.native, column.name])

/-- The order puts `a` not after `b`. -/
def notAfter (order : SortOrder) (a b : Column) : Bool :=
  let left := order.key a
  let right := order.key b
  if left.1 = right.1 then Text.listNotAfter left.2 right.2 else !left.1

/-- The columns in order; columns with equal keys keep their places. -/
def sort (order : SortOrder) (columns : List Column) : List Column :=
  columns.mergeSort order.notAfter

end SortOrder

end SchemaDoc
