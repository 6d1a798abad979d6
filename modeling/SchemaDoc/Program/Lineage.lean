import SchemaDoc.Program.World

/-!
Contract: the classes that a class derives from, in the order in which attributes are looked up.

The order keeps the order of each base's own lineage and the order of the bases; a class comes
before all that it derives from. Where no such order exists, the class cannot be made.
-/

namespace SchemaDoc.Program

/-- A class that heads one of the lists and stands behind the head of none. -/
def nextAncestor? (lists : List (List Nat)) : Option Nat :=
  lists.findSome? fun
    | [] => none
    | head :: _ => if lists.all fun other => !other.tail.contains head then some head else none

/-- The lists without a class at their head. -/
def dropHead (number : Nat) (lists : List (List Nat)) : List (List Nat) :=
  (lists.map fun list => if list.head? = some number then list.tail else list).filter
    fun list => !list.isEmpty

/-- One list that keeps the order of all; each round takes one class away. -/
def mergeLineages : Nat → List (List Nat) → Option (List Nat)
  | _, [] => some []
  | 0, _ => none
  | rounds + 1, lists => do
    let head ← nextAncestor? lists
    return head :: (← mergeLineages rounds (dropHead head lists))

/-- The lineage of a new class with these bases. -/
def lineageOf? (world : World) (number : Nat) (bases : List Nat) : Option (List Nat) := do
  let lineages := bases.filterMap fun base => (world.class? base).map ClassObject.lineage
  let lists := (lineages ++ [bases]).filter fun list => !list.isEmpty
  return number :: (← mergeLineages lists.flatten.length lists)

end SchemaDoc.Program
