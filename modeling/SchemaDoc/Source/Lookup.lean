import SchemaDoc.Source.Statement

/-!
Contract: the class statements of a source file.

Owns:
- the reading of a whole file, with the two ways in which it fails;
- the search for a class: down the dotted path of its name through the bodies of classes, and
  otherwise breadth first by the last part of the name;
- the line on which a class's definition starts.

The search by path takes at each level the first class of that name. The breadth-first order is
that of the tree: a handler or a case is a node of its own between its statement and its body.
-/

namespace SchemaDoc.Source

/-- Why a source file has no syntax tree. -/
inductive SourceFault where
  | nullCharacter
  | unparsable
deriving DecidableEq, Repr

/-- A source file that was read: its statements, and the lines of its tokens. -/
structure SourceFile where
  statements : List Stmt
  lines : List Nat

/-- The line of the token at a place. -/
def SourceFile.lineOf (file : SourceFile) (place : Nat) : Nat :=
  file.lines.getD place 0

/-- Reads a source file. -/
def SourceFile.read (nameOf : Text → Option Nat) (source : Text) :
    Except SourceFault SourceFile :=
  if source.contains (Char.ofNat 0) then .error .nullCharacter
  else
    match tokens source with
    | none => .error .unparsable
    | some found =>
      match statements? nameOf (found.map PlacedToken.token) with
      | none => .error .unparsable
      | some statements => .ok ⟨statements, found.map PlacedToken.line⟩

/-- A class statement: its head and its body. -/
structure ClassStatement where
  head : ClassHead
  body : List Stmt

namespace ClassStatement

/-- The first class statement of a name among statements. -/
def first? (name : Text) : List Stmt → Option ClassStatement
  | [] => none
  | .classDef head body :: rest => if head.name = name then some ⟨head, body⟩ else first? name rest
  | _ :: rest => first? name rest

/-- The class at the end of a path of names, each in the body of the one before. -/
def atPath? : List Text → List Stmt → Option ClassStatement
  | [], _ => none
  | [name], body => first? name body
  | name :: path, body =>
    match first? name body with
    | some found => atPath? path found.body
    | none => none

end ClassStatement

/-- A node of the tree that can hold class statements. -/
inductive Node where
  | statement (statement : Stmt)
  | branch (body : List Stmt)

namespace Node

/-- The nodes directly below one branch of a statement. -/
def ofBranch : Branch → List Node
  | .mk opening body => if opening.isNode then [.branch body] else body.map .statement

/-- The nodes directly below a node, in order. -/
def children : Node → List Node
  | .statement (.simple _) => []
  | .statement (.classDef _ body) => body.map .statement
  | .statement (.function _ body) => body.map .statement
  | .statement (.compound _ branches) => branches.flatMap ofBranch
  | .branch body => body.map .statement

/-- The class statement that a node is, if it is one of that name. -/
def named? (name : Text) : Node → Option ClassStatement
  | .statement (.classDef head body) => if head.name = name then some ⟨head, body⟩ else none
  | _ => none

end Node

mutual

/-- The number of levels below a statement, itself included. -/
def Stmt.height : Stmt → Nat
  | .simple _ => 1
  | .classDef _ body => statementsHeight body + 1
  | .function _ body => statementsHeight body + 1
  | .compound _ branches => branchesHeight branches + 1

/-- The greatest height among statements. -/
def statementsHeight : List Stmt → Nat
  | [] => 0
  | statement :: rest => max statement.height (statementsHeight rest)

/-- The height of a branch, counted as a node of its own. -/
def Branch.height : Branch → Nat
  | .mk _ body => statementsHeight body + 1

/-- The greatest height among branches. -/
def branchesHeight : List Branch → Nat
  | [] => 0
  | branch :: rest => max branch.height (branchesHeight rest)

end

/-- The first class statement of a name, level by level; `levels` bounds their number. -/
def findByLevel (name : Text) : (levels : Nat) → List Node → Option ClassStatement
  | 0, _ => none
  | levels + 1, nodes =>
    match nodes.findSome? (·.named? name) with
    | some found => some found
    | none => findByLevel name levels (nodes.flatMap Node.children)

/-- The part of a dotted name behind its last point. -/
def shortName (qualname : Text) : Text :=
  (Text.splitOnChar '.' qualname).getLast?.getD []

namespace SourceFile

/-- The class statement that a dotted name stands for. -/
def find? (file : SourceFile) (qualname : Text) : Option ClassStatement :=
  match ClassStatement.atPath? (Text.splitOnChar '.' qualname) file.statements with
  | some found => some found
  | none =>
    findByLevel (shortName qualname) (statementsHeight file.statements)
      (file.statements.map .statement)

/-- The line on which the definition of a class starts: that of its first word, or of an earlier
decorator. -/
def firstLine (file : SourceFile) (found : ClassStatement) : Nat :=
  (found.head.decorators.map (file.lineOf ·.place)).foldl min (file.lineOf found.head.place)

end SourceFile

end SchemaDoc.Source
