import SchemaDoc.Column

/-!
Contract: the relationships among the members of a class.

Owns:
- which members are looked at, and whether a member is called or read;
- that the members are looked at one after the other, each for itself: one that fails is passed
  over.

How a member is called or read is left open; the looks may have effects.
-/

namespace SchemaDoc

/-- How a parameter takes its value. -/
inductive ParameterKind where
  | positional
  | positionalOnly
  | variadic
  | keywordOnly
  | keywordVariadic
deriving DecidableEq, Repr

/-- The kinds of a function's parameters in order; unknown when the signature cannot be read. -/
abbrev Signature := Option (List ParameterKind)

/-- The function takes the instance and nothing else. -/
def Signature.takesInstanceOnly : Signature → Bool
  | some [.positional] => true
  | some [.positionalOnly] => true
  | _ => false

namespace Detection

/-- What kind of member a class has under a name. -/
inductive Form where
  /-- A method that is not bound to instances. -/
  | unbound
  | function (isAbstract : Bool) (signature : Signature)
  /-- Anything else, which may be marked as abstract as well. -/
  | value (isAbstract : Bool)
deriving DecidableEq, Repr

/-- How a member is looked at. -/
inductive Access where
  | call
  | read
deriving DecidableEq, Repr

/-- How the members of a kind are looked at, if they are. -/
def Form.access? : Form → Option Access
  | .unbound => none
  | .function isAbstract signature =>
    if !isAbstract && signature.takesInstanceOnly then some .call else none
  | .value isAbstract => if isAbstract then none else some .read

/-- What the look at a member shows. -/
inductive Outcome where
  | relation (related : Text) (multiplicity : Multiplicity)
  | nothing
  /-- The look raises an exception. One that is meant to end the whole program, such as an interrupt, is
  none of these outcomes. -/
  | failed
deriving DecidableEq, Repr

/-- The relationships found, and the names of the members that failed. -/
structure Findings where
  relations : List Relation
  failed : List Text
deriving DecidableEq, Repr

namespace Findings

def none : Findings := ⟨[], []⟩

def append (first second : Findings) : Findings :=
  ⟨first.relations ++ second.relations, first.failed ++ second.failed⟩

/-- What the outcome of one member adds. -/
def ofOutcome (name : Text) : Outcome → Findings
  | .relation related multiplicity => ⟨[⟨name, related, multiplicity⟩], []⟩
  | .nothing => none
  | .failed => ⟨[], [name]⟩

end Findings

/-- Names that belong to the framework behind the classes. -/
def frameworkNames : List Text :=
  ["metadata".toList, "registry".toList, "query".toList, "query_class".toList,
    "awaitable_attrs".toList]

/-- Members of this name are passed over: names of the framework, excluded and private ones. -/
def isPassedOver (excluded : List Text) (name : Text) : Bool :=
  frameworkNames.contains name || excluded.contains name || name.head? = some '_'

/-- How a member is looked at, if it is. -/
def access? (excluded : List Text) (member : Text × Form) : Option Access :=
  if isPassedOver excluded member.1 then none else member.2.access?

/-- The findings about one member. -/
def detectMember [Monad m] (look : Access → Text → m Outcome) (excluded : List Text)
    (member : Text × Form) : m Findings :=
  match access? excluded member with
  | some access => do return Findings.ofOutcome member.1 (← look access member.1)
  | none => return Findings.none

/-- The findings about the members of a class, in order. -/
def detect [Monad m] (look : Access → Text → m Outcome) (excluded : List Text) :
    List (Text × Form) → m Findings
  | [] => return Findings.none
  | member :: rest => do
    let first ← detectMember look excluded member
    let others ← detect look excluded rest
    return first.append others

end Detection

end SchemaDoc
