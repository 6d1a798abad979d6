import SchemaDoc.Yaml.Node
import SchemaDoc.Yaml.Tag

/-!
Contract: the value that a YAML 1.1 document writes.

Values are made level by level: a collection before what it holds. When several nodes have no
value, the fault is that of the first one on the outermost level. Entries under a merge key come
before the mapping's own ones, and of entries with equal keys the last gives the value. A collection in
which its own value is asked for once more gives a mark that stands for it.
-/

namespace SchemaDoc.Yaml

/-- What a tag makes of a node. -/
inductive Kind where
  | scalar (tag : ScalarTag)
  | bytes
  | sequence
  | mapping
  | members
  | pairs
  | unknown
deriving DecidableEq, Repr

namespace Kind

/-- The name of a tag of the standard, behind what they all start with. -/
def ofName (name : Text) : Kind :=
  match String.ofList name with
  | "null" => .scalar .null
  | "bool" => .scalar .bool
  | "int" => .scalar .int
  | "float" => .scalar .float
  | "timestamp" => .scalar .timestamp
  | "str" => .scalar .str
  | "merge" => .scalar .merge
  | "value" => .scalar .value
  | "binary" => .bytes
  | "seq" => .sequence
  | "map" => .mapping
  | "set" => .members
  | "omap" => .pairs
  | "pairs" => .pairs
  | _ => .unknown

def ofTag (tag : Text) : Kind :=
  match Text.after? "tag:yaml.org,2002:" tag with
  | some name => ofName name
  | none => .unknown

end Kind

namespace Node

/-- The node that a reference leads to. -/
def resolved (anchors : List (Text × Node)) : Node → Node
  | .enclosing name => (anchors.lookup name).getD .empty
  | node => node

/-- The number of a collection. -/
def number? : Node → Option Nat
  | .sequence number _ _ => some number
  | .mapping number _ _ => some number
  | _ => none

def isMapping : Node → Bool
  | .mapping _ _ _ => true
  | _ => false

/-- What the node's tag, or its text or kind without one, makes of it. -/
def kind : Node → Kind
  | .scalar (some tag) _ _ => .ofTag tag
  | .scalar none text isOpen => .scalar (if isOpen then .ofText text else .str)
  | .sequence _ tag _ => (tag.map Kind.ofTag).getD .sequence
  | .mapping _ tag _ => (tag.map Kind.ofTag).getD .mapping
  | .enclosing _ => .unknown

def isMergeKey (node : Node) : Bool := node.kind = .scalar .merge

def isValueKey (node : Node) : Bool := node.kind = .scalar .value

/-- The text of a scalar, or of a mapping's default value. -/
def textOf (anchors : List (Text × Node)) : (fuel : Nat) → Node → Except Fault Text
  | 0, _ => .error .endless
  | fuel + 1, node =>
    match node.resolved anchors with
    | .scalar _ text _ => .ok text
    | .mapping _ _ entries =>
      match entries.find? (·.1.isValueKey) with
      | some (_, value) => textOf anchors fuel value
      | none => .error .malformed
    | _ => .error .malformed

/-- A key that marks a default value is the text of its mark. -/
def plainKey (node : Node) : Node :=
  match node with
  | .scalar _ text _ =>
    if node.isValueKey then .scalar (some "tag:yaml.org,2002:str") text false else node
  | other => other

/-- The entries of a mapping that are not under merge keys. -/
def ownEntries (entries : List (Node × Node)) : List (Node × Node) :=
  (entries.filter fun entry => !entry.1.isMergeKey).map fun (key, value) => (key.plainKey, value)

/-- The entries of a mapping with those of merge keys put in front. A mapping into which others are
being merged already gives its own entries. -/
def mergedEntries (anchors : List (Text × Node)) :
    (fuel : Nat) → (merging : List Nat) → List (Node × Node) → Except Fault (List (Node × Node))
  | 0, _, _ => .error .endless
  | fuel + 1, merging, entries => do
    let inner (node : Node) : Except Fault (List (Node × Node)) :=
      match node.resolved anchors with
      | .mapping number _ entries =>
        if merging.contains number then .ok (ownEntries entries)
        else mergedEntries anchors fuel (number :: merging) entries
      | _ => .error .malformed
    let merged ← (entries.filter (·.1.isMergeKey)).mapM fun (_, value) =>
      match value.resolved anchors with
      | .sequence _ _ items => do
        let parts ← items.mapM inner
        return parts.reverse.flatten
      | node => inner node
    return merged.flatten ++ ownEntries entries

/-- The only entry of an item in a list of pairs. -/
def pair? : Node → Option (Node × Node)
  | .mapping _ _ [entry] => some entry
  | _ => none

end Node

/-! ## Bytes -/

/-- The bytes that text in base 64 writes; other characters are passed over. -/
def base64 (text : Text) : Option (List UInt8) :=
  let digit? (c : Char) : Option Nat :=
    if 'A' ≤ c && c ≤ 'Z' then some (c.toNat - 65)
    else if 'a' ≤ c && c ≤ 'z' then some (c.toNat - 71)
    else if c.isDigit then some (c.toNat + 4)
    else if c = '+' then some 62
    else if c = '/' then some 63
    else none
  let digits := (text.takeWhile (· != '=')).filterMap digit?
  let padding := ((text.dropWhile (· != '=')).filter (· = '=')).length
  let code := digits.foldl (fun total digit => total * 64 + digit) 0
  let count := digits.length * 6 / 8
  let shift := digits.length * 6 % 8
  if text.any (·.toNat ≥ 128) || digits.length % 4 = 1 || (digits.length + padding) % 4 != 0 then none
  else
    some ((List.range count).map fun index =>
      UInt8.ofNat (code / Nat.pow 2 (shift + 8 * (count - 1 - index)) % 256))

/-! ## Values -/

/-- A value made so far, with the faults met, each at its level. -/
structure Made (α : Type) where
  value : α
  faults : List (Nat × Fault)

namespace Made

def pure {α : Type} (value : α) : Made α := ⟨value, []⟩

def fault {α : Type} (stand : α) (level : Nat) (fault : Fault) : Made α := ⟨stand, [(level, fault)]⟩

/-- What becomes of the value; the faults stay. -/
def map {α β : Type} (change : α → β) (made : Made α) : Made β := ⟨change made.value, made.faults⟩

/-- The value of a step that may fail at a level. -/
def ofExcept (level : Nat) : Except Fault Value → Made Value
  | .ok value => .pure value
  | .error reason => .fault .null level reason

/-- The fault of the outermost level, and on it the first. -/
def first? (faults : List (Nat × Fault)) : Option Fault :=
  let least := (faults.map Prod.fst).foldl min (faults.head?.elim 0 Prod.fst)
  (faults.find? (·.1 = least)).map Prod.snd

end Made

/-- The values of nodes. -/
def makeItems (one : Node → Made Value) : List Node → Made (List Value)
  | [] => .pure []
  | item :: rest =>
    let made := one item
    let others := makeItems one rest
    ⟨made.value :: others.value, made.faults ++ others.faults⟩

/-- The pairs of a list of mappings with one entry each, on a level. -/
def makePairs (anchors : List (Text × Node)) (level : Nat) (one : Node → Made Value) :
    List Node → Made (List Value)
  | [] => .pure []
  | item :: rest =>
    match (item.resolved anchors).pair? with
    | none => .fault [] level .malformed
    | some (key, value) =>
      let name := one key
      let made := one value
      let others := makePairs anchors level one rest
      ⟨.pair name.value made.value :: others.value, name.faults ++ made.faults ++ others.faults⟩

/-- The entries of a mapping on a level, behind those that are made. -/
def makeEntries (level : Nat) (one : Node → Made Value) (done : List (Value × Value)) :
    List (Node × Node) → Made (List (Value × Value))
  | [] => .pure done
  | (key, value) :: rest =>
    let name := one key
    if !name.value.isKey then .fault [] level .malformed
    else
      let made := one value
      let others := makeEntries level one (Value.assignKey name.value made.value done) rest
      ⟨others.value, name.faults ++ made.faults ++ others.faults⟩

/-- The value of a node on a level, inside of collections whose values are being made. -/
def make (anchors : List (Text × Node)) :
    (fuel : Nat) → (around : List Nat) → (level : Nat) → Node → Made Value
  | 0, _, level, _ => .fault .null level .endless
  | fuel + 1, around, level, node =>
    let node := node.resolved anchors
    if node.number?.any around.contains then .pure (.enclosing node.isMapping)
    else
      let around := node.number?.toList ++ around
      let one := make anchors fuel around (level + 1)
      let entriesOf (entries : List (Node × Node)) : Made (List (Value × Value)) :=
        match Node.mergedEntries anchors fuel node.number?.toList entries with
        | .error reason => .fault [] (level + 1) reason
        | .ok merged => makeEntries (level + 1) one [] merged
      match node.kind, node with
      | .scalar tag, _ => .ofExcept level ((node.textOf anchors fuel) >>= tag.valueOf)
      | .bytes, _ =>
        .ofExcept level do
          match base64 (← node.textOf anchors fuel) with
          | some stored => return .bytes stored
          | none => throw .malformed
      | .sequence, .sequence _ _ items => (makeItems one items).map Value.list
      | .mapping, .mapping _ _ entries => (entriesOf entries).map Value.map
      | .members, .mapping _ _ entries =>
        (entriesOf entries).map fun entries => .members (entries.map Prod.fst)
      | .pairs, .sequence _ _ items => (makePairs anchors (level + 1) one items).map Value.list
      | .unknown, _ => .fault .null level .malformed
      | _, _ => .fault .null (level + 1) .malformed

/-- The value of the only document of a text; a text without document has the value null. -/
def parse (text : Text) : Except Fault Value := do
  match ← compose text with
  | none => return .null
  | some document =>
    let made := make document.anchors (8 * text.length + 16) [] 0 document.root
    match Made.first? made.faults with
    | some fault => throw fault
    | none => return made.value

end SchemaDoc.Yaml
