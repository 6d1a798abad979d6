import SchemaDoc.Yaml.Token

/-!
Contract: the tree of nodes that the tokens of one YAML 1.1 document write.

Each node carries its full tag, or none when the tag is left to its kind or its text, and each
collection has a number of its own. A reference stands for the node that its anchor names; inside that
node it keeps the name instead, since the node holds itself. A second document in the text, a name that
is anchored twice and a reference without anchor are errors.
-/

namespace SchemaDoc.Yaml

inductive Node where
  /-- A scalar; the flag says that its text may decide its tag. -/
  | scalar (tag : Option Text) (text : Text) (isOpen : Bool)
  | sequence (number : Nat) (tag : Option Text) (items : List Node)
  | mapping (number : Nat) (tag : Option Text) (entries : List (Node × Node))
  /-- A reference by its name to a collection that holds it. -/
  | enclosing (name : Text)
deriving Repr

namespace Node

/-- A node that is left out. -/
def empty : Node := .scalar none [] true

end Node

/-- The tokens that are left, the tags that handles stand for, the anchored nodes, which are absent
while they are read, and the number of collections so far. -/
structure Reader where
  tokens : List Token
  handles : List (Text × Text)
  anchors : List (Text × Option Node)
  collections : Nat

/-- A step of reading a document. -/
abbrev Reading := StateT Reader (Except Fault)

namespace Reading

def fail {α : Type} : Reading α := throw .malformed

def peek : Reading (Option Token) := do
  return (← get).tokens.head?

def skip : Reading Unit :=
  modify fun reader => { reader with tokens := reader.tokens.drop 1 }

/-- One of the tokens comes next; nothing left counts as none of them. -/
def atAny (stops : List Token) : Reading Bool := do
  match ← peek with
  | some token => return stops.contains token
  | none => return false

/-- Takes a token if it comes next. -/
def accept (token : Token) : Reading Bool := do
  if (← peek) = some token then
    skip
    return true
  return false

def expect (token : Token) : Reading Unit := do
  if !(← accept token) then fail

/-! ## Properties of nodes -/

/-- The tag that a handle and a suffix make. -/
def expandTag (handle : Option Text) (suffix : Text) : Reading Text := do
  match handle with
  | none => return suffix
  | some handle =>
    match (← get).handles.lookup handle with
    | some expansion => return expansion ++ suffix
    | none => fail

def anchor? : Reading (Option Text) := do
  match ← peek with
  | some (.anchor name) =>
    skip
    return some name
  | _ => return none

def tag? : Reading (Option Text) := do
  match ← peek with
  | some (.tag handle suffix) =>
    skip
    return some (← expandTag handle suffix)
  | _ => return none

/-- The anchor and the tag in front of a node, in either order. -/
def properties : Reading (Option Text × Option Text) := do
  match ← anchor? with
  | some name => return (some name, ← tag?)
  | none =>
    let tag ← tag?
    match tag with
    | some _ => return (← anchor?, tag)
    | none => return (none, none)

/-- Opens the name of a node that is about to be read. -/
def open? : Option Text → Reading Unit
  | none => return ()
  | some name => do
    if ((← get).anchors.lookup name).isSome then fail
    modify fun reader => { reader with anchors := (name, none) :: reader.anchors }

/-- Ties a name to the node that was read. -/
def close? (name : Option Text) (node : Node) : Reading Node := do
  match name with
  | none => return node
  | some name =>
    modify fun reader => { reader with anchors := (name, some node) :: reader.anchors }
    return node

/-- The node that a reference stands for. -/
def referenced (name : Text) : Reading Node := do
  match (← get).anchors.lookup name with
  | some (some node) => return node
  | some none => return .enclosing name
  | none => fail

/-- The number of another collection. -/
def number : Reading Nat := do
  let reader ← get
  set { reader with collections := reader.collections + 1 }
  return reader.collections

/-- A tag that says nothing leaves the tag of a collection to its kind. -/
def collectionTag (tag : Option Text) : Option Text :=
  if tag = some ['!'] then none else tag

/-- A scalar with the tag in front of it. A tag that says nothing opens even a quoted text. -/
def scalarOf (tag : Option Text) (text : Text) (isPlain : Bool) : Node :=
  if tag = some ['!'] then .scalar none text true
  else .scalar tag text (tag.isNone && isPlain)

/-- A node without content. -/
def emptyContent (tag : Option Text) (isNamed : Bool) : Reading Node :=
  match tag with
  | none => if isNamed then return .empty else fail
  | some ['!'] => return .empty
  | some tag => return .scalar (some tag) [] false

/-! ## Nodes -/

/-- Where a node stands: it may be a block collection, or a sequence without indentation. -/
structure Place where
  isBlock : Bool
  isIndentless : Bool

def inBlock : Place := ⟨true, false⟩

def inMapping : Place := ⟨true, true⟩

def inFlow : Place := ⟨false, false⟩

mutual

/-- A node. -/
def node (place : Place) : (fuel : Nat) → Reading Node
  | 0 => fail
  | fuel + 1 => do
    match ← peek with
    | some (.reference name) =>
      skip
      referenced name
    | _ =>
      let (name, tag) ← properties
      open? name
      close? name (← content place tag name.isSome fuel)

/-- What follows the properties of a node; the node is empty when there is only them. -/
def content (place : Place) (tag : Option Text) (isNamed : Bool) : (fuel : Nat) → Reading Node
  | 0 => fail
  | fuel + 1 => do
    match ← peek with
    | some (.scalar text isPlain) =>
      skip
      return scalarOf tag text isPlain
    | some .flowSequenceStart =>
      skip
      return .sequence (← number) (collectionTag tag) (← flowItems true fuel)
    | some .flowMappingStart =>
      skip
      return .mapping (← number) (collectionTag tag) (← flowEntries true fuel)
    | some .blockEntry =>
      if place.isIndentless then
        return .sequence (← number) (collectionTag tag) (← indentlessItems fuel)
      else emptyContent tag isNamed
    | some .blockSequenceStart =>
      if place.isBlock then
        skip
        return .sequence (← number) (collectionTag tag) (← blockItems fuel)
      else emptyContent tag isNamed
    | some .blockMappingStart =>
      if place.isBlock then
        skip
        return .mapping (← number) (collectionTag tag) (← blockEntries fuel)
      else emptyContent tag isNamed
    | _ => emptyContent tag isNamed

/-- A node, or an empty one before one of the given tokens. -/
def nodeUnless (stops : List Token) (place : Place) : (fuel : Nat) → Reading Node
  | 0 => fail
  | fuel + 1 => do
    if ← atAny stops then return .empty
    node place fuel

/-- The items of an indented sequence. -/
def blockItems : (fuel : Nat) → Reading (List Node)
  | 0 => fail
  | fuel + 1 => do
    if ← accept .blockEntry then
      let item ← nodeUnless [.blockEntry, .blockEnd] inBlock fuel
      return item :: (← blockItems fuel)
    expect .blockEnd
    return []

/-- The items of a sequence that is not indented against its key. -/
def indentlessItems : (fuel : Nat) → Reading (List Node)
  | 0 => fail
  | fuel + 1 => do
    if ← accept .blockEntry then
      let item ← nodeUnless [.blockEntry, .key, .value, .blockEnd] inBlock fuel
      return item :: (← indentlessItems fuel)
    return []

/-- The value of a block mapping's key; it may be left out. -/
def blockValue : (fuel : Nat) → Reading Node
  | 0 => fail
  | fuel + 1 => do
    if ← accept .value then nodeUnless [.key, .value, .blockEnd] inMapping fuel
    else return .empty

/-- The entries of a block mapping. -/
def blockEntries : (fuel : Nat) → Reading (List (Node × Node))
  | 0 => fail
  | fuel + 1 => do
    if ← accept .key then
      let key ← nodeUnless [.key, .value, .blockEnd] inMapping fuel
      let value ← blockValue fuel
      return (key, value) :: (← blockEntries fuel)
    expect .blockEnd
    return []

/-- A value in a flow collection that ends with `stop`; it may be left out. -/
def flowValue (stop : Token) : (fuel : Nat) → Reading Node
  | 0 => fail
  | fuel + 1 => do
    if ← accept .value then nodeUnless [.flowEntry, stop] inFlow fuel
    else return .empty

/-- The items of a flow sequence; a key makes an item a mapping of one entry. -/
def flowItems (isFirst : Bool) : (fuel : Nat) → Reading (List Node)
  | 0 => fail
  | fuel + 1 => do
    if ← accept .flowSequenceEnd then return []
    if !isFirst then expect .flowEntry
    if ← accept .flowSequenceEnd then return []
    let item ←
      if ← accept .key then do
        let key ← nodeUnless [.value, .flowEntry, .flowSequenceEnd] inFlow fuel
        let value ← flowValue .flowSequenceEnd fuel
        pure (Node.mapping (← number) none [(key, value)])
      else node inFlow fuel
    return item :: (← flowItems false fuel)

/-- The entries of a flow mapping; a node without key indicator is a key without value. -/
def flowEntries (isFirst : Bool) : (fuel : Nat) → Reading (List (Node × Node))
  | 0 => fail
  | fuel + 1 => do
    if ← accept .flowMappingEnd then return []
    if !isFirst then expect .flowEntry
    if ← accept .flowMappingEnd then return []
    let entry ←
      if ← accept .key then do
        let key ← nodeUnless [.value, .flowEntry, .flowMappingEnd] inFlow fuel
        let value ← flowValue .flowMappingEnd fuel
        pure (key, value)
      else do
        let key ← node inFlow fuel
        pure (key, Node.empty)
    return entry :: (← flowEntries false fuel)

end

/-! ## Documents -/

/-- The handles that need no directive. -/
def standardHandles : List (Text × Text) :=
  [(['!'], ['!']), (['!', '!'], "tag:yaml.org,2002:".toList)]

/-- The directives in front of a document; each says something once. -/
def directives (versioned : Bool) : (fuel : Nat) → Reading Unit
  | 0 => fail
  | fuel + 1 => do
    match ← peek with
    | some (.versionDirective major) =>
      skip
      if versioned || major != 1 then fail
      directives true fuel
    | some (.tagDirective handle expansion) =>
      skip
      if ((← get).handles.lookup handle).isSome then fail
      modify fun reader => { reader with handles := (handle, expansion) :: reader.handles }
      directives versioned fuel
    | some .otherDirective =>
      skip
      directives versioned fuel
    | _ => return ()

/-- Marks of the end of a document. -/
def documentEnds : (fuel : Nat) → Reading Unit
  | 0 => return ()
  | fuel + 1 => do
    if ← accept .documentEnd then documentEnds fuel

def isDirective : Token → Bool
  | .versionDirective _ => true
  | .tagDirective _ _ => true
  | .otherDirective => true
  | _ => false

/-- The content of a document whose start is marked; it may be left out. -/
def markedContent (fuel : Nat) : Reading Node := do
  match ← peek with
  | none => return .empty
  | some token =>
    if isDirective token || token = .documentStart || token = .documentEnd then return .empty
    else node inBlock fuel

/-- The only document of a text, if there is one. -/
def document (fuel : Nat) : Reading (Option Node) := do
  match ← peek with
  | none => return none
  | some token =>
    let root ←
      if isDirective token || token = .documentStart then do
        directives false fuel
        modify fun reader => { reader with handles := reader.handles ++ standardHandles }
        expect .documentStart
        markedContent fuel
      else do
        modify fun reader => { reader with handles := standardHandles }
        node inBlock fuel
    documentEnds fuel
    match ← peek with
    | none => return some root
    | some _ => fail

end Reading

/-- A document, with the nodes that its anchors name. -/
structure Document where
  root : Node
  anchors : List (Text × Node)

/-- The only document of a text, if there is one. -/
def compose (text : Text) : Except Fault (Option Document) := do
  let tokens ← tokens text
  let (root, reader) ← (Reading.document (8 * tokens.length + 8)).run ⟨tokens, [], [], 0⟩
  let anchors := reader.anchors.filterMap fun (name, node) => node.map fun node => (name, node)
  return root.map fun root => ⟨root, anchors⟩

end SchemaDoc.Yaml
