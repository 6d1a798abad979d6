import SchemaDoc.Program.Description

/-!
Contract: descriptions of programs as dynamic values.

A program is a mapping from module names to mappings with `file` and `items`; an item is a mapping
whose `kind` says what it is. What is left out has a default.
-/

namespace SchemaDoc.Program.Reader

/-- The value of a key; null when there is none. -/
def field (key : String) : Value → Value
  | .map entries => (Value.lookup? key.toList entries).getD .null
  | _ => .null

def text? : Value → Option Text
  | .str text => some text
  | _ => none

def truth? : Value → Option Bool
  | .bool value => some value
  | _ => none

def items : Value → List Value
  | .list items => items
  | _ => []

def textField (key : String) (value : Value) : Text :=
  (text? (field key value)).getD []

def isSet (key : String) (value : Value) : Bool :=
  (truth? (field key value)).getD false

/-- The names that tag the alternatives of a choice. -/
def choice (names : List (String × α)) (value : Value) : Option α := do
  let name ← text? value
  (names.find? (·.1.toList = name)).map Prod.snd

def failure : List Value → Failure
  | [.str kind, .str text] => ⟨kind, text⟩
  | _ => ⟨"RuntimeError".toList, []⟩

def result (value : Value) : Result :=
  match items value with
  | .str kind :: rest =>
    match String.ofList kind, rest with
    | "attr", [.str name] => .classValue name
    | "property", [.str name] => .mappedProperty name
    | "instance", [.str name] => .instanceValue name
    | "other", [.str className, .str name] => .ofClass className name
    | "unmapped", _ => .unattached
    | "raise", _ => .raises
    | _, _ => .plain
  | _ => .plain

def parameterKinds : List (String × ParameterKind) :=
  [("pos", .positional), ("posonly", .positionalOnly), ("varpos", .variadic),
    ("kwonly", .keywordOnly), ("varkw", .keywordVariadic)]

/-- The kinds of a list of parameters, each given by its name and kind. -/
def parameters (value : Value) : List ParameterKind :=
  (items value).filterMap fun parameter =>
    match items parameter with
    | _ :: kind :: _ => choice parameterKinds kind
    | _ => none

def directions : List (String × Direction) :=
  [("one_to_many", .oneToMany), ("many_to_one", .manyToOne), ("many_to_many", .manyToMany)]

/-- The annotations that name a single object. -/
def singleAnnotations : List (String × Unit) :=
  [("optional", ()), ("plain", ())]

def relationship (value : Value) : RelationshipMember where
  target := textField "target" value
  direction := choice directions (field "direction" value)
  asked := truth? (field "uselist" value)
  annotatedSingle := (choice singleAnnotations (field "annotation" value)).isSome
  backReference := text? (field "backref" value)

def member (value : Value) : Member :=
  let given := result (field "returns" value)
  match String.ofList (textField "kind" value) with
  | "column" => .column
  | "relationship" => .relationship (relationship value)
  | "declared_relationship" =>
    .declaredRelationship (textField "target" value) (truth? (field "uselist" value))
  | "method" =>
    let declared := parameters (field "params" value)
    .method (if isSet "bad_signature" value then none else some declared) (isSet "abstract" value)
      given
  | "wrapped_method" => .method (some (parameters (field "params" value))) false given
  | "generator_method" => .method (some (parameters (field "params" value))) false .plain
  | "async_method" => .method (some (parameters (field "params" value))) false .plain
  | "lambda" => .method (some [.positional]) false given
  | "staticmethod" => .unbound
  | "classmethod" => .unbound
  | "property" => .computed given
  | "hybrid" => .hybrid given
  | "raising_attribute" => .raising
  | "attribute" => .reference (textField "of" value) (isSet "property" value)
  | "synonym" => .reference (textField "of" value) false
  | _ => .inert

/-- Members by name: a repeated name keeps its first place and has its last meaning. -/
def keyed (members : List (Text × Member)) : List (Text × Member) :=
  members.foldl (fun done (name, member) =>
    if done.any (·.1 = name) then
      done.map fun entry => if entry.1 = name then (name, member) else entry
    else done ++ [(name, member)]) []

def constructor (value : Value) : Constructor :=
  match value with
  | .str _ => .needsArgument
  | .list parts => .raises (failure parts)
  | _ => .standard

def definition (standing : Standing) (value : Value) : ClassDefinition where
  name := textField "name" value
  qualname := (text? (field "qualname" value)).getD (textField "name" value)
  claimedModule := text? (field "module" value)
  bases := (items (field "bases" value)).filterMap text?
  standing := standing
  members := keyed ((items (field "members" value)).map fun entry =>
    (textField "name" entry, member entry))
  constructor := constructor (field "init" value)

def item? (value : Value) : Option Item :=
  let name := textField "name" value
  match String.ofList (textField "kind" value) with
  | "import" =>
    some (.fromModule (textField "module" value) name ((text? (field "as" value)).getD name))
  | "base" => some (.define (definition .registryBase value))
  | "model" =>
    some (.define (definition (.model (text? (field "table" value)) (isSet "abstract" value)) value))
  | "class" => some (.define (definition .plain value))
  | "alias" => some (.alias name (textField "target" value))
  | "value" => some (.value name)
  | "raise" => some (.raise ⟨textField "type" value, textField "text" value⟩)
  | _ => none

/-- The modules that a value describes. -/
def modules : Value → List ModuleDescription
  | .map entries => entries.map fun (name, value) =>
      ⟨name.display, text? (field "file" value), (items (field "items" value)).filterMap item?⟩
  | _ => []

end SchemaDoc.Program.Reader
