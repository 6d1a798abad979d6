import SchemaDoc.Decimal.Double
import SchemaDoc.Moment
import SchemaDoc.Text.Basic
import SchemaDoc.Text.Quoted

/-!
Contract: dynamic values, as settings files, placeholders and messages handle them.

Owns:
- the value type, whose mappings keep the order of insertion;
- how a value is shown (`display`) and quoted (`repr`);
- which values count as empty, and the names of the kinds of values.

A collection that holds itself is a tree in which a mark stands for the collection further up.
-/

namespace SchemaDoc

/-- A value of a settings file. -/
inductive Value where
  | null
  | bool (value : Bool)
  | int (value : Int)
  | real (value : Double)
  | str (value : Text)
  | bytes (value : List UInt8)
  | moment (value : Moment)
  | list (items : List Value)
  | map (entries : List (Value × Value))
  | pair (first second : Value)
  /-- A set. -/
  | members (items : List Value)
  /-- A list or a mapping that holds this value. -/
  | enclosing (isMapping : Bool)
deriving Repr

namespace Value

/-- The value quoted, as messages show a given value. -/
def repr : Value → Text
  | .null => "None".toList
  | .bool true => "True".toList
  | .bool false => "False".toList
  | .int value => Text.ofInt value
  | .real value => value.render
  | .str value => Text.quoted value
  | .bytes value => 'b' :: Text.quoted (value.map fun byte => Char.ofNat byte.toNat)
  | .moment value => value.quoted
  | .list items => '[' :: Text.join ", ".toList (reprItems items) ++ [']']
  | .map entries => '\x7b' :: Text.join ", ".toList (reprEntries entries) ++ ['\x7d']
  | .pair first second => '(' :: repr first ++ ", ".toList ++ repr second ++ [')']
  | .members [] => "set()".toList
  | .members (first :: rest) =>
    '\x7b' :: Text.join ", ".toList (repr first :: reprItems rest) ++ ['\x7d']
  | .enclosing true => "\x7b...\x7d".toList
  | .enclosing false => "[...]".toList
where
  reprItems : List Value → List Text
    | [] => []
    | item :: rest => repr item :: reprItems rest
  reprEntries : List (Value × Value) → List Text
    | [] => []
    | (key, value) :: rest => (repr key ++ ": ".toList ++ repr value) :: reprEntries rest

/-- The value as running text: texts and moments show no quotes. -/
def display : Value → Text
  | .str value => value
  | .moment value => value.render
  | other => repr other

/-- The value is null, false, zero or empty. -/
def isEmpty : Value → Bool
  | .null => true
  | .bool value => !value
  | .int value => value == 0
  | .real (.finite _ mantissa _) => mantissa == 0
  | .real _ => false
  | .str value => value.isEmpty
  | .bytes value => value.isEmpty
  | .moment _ => false
  | .list items => items.isEmpty
  | .map entries => entries.isEmpty
  | .pair _ _ => false
  | .members items => items.isEmpty
  | .enclosing _ => false

/-- The name of a value's kind. -/
def kindName : Value → Text
  | .null => "NoneType".toList
  | .bool _ => "bool".toList
  | .int _ => "int".toList
  | .real _ => "float".toList
  | .str _ => "str".toList
  | .bytes _ => "bytes".toList
  | .moment value => value.kindName
  | .list _ => "list".toList
  | .map _ => "dict".toList
  | .pair _ _ => "tuple".toList
  | .members _ => "set".toList
  | .enclosing true => "dict".toList
  | .enclosing false => "list".toList

/-- Items of lists and values of mappings lead back to a collection they are in. -/
def holdsItself : Value → Bool
  | .enclosing _ => true
  | .list items => anyHolds items
  | .map entries => anyEntryHolds entries
  | _ => false
where
  anyHolds : List Value → Bool
    | [] => false
    | item :: rest => holdsItself item || anyHolds rest
  anyEntryHolds : List (Value × Value) → Bool
    | [] => false
    | (_, value) :: rest => holdsItself value || anyEntryHolds rest

/-- The value of a text key, when the value is a mapping that holds it. -/
def lookup? (key : Text) : List (Value × Value) → Option Value
  | [] => none
  | (.str name, value) :: rest => if name = key then some value else lookup? key rest
  | _ :: rest => lookup? key rest

/-- Entries with a text key set: an old entry keeps its place, a new one goes last. -/
def assign (key : Text) (value : Value) : List (Value × Value) → List (Value × Value)
  | [] => [(.str key, value)]
  | (.str name, old) :: rest =>
    if name = key then (.str name, value) :: rest else (.str name, old) :: assign key value rest
  | entry :: rest => entry :: assign key value rest

/-! ## Values as mappings -/

/-- Why a value cannot be read as a mapping. -/
inductive ShapeFault where
  /-- It, or one of its items, has no parts, or a key cannot be one. -/
  | kind
  /-- An item does not have two parts. -/
  | size
deriving DecidableEq, Repr

/-- The number that a value is, where truth values count as numbers. -/
def number? : Value → Option Double
  | .bool value => some (Double.ofInt (if value then 1 else 0))
  | .int value => some (Double.ofInt value)
  | .real value => some value
  | _ => none

/-- The two values are the same key: equal texts, or equal numbers of whatever kind. -/
def sameKey (left right : Value) : Bool :=
  match left, right with
  | .null, .null => true
  | .str a, .str b => a = b
  | .bytes a, .bytes b => a = b
  | .moment a, .moment b => a = b
  | .int a, .int b => a = b
  | .pair first second, .pair other another => sameKey first other && sameKey second another
  | a, b =>
    match a.number?, b.number? with
    | some x, some y => x = y && x != .undefined
    | _, _ => false

mutual

/-- The two values are equal; mappings and sets are compared without regard to order. -/
def same : Value → Value → Bool
  | .list left, .list right => sameItems left right
  | .map left, .map right => left.length = right.length && sameEntries left right
  | .pair first second, .pair other another => same first other && same second another
  | .members left, .members right =>
    left.length = right.length && left.all fun item => right.any (sameKey item)
  | left, right => sameKey left right

def sameItems : List Value → List Value → Bool
  | [], [] => true
  | left :: restLeft, right :: restRight => same left right && sameItems restLeft restRight
  | _, _ => false

def sameEntries : List (Value × Value) → List (Value × Value) → Bool
  | [], _ => true
  | (key, value) :: rest, right =>
    (right.any fun entry => sameKey key entry.1 && same value entry.2) && sameEntries rest right

end

/-- Entries with a key set: an old entry keeps its place and key, a new one goes last. -/
def assignKey (key value : Value) : List (Value × Value) → List (Value × Value)
  | [] => [(key, value)]
  | (old, present) :: rest =>
    if sameKey old key then (old, value) :: rest else (old, present) :: assignKey key value rest

/-- The value can be a key. -/
def isKey : Value → Bool
  | .list _ => false
  | .map _ => false
  | .pair first second => isKey first && isKey second
  | .members _ => false
  | .enclosing _ => false
  | _ => true

/-- The parts of a value that has parts. -/
def parts? : Value → Option (List Value)
  | .list items => some items
  | .map entries => some (entries.map Prod.fst)
  | .pair first second => some [first, second]
  | .members items => some items
  | .str text => some (text.map fun c => .str [c])
  | .bytes stored => some (stored.map fun byte => .int byte.toNat)
  | _ => none

/-- Entries from items of two parts each; a later item replaces an earlier one. -/
def entriesOfPairs (done : List (Value × Value)) :
    List Value → Except ShapeFault (List (Value × Value))
  | [] => .ok done
  | item :: rest =>
    match item.parts? with
    | none => .error .kind
    | some [key, value] =>
      if key.isKey then entriesOfPairs (assignKey key value done) rest else .error .kind
    | some _ => .error .size

/-- The entries of a mapping, or of anything whose parts are pairs. -/
def toEntries : Value → Except ShapeFault (List (Value × Value))
  | .map entries => .ok entries
  | value =>
    match value.parts? with
    | some items => entriesOfPairs [] items
    | none => .error .kind

end Value

end SchemaDoc
