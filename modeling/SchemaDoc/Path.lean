import SchemaDoc.Text.Basic

/-!
Contract: slash-separated paths as lists of parts.

Empty parts and single dots vanish when a path is read; two dots stay. The directory of the
project is an anchor of its own, written `<root>`. Paths are compared part by part.
-/

namespace SchemaDoc

/-- Where a path starts. -/
inductive Anchor where
  | relative
  | project
  | root
  | network
deriving DecidableEq, Repr

namespace Anchor

def text : Anchor → Text
  | .relative => []
  | .project => "<root>".toList
  | .root => ['/']
  | .network => ['/', '/']

end Anchor

structure Path where
  anchor : Anchor
  parts : List Text
deriving DecidableEq, Repr

namespace Path

/-- The parts of a slash-separated text. -/
def partsOf (text : Text) : List Text :=
  (Text.splitOnChar '/' text).filter fun part => !part.isEmpty && part != ['.']

/-- The path that a text writes; exactly two slashes in front are an anchor of their own. -/
def parse (text : Text) : Path :=
  match Text.after? Anchor.project.text text with
  | some [] => ⟨.project, []⟩
  | some ('/' :: rest) => ⟨.project, partsOf rest⟩
  | _ =>
    match text with
    | '/' :: '/' :: '/' :: _ => ⟨.root, partsOf text⟩
    | '/' :: '/' :: _ => ⟨.network, partsOf text⟩
    | '/' :: _ => ⟨.root, partsOf text⟩
    | _ => ⟨.relative, partsOf text⟩

/-- The project directory. -/
def project : Path := ⟨.project, []⟩

/-- The text of a path; the empty relative path is a dot. -/
def render (path : Path) : Text :=
  let body := Text.join ['/'] path.parts
  match path.anchor with
  | .relative => if path.parts.isEmpty then ['.'] else body
  | .project => Anchor.project.text ++ (if path.parts.isEmpty then [] else '/' :: body)
  | anchor => anchor.text ++ body

/-- The second path taken from the first; an anchored one stands for itself. -/
def join (base other : Path) : Path :=
  if other.anchor = .relative then { base with parts := base.parts ++ other.parts } else other

/-- The path one part further. -/
def child (base : Path) (part : Text) : Path :=
  { base with parts := base.parts ++ [part] }

/-- The directory that holds the path; an anchor holds itself. -/
def parent (path : Path) : Path :=
  match path.anchor, path.parts with
  | .project, [] => ⟨.root, []⟩
  | _, parts => { path with parts := parts.dropLast }

/-- The last part; empty when there is none. -/
def name (path : Path) : Text :=
  path.parts.getLast?.getD []

/-- A file name without its last suffix, and the suffix with its dot. A name that only starts or
ends with its last dot has no suffix. -/
def splitSuffix (name : Text) : Text × Text :=
  let tail := (name.reverse.takeWhile (· != '.')).reverse
  let size := name.length - tail.length
  if tail.isEmpty || size ≤ 1 then (name, []) else (name.take (size - 1), name.drop (size - 1))

/-- The suffix of the last part, with its dot. -/
def suffix (path : Path) : Text :=
  (splitSuffix path.name).2

/-- The path without the suffix of its last part; a path without parts has none to drop. -/
def dropSuffix? (path : Path) : Option Path :=
  if path.parts.isEmpty then none
  else some { path with parts := path.parts.dropLast ++ [(splitSuffix path.name).1] }

/-- The way from a directory down to the path, when the path lies in it. -/
def relativeTo? (path directory : Path) : Option Path :=
  if path.anchor = directory.anchor && directory.parts.isPrefixOf path.parts then
    some ⟨.relative, path.parts.drop directory.parts.length⟩
  else none

/-- All parts, the anchor's text among them: the sort key of a path. -/
def sortKey (path : Path) : List Text :=
  match path.anchor with
  | .relative => path.parts
  | anchor => anchor.text :: path.parts

end Path

end SchemaDoc
