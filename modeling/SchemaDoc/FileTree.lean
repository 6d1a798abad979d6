import SchemaDoc.Encoding.Codec
import SchemaDoc.Path
import SchemaDoc.Text.Basic

/-!
Contract: the files of a project directory.

A tree holds files by the parts of their paths below the project, and directories that may be
empty; every directory above a file or directory exists. Paths are followed part by part, as the
file system does: each part but the last must be a directory, and two dots lead one up.
Nothing outside the project exists.
-/

namespace SchemaDoc

/-- Why a file cannot be opened. -/
inductive AccessFault where
  | missing
  | notDirectory
  | isDirectory
  | full
  | undecodable
deriving DecidableEq, Repr

/-- The text of a fault at a path. -/
def AccessFault.message (path : Text) : AccessFault → Text
  | .missing => "[Errno 2] No such file or directory: '" ++ path ++ "'"
  | .notDirectory => "[Errno 20] Not a directory: '" ++ path ++ "'"
  | .isDirectory => "[Errno 21] Is a directory: '" ++ path ++ "'"
  | .full => "[Errno 28] No space left on device"
  | .undecodable => "the file cannot be decoded"

structure FileTree where
  files : List (List Text × Bytes)
  directories : List (List Text)
deriving Repr

namespace FileTree

def empty : FileTree := ⟨[], []⟩

/-- The contents of a file. -/
def file? (tree : FileTree) (place : List Text) : Option Bytes :=
  (tree.files.find? (·.1 = place)).map Prod.snd

/-- The place is a directory. -/
def hasDirectory (tree : FileTree) (place : List Text) : Bool :=
  place.isEmpty || tree.directories.any place.isPrefixOf ||
    tree.files.any fun entry => place.isPrefixOf entry.1 && place != entry.1

/-- Follows parts from a place; the last part need not exist. -/
def follow (tree : FileTree) (place : List Text) : List Text → Except AccessFault (List Text)
  | [] => .ok place
  | part :: rest =>
    if (tree.file? place).isSome then .error .notDirectory
    else if !tree.hasDirectory place then .error .missing
    else if part = ['.', '.'] then
      if place.isEmpty then .error .missing else follow tree place.dropLast rest
    else follow tree (place ++ [part]) rest

/-- The place of a path. -/
def placeOf (tree : FileTree) (path : Path) : Except AccessFault (List Text) :=
  match path.anchor with
  | .relative => tree.follow [] path.parts
  | .project => tree.follow [] path.parts
  | _ => .error .missing

/-- The contents of the file at a path. -/
def read (tree : FileTree) (path : Path) : Except AccessFault Bytes := do
  let place ← tree.placeOf path
  match tree.file? place with
  | some bytes => .ok bytes
  | none => .error (if tree.hasDirectory place then .isDirectory else .missing)

/-- The path leads to a directory. -/
def isDirectory (tree : FileTree) (path : Path) : Bool :=
  match tree.placeOf path with
  | .ok place => tree.hasDirectory place
  | .error _ => false

/-- The path leads to a file or a directory. -/
def fileExists (tree : FileTree) (path : Path) : Bool :=
  match tree.placeOf path with
  | .ok place => (tree.file? place).isSome || tree.hasDirectory place
  | .error _ => false

/-- A place and the directories above it, the project directory left out. -/
def withParents (place : List Text) : List (List Text) :=
  (List.range place.length).map fun depth => place.take (depth + 1)

/-- The places of all files and directories below the project directory, each one once. -/
def places (tree : FileTree) : List (List Text) :=
  ((tree.files.map Prod.fst ++ tree.directories).flatMap withParents).eraseDups

/-- The names in a directory, in order. -/
def names (tree : FileTree) (place : List Text) : List Text :=
  let inside := tree.places.filter fun other => other.dropLast = place
  (inside.filterMap List.getLast?).mergeSort Text.notAfter

/-- The paths of everything below a directory, in the order of their parts. -/
def below (tree : FileTree) (directory : Path) : List Path :=
  match tree.placeOf directory with
  | .error _ => []
  | .ok place =>
    let inside := tree.places.filter fun other => place.isPrefixOf other && place != other
    (inside.mergeSort Text.listNotAfter).map fun other =>
      { directory with parts := directory.parts ++ other.drop place.length }

/-- The tree with a file written; an old file keeps its place among the files. -/
def put (tree : FileTree) (place : List Text) (bytes : Bytes) : FileTree :=
  if (tree.file? place).isSome then
    { tree with
      files := tree.files.map fun entry => if entry.1 = place then (place, bytes) else entry }
  else { tree with files := tree.files ++ [(place, bytes)] }

/-- The tree with a directory made. -/
def makeDirectory (tree : FileTree) (place : List Text) : FileTree :=
  { tree with directories := tree.directories ++ [place] }

/-- The tree with the contents of the file at a path replaced. -/
def write (tree : FileTree) (path : Path) (bytes : Bytes) : FileTree :=
  match tree.placeOf path with
  | .ok place => tree.put place bytes
  | .error _ => tree

/-- The path without two-dot parts and counted from the project: relative paths start there. -/
def resolve (path : Path) : Path :=
  let anchor := if path.anchor = .relative then .project else path.anchor
  path.parts.foldl
    (fun (resolved : Path) part =>
      if part = ['.', '.'] then resolved.parent else resolved.child part)
    ⟨anchor, []⟩

end FileTree

end SchemaDoc
