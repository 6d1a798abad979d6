import SchemaDoc.FileTree

/-!
Contract: packages and the directories that hold them.

A mapping ties a dotted package name to a directory; the empty name stands for a source root.

Owns:
- the directory that has to be importable for the package to be found (`sourceRoot`);
- the module files below a directory (`moduleFiles`), which are named by their suffix alone;
- the name of the module of such a file (`moduleName?`).
-/

namespace SchemaDoc

structure Mapping where
  package : Text
  directory : Path
deriving DecidableEq, Repr

namespace Mapping

/-- The parts of a dotted name, empty ones left out. -/
def nameParts (dotted : Text) : List Text :=
  (Text.splitOnChar '.' dotted).filter fun part => !part.isEmpty

/-- One directory up for each part of the package name. -/
def sourceRoot (mapping : Mapping) : Path :=
  (nameParts mapping.package).foldl (fun directory _ => directory.parent) mapping.directory

/-- The parts that name the module of a relative path without suffix: a package's own file is
named by its directory. -/
def moduleParts (parts : List Text) : List Text :=
  if parts.getLast? = some "__init__".toList then parts.dropLast else parts

/-- The dotted module name of a file below the directory. -/
def moduleName? (mapping : Mapping) (path : Path) : Option Text := do
  let inside ← path.relativeTo? mapping.directory
  let bare ← inside.dropSuffix?
  let parts := moduleParts bare.parts
  return Text.join ['.'] (if mapping.package.isEmpty then parts else mapping.package :: parts)

end Mapping

/-- The suffix of the files that hold modules. -/
def moduleSuffix : Text := ".py".toList

/-- The directory in which compiled code is kept. -/
def compiledDirectory : Text := "__pycache__".toList

/-- The files below a directory that are named as modules, in the order of their parts: directories
of such a name count too, and nothing in a directory of compiled code does. -/
def moduleFiles (tree : FileTree) (directory : Path) : List Path :=
  (tree.below directory).filter fun path =>
    moduleSuffix.isSuffixOf path.name && !path.parts.contains compiledDirectory

end SchemaDoc
