import SchemaDoc.CommandLine.SiteReader

/-!
Contract: the tool as a program.

The program reads a description of what it works on from its standard input, as a YAML document, and
runs the command that its arguments name. What the command prints goes to the standard output. The
log goes where its handlers write. The new contents of each file that the command changed follow on
the standard error, headed by its path.
-/

namespace SchemaDoc.Tool

/-- All lines of a stream. -/
partial def readLines (input : IO.FS.Stream) (done : String) : IO String := do
  let line ← input.getLine
  if line.isEmpty then return done
  readLines input (done ++ line)

/-- The text of the contents of a file, as far as it is one. -/
def shownContents (stored : Bytes) : String :=
  match Encoding.decodeUtf8 stored with
  | some text => String.ofList text
  | none => String.ofList (stored.flatMap fun byte => Text.hexadecimal 2 byte.toNat)

/-- The files that differ between two trees, with their new contents. -/
def changedContents (before after : FileTree) : List (String × String) :=
  (after.files.filter fun (place, stored) => before.file? place != some stored).map
    fun (place, stored) => (String.ofList (Text.join ['/'] place), shownContents stored)

/-- The time of the entries of the log is not shown. -/
def noStamp : Log.Stamp := ⟨[], []⟩

/-- Runs the tool on its arguments, and gives the status that it ends with. -/
def run (arguments : List String) : IO UInt32 := do
  let description ← readLines (← IO.getStdin) ""
  let errors ← IO.getStderr
  match Yaml.parse description.toList with
  | .error _ =>
    errors.putStrLn "the description is not a YAML document"
    return 1
  | .ok value =>
    let site := CommandLine.SiteReader.site value
    let outcome := CommandLine.run (fun _ => none) noStamp site (arguments.map String.toList)
    let output ← IO.getStdout
    for written in outcome.written do
      match written.stream with
      | .output => output.putStr (String.ofList written.text)
      | .errors => errors.putStr (String.ofList written.text)
    for (path, contents) in changedContents site.tree outcome.site.tree do
      errors.putStrLn ("=== " ++ path)
      errors.putStr contents
    return UInt32.ofNat outcome.ending.status

end SchemaDoc.Tool

def main (arguments : List String) : IO UInt32 :=
  SchemaDoc.Tool.run arguments
