import SchemaDoc.Encoding.Codec
import SchemaDoc.Text.Quoted

/-!
Contract: which encoding a source file is stored in.

The byte order mark decides, or a coding comment on the first line, or one on the second line when
the first is blank or a comment; a file with none of them is UTF-8. The lines that are searched
must be valid UTF-8, and a comment next to the mark must name UTF-8.
-/

namespace SchemaDoc.Encoding

/-- Why a file's encoding cannot be decided. -/
inductive CookieFault where
  | undecodable
  | unknown (name : Text)
  | contradiction
deriving DecidableEq, Repr

/-- The text of a fault in the file at a path. -/
def CookieFault.message (path : Text) : CookieFault → Text
  | .undecodable => "invalid or missing encoding declaration for " ++ Text.quoted path
  | .unknown name => "unknown encoding for " ++ Text.quoted path ++ ": " ++ name
  | .contradiction => "encoding problem for " ++ Text.quoted path ++ ": utf-8"

/-- An encoding under the name that the file gives it. -/
structure Declared where
  name : Text
  codec : Codec
deriving DecidableEq, Repr

/-- The blanks that may stand in front of a comment. -/
def isCommentGap (c : Char) : Bool :=
  c = ' ' || c = '\t' || c = '\x0c'

/-- The character can stand in an encoding's name. -/
def isNameChar (c : Char) : Bool :=
  c.isAlphanum || c = '_' || c = '-' || c = '.'

/-- The name that a coding word at the start of the text gives, if it gives one. -/
def declaredHere? (text : Text) : Option Text :=
  match Text.after? "coding".toList text with
  | some (c :: rest) =>
    if c = ':' || c = '=' then
      let name := (rest.dropWhile fun c => c = ' ' || c = '\t').takeWhile isNameChar
      if name.isEmpty then none else some name
    else none
  | _ => none

/-- The name that the first coding word of a comment gives. -/
def declaredIn? : Text → Option Text
  | [] => none
  | c :: rest =>
    match declaredHere? (c :: rest) with
    | some name => some name
    | none => if c = '\n' then none else declaredIn? rest

/-- The name that the coding comment of a line gives, if the line is one. -/
def cookie? (line : Text) : Option Text :=
  match line.dropWhile isCommentGap with
  | '#' :: comment => declaredIn? comment
  | _ => none

/-- The usual name of UTF-8 and Latin-1; other names stay as they are written. -/
def usualName (name : Text) : Text :=
  let head := (name.take 12).map fun c => if c = '_' then '-' else c.toLower
  let isFamily (family : String) : Bool :=
    head = family.toList || (family ++ "-").toList.isPrefixOf head
  if isFamily "utf-8" then "utf-8"
  else if isFamily "latin-1" || isFamily "iso-8859-1" || isFamily "iso-latin-1" then "iso-8859-1"
  else name

/-- The encoding that a line declares, if it declares one. -/
def declaredBy (signed : Bool) (line : Bytes) : Except CookieFault (Option Declared) :=
  match decodeUtf8 line with
  | none => .error .undecodable
  | some text =>
    match cookie? text with
    | none => .ok none
    | some written =>
      let name := usualName written
      match codec? name with
      | none => .error (.unknown name)
      | some codec =>
        if signed then
          if name = "utf-8".toList then .ok (some ⟨"utf-8-sig", .utf8Signed⟩)
          else .error .contradiction
        else .ok (some ⟨name, codec⟩)

/-- The first line of bytes, its line feed included. -/
def firstLine : Bytes → Bytes
  | [] => []
  | byte :: rest => if byte = 10 then [byte] else byte :: firstLine rest

/-- The line is blank or holds a comment alone. -/
def isPassable (line : Bytes) : Bool :=
  match line.dropWhile fun byte => byte = 32 || byte = 9 || byte = 12 with
  | [] => true
  | byte :: _ => byte = 35 || byte = 13 || byte = 10

/-- The encoding of a file without any declaration. -/
def undeclared (signed : Bool) : Declared :=
  if signed then ⟨"utf-8-sig", .utf8Signed⟩ else ⟨"utf-8", .utf8⟩

/-- The encoding of a file. -/
def detect (bytes : Bytes) : Except CookieFault Declared := do
  let signed := signature.isPrefixOf bytes
  let head := firstLine bytes
  let first := if signed then head.drop signature.length else head
  if first.isEmpty then return undeclared signed
  match (← declaredBy signed first) with
  | some declared => return declared
  | none =>
    if !isPassable first then return undeclared signed
    let second := firstLine (bytes.drop head.length)
    if second.isEmpty then return undeclared signed
    match (← declaredBy signed second) with
    | some declared => return declared
    | none => return undeclared signed

end SchemaDoc.Encoding
