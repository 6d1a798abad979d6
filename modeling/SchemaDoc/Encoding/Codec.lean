import SchemaDoc.Encoding.Table
import SchemaDoc.Text.Basic

/-!
Contract: text encodings, as pairs of a decoder and an encoder.

Both directions fail as a whole: no byte and no character is ever replaced or dropped. A codec
with a signature writes the byte order mark in front, and drops one mark when it reads.
-/

namespace SchemaDoc

/-- The contents of a file. -/
abbrev Bytes := List UInt8

namespace Encoding

/-- The ways in which texts are stored. -/
inductive Codec where
  | utf8
  | utf8Signed
  | latin
  | ascii
  | table (upper : List Nat)
  /-- An encoding of bytes as bytes, which stores no text. -/
  | bytesOnly
deriving DecidableEq, Repr

/-- The byte order mark. -/
def signature : Bytes := [0xEF, 0xBB, 0xBF]

/-- The text that bytes spell, if they are the UTF-8 form of one. -/
def decodeUtf8 (bytes : Bytes) : Option Text :=
  (String.fromUTF8? bytes.toByteArray).map String.toList

/-- The UTF-8 form of a text. -/
def encodeUtf8 (text : Text) : Bytes :=
  (String.ofList text).toUTF8.data.toList

/-- The character of a byte under a table of the upper half. -/
def tableChar (upper : List Nat) (byte : UInt8) : Option Char :=
  if byte.toNat < 128 then some (Char.ofNat byte.toNat)
  else
    match upper[byte.toNat - 128]? with
    | some 0 => none
    | some code => some (Char.ofNat code)
    | none => none

/-- The byte of a character under a table of the upper half. -/
def tableByte (upper : List Nat) (c : Char) : Option UInt8 :=
  if c.toNat < 128 then some (UInt8.ofNat c.toNat)
  else (upper.findIdx? (· == c.toNat)).map fun index => UInt8.ofNat (index + 128)

namespace Codec

/-- The text that bytes store. -/
def decode (codec : Codec) (bytes : Bytes) : Option Text :=
  match codec with
  | .utf8 => decodeUtf8 bytes
  | .utf8Signed =>
    decodeUtf8 (if signature.isPrefixOf bytes then bytes.drop signature.length else bytes)
  | .latin => some (bytes.map fun byte => Char.ofNat byte.toNat)
  | .ascii =>
    if bytes.all (·.toNat < 128) then some (bytes.map fun byte => Char.ofNat byte.toNat)
    else none
  | .table upper => bytes.mapM (tableChar upper)
  | .bytesOnly => none

/-- The bytes that store a text. -/
def encode (codec : Codec) (text : Text) : Option Bytes :=
  match codec with
  | .utf8 => some (encodeUtf8 text)
  | .utf8Signed => some (signature ++ encodeUtf8 text)
  | .latin =>
    if text.all (·.toNat < 256) then some (text.map fun c => UInt8.ofNat c.toNat) else none
  | .ascii =>
    if text.all (·.toNat < 128) then some (text.map fun c => UInt8.ofNat c.toNat) else none
  | .table upper => text.mapM (tableByte upper)
  | .bytesOnly => none

end Codec

/-- A codec with its own name and others, all in normal form. -/
structure Known where
  name : String
  aliases : List String
  codec : Codec

/-- The codecs without a table. -/
def plainCodecs : List Known :=
  [⟨"utf_8", ["cp65001", "u8", "utf", "utf8", "utf8_ucs2", "utf8_ucs4"], .utf8⟩,
   ⟨"utf_8_sig", [], .utf8Signed⟩,
   ⟨"latin_1", ["8859", "cp819", "csisolatin1", "ibm819", "iso8859", "iso8859_1", "iso_8859_1",
     "iso_8859_1_1987", "iso_ir_100", "l1", "latin", "latin1"], .latin⟩,
   ⟨"charmap", [], .latin⟩,
   ⟨"ascii", ["646", "ansi_x3.4_1968", "ansi_x3.4_1986", "ansi_x3_4_1968", "cp367", "csascii",
     "ibm367", "iso646_us", "iso_646.irv_1991", "iso_ir_6", "us", "us_ascii"], .ascii⟩,
   ⟨"rot_13", ["rot13"], .bytesOnly⟩,
   ⟨"hex_codec", ["hex"], .bytesOnly⟩,
   ⟨"base64_codec", ["base64", "base_64"], .bytesOnly⟩,
   ⟨"zlib_codec", ["zip", "zlib"], .bytesOnly⟩,
   ⟨"bz2_codec", ["bz2"], .bytesOnly⟩,
   ⟨"quopri_codec", ["quopri", "quoted_printable", "quotedprintable"], .bytesOnly⟩,
   ⟨"uu_codec", ["uu"], .bytesOnly⟩]

/-- The codecs that are told apart. An encoding that stores a character in two bytes by a table is none
of them. -/
def knownCodecs : List Known :=
  plainCodecs ++ byteTables.map fun table => ⟨table.name, table.aliases, .table table.upper⟩

/-- The normal form of an encoding's name: lowercase, with one low line for each run of other
characters inside; points stay. `pending` says that such a run was passed. -/
def normalName (started pending : Bool) : Text → Text
  | [] => []
  | c :: rest =>
    if c.isAlphanum || c = '.' then
      if pending && started then '_' :: c.toLower :: normalName true false rest
      else c.toLower :: normalName true false rest
    else normalName started true rest

/-- The codec has this name in normal form. Points in it may stand for the low lines of its other names. -/
def Known.isNamed (known : Known) (normal : Text) : Bool :=
  known.name = String.ofList normal || known.aliases.contains (String.ofList normal) ||
    known.aliases.contains (String.ofList (Text.replaceChar '.' '_' normal))

/-- The codec that a name stands for. -/
def codec? (name : Text) : Option Codec :=
  (knownCodecs.find? (·.isNamed (normalName false false name))).map Known.codec

end Encoding

end SchemaDoc
