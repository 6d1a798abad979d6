import SchemaDoc.Encoding.Codec
import SchemaDoc.Text.Quoted

/-!
Contract: where bytes that store no text go wrong.

The first bytes that are no character decide. In UTF-8 these are the bytes of a character that was
begun, up to the one that cannot go on with it; in the other encodings it is always one byte.
-/

namespace SchemaDoc.Encoding

/-- The first bytes that are no character. -/
structure Flaw where
  codecName : Text
  position : Nat
  bytes : Bytes
  reason : Text
deriving DecidableEq, Repr

/-- The text of a flaw. -/
def Flaw.message (flaw : Flaw) : Text :=
  let place : Text := match flaw.bytes with
    | [byte] => "byte 0x" ++ Text.hexadecimal 2 byte.toNat ++ " in position " ++
        Text.ofNat flaw.position
    | bytes => "bytes in position " ++ Text.ofNat flaw.position ++ "-" ++
        Text.ofNat (flaw.position + bytes.length - 1)
  "'" ++ flaw.codecName ++ "' codec can't decode " ++ place ++ ": " ++ flaw.reason

/-- The ranges of the bytes that follow the first byte of a character in UTF-8, if that byte can
begin one. -/
def followers? (first : Nat) : Option (List (Nat × Nat)) :=
  let any := (0x80, 0xBF)
  if first < 0x80 then some []
  else if 0xC2 ≤ first && first < 0xE0 then some [any]
  else if first = 0xE0 then some [(0xA0, 0xBF), any]
  else if first = 0xED then some [(0x80, 0x9F), any]
  else if 0xE1 ≤ first && first < 0xF0 then some [any, any]
  else if first = 0xF0 then some [(0x90, 0xBF), any, any]
  else if 0xF1 ≤ first && first < 0xF4 then some [any, any, any]
  else if first = 0xF4 then some [(0x80, 0x8F), any, any]
  else none

/-- How many bytes lie in the ranges given for them, one after the other. -/
def countFollowing : List (Nat × Nat) → Bytes → Nat
  | (low, high) :: ranges, byte :: rest =>
    if low ≤ byte.toNat && byte.toNat ≤ high then countFollowing ranges rest + 1 else 0
  | _, _ => 0

/-- The first flaw of bytes in UTF-8 behind a position; the first `skip` bytes belong to a character
that was read. -/
def utf8Flaw (position skip : Nat) : Bytes → Option Flaw
  | [] => none
  | byte :: rest =>
    match skip with
    | skip + 1 => utf8Flaw (position + 1) skip rest
    | 0 =>
      match followers? byte.toNat with
      | none => some ⟨"utf-8", position, [byte], "invalid start byte"⟩
      | some ranges =>
        let count := countFollowing ranges rest
        if count = ranges.length then utf8Flaw (position + 1) count rest
        else
          let reason : Text :=
            if count = rest.length then "unexpected end of data" else "invalid continuation byte"
          some ⟨"utf-8", position, byte :: rest.take count, reason⟩

/-- The first byte, behind a position, that stands for no character. -/
def byteFlaw (codecName reason : Text) (stands : UInt8 → Bool) (position : Nat) :
    Bytes → Option Flaw
  | [] => none
  | byte :: rest =>
    if stands byte then byteFlaw codecName reason stands (position + 1) rest
    else some ⟨codecName, position, [byte], reason⟩

/-- Where bytes that a codec cannot read go wrong. -/
def Codec.flaw? (codec : Codec) (bytes : Bytes) : Option Flaw :=
  match codec with
  | .utf8 => utf8Flaw 0 0 bytes
  | .utf8Signed =>
    utf8Flaw 0 0 (if signature.isPrefixOf bytes then bytes.drop signature.length else bytes)
  | .ascii => byteFlaw "ascii" "ordinal not in range(128)" (fun byte => byte.toNat < 128) 0 bytes
  | .table upper =>
    byteFlaw "charmap" "character maps to <undefined>" (fun byte => (tableChar upper byte).isSome)
      0 bytes
  | _ => none

end SchemaDoc.Encoding
