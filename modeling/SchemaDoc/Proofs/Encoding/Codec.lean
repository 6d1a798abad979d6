import Mathlib.Tactic.SplitIfs
import SchemaDoc.Encoding.Codec

/-!
Contract: what the codecs have in common.

Owns:
- `Codec.Stores`: every character is stored in bytes of its own, behind the mark of the codec;
- that a codec reads what it stores and stores what it reads (`Codec.encode_eq_some_iff`,
  `Codec.decode_eq_some_iff`);
- that the line feed is stored as one byte, which is part of no other character.
-/

namespace SchemaDoc.Encoding

/-! ## UTF-8 -/

theorem encodeUtf8_eq (text : Text) : encodeUtf8 text = text.flatMap String.utf8EncodeChar := by
  rw [encodeUtf8, String.toUTF8, String.toByteArray_ofList, List.utf8Encode,
    List.toList_data_toByteArray]

theorem decodeUtf8_eq_some_iff {bytes : Bytes} {text : Text} :
    decodeUtf8 bytes = some text ↔ encodeUtf8 text = bytes := by
  unfold decodeUtf8 encodeUtf8 String.fromUTF8?
  constructor
  · intro decoded
    split at decoded
    · obtain rfl := Option.some.inj decoded
      rw [String.ofList_toList, String.toUTF8]
      exact List.toList_data_toByteArray
    · exact absurd decoded (by simp)
  · rintro rfl
    have same : (String.ofList text).toUTF8.data.toList.toByteArray =
        (String.ofList text).toByteArray :=
      ByteArray.ext (by rw [String.toUTF8, List.data_toByteArray])
    have valid : ((String.ofList text).toUTF8.data.toList.toByteArray).IsValidUTF8 := by
      rw [same]
      exact (String.ofList text).isValidUTF8
    rw [dif_pos valid, Option.map_some]
    exact congrArg some
      ((congrArg String.toList (String.toByteArray_inj.mp same)).trans String.toList_ofList)

/-- The characters up to 127 are stored in one byte, and the others in bytes from 128 on. -/
theorem utf8EncodeChar_cases (c : Char) :
    c.toNat < 128 ∧ String.utf8EncodeChar c = [UInt8.ofNat c.toNat] ∨
      128 ≤ c.toNat ∧ ∀ byte ∈ String.utf8EncodeChar c, 128 ≤ byte.toNat := by
  have code : c.val.toNat = c.toNat := rfl
  unfold String.utf8EncodeChar
  simp only [code]
  by_cases small : c.toNat ≤ 127
  · rw [if_pos small]
    exact .inl ⟨by omega, rfl⟩
  · rw [if_neg small]
    refine .inr ⟨by omega, fun byte member => ?_⟩
    split_ifs at member <;>
      simp only [List.mem_cons, List.not_mem_nil, or_false] at member <;>
      rcases member with rfl | rfl | rfl | rfl <;>
      simp only [UInt8.toNat_ofNat'] <;> omega

/-! ## Tables -/

/-- Every entry of the table stands for one character of the upper half, and no two entries for
the same one. -/
def isFaithful (upper : List Nat) : Bool :=
  upper.length = 128 && upper.zipIdx.all fun entry =>
    entry.1 = 0 || 128 ≤ entry.1 && decide entry.1.isValidChar &&
      upper.findIdx? (· == entry.1) == some entry.2

theorem toNat_ofNat_byte {code : Nat} (small : code < 256) : (UInt8.ofNat code).toNat = code := by
  rw [UInt8.toNat_ofNat', Nat.mod_eq_of_lt small]

theorem toNat_ofNat_valid {code : Nat} (valid : code.isValidChar) :
    (Char.ofNat code).toNat = code := by
  rw [Char.ofNat, dif_pos valid]
  rfl

theorem toNat_ofNat_char {code : Nat} (small : code < 256) : (Char.ofNat code).toNat = code :=
  toNat_ofNat_valid (.inl (by omega))

section Table

variable {upper : List Nat} (faithful : isFaithful upper = true)
include faithful

theorem length_of_isFaithful : upper.length = 128 := by
  unfold isFaithful at faithful
  simp only [Bool.and_eq_true, decide_eq_true_eq] at faithful
  exact faithful.1

theorem entry_of_isFaithful {index code : Nat} (entry : upper[index]? = some code) :
    code = 0 ∨ 128 ≤ code ∧ code.isValidChar ∧ upper.findIdx? (· == code) = some index := by
  unfold isFaithful at faithful
  simp only [Bool.and_eq_true, List.all_eq_true] at faithful
  have checked := faithful.2 (code, index) (List.mk_mem_zipIdx_iff_getElem?.mpr entry)
  simp only [Bool.or_eq_true, Bool.and_eq_true, decide_eq_true_eq, beq_iff_eq] at checked
  rcases checked with isZero | ⟨⟨isUpper, isValid⟩, first⟩
  · exact .inl isZero
  · exact .inr ⟨isUpper, isValid, first⟩

theorem tableByte_of_tableChar {byte : UInt8} {c : Char}
    (decoded : tableChar upper byte = some c) : tableByte upper c = some byte := by
  have range := byte.toNat_lt
  unfold tableChar at decoded
  unfold tableByte
  split at decoded
  · next lower =>
      obtain rfl := Option.some.inj decoded
      rw [toNat_ofNat_char (by omega), if_pos lower, UInt8.ofNat_toNat]
  · next notLower =>
      split at decoded
      · exact absurd decoded (by simp)
      · next code nonzero entry =>
          obtain rfl := Option.some.inj decoded
          rcases entry_of_isFaithful faithful entry with isZero | ⟨isUpper, isValid, first⟩
          · exact absurd isZero nonzero
          · rw [toNat_ofNat_valid isValid, if_neg (by omega), first, Option.map_some,
              Nat.sub_add_cancel (by omega), UInt8.ofNat_toNat]
      · exact absurd decoded (by simp)

theorem tableChar_of_tableByte {byte : UInt8} {c : Char}
    (encoded : tableByte upper c = some byte) : tableChar upper byte = some c := by
  unfold tableByte at encoded
  unfold tableChar
  split at encoded
  · next lower =>
      obtain rfl := Option.some.inj encoded
      rw [toNat_ofNat_byte (by omega), if_pos lower, Char.ofNat_toNat]
  · next notLower =>
      obtain ⟨index, first, rfl⟩ := Option.map_eq_some_iff.mp encoded
      obtain ⟨inside, found, -⟩ := List.findIdx?_eq_some_iff_getElem.mp first
      have below : index < 128 := by rwa [length_of_isFaithful faithful] at inside
      rw [toNat_ofNat_byte (by omega), if_neg (by omega), Nat.add_sub_cancel,
        List.getElem?_eq_getElem inside, beq_iff_eq.mp found]
      split
      · next isZero =>
          have zero := Option.some.inj isZero
          omega
      · next code _ isCode => rw [← Option.some.inj isCode, Char.ofNat_toNat]
      · next absent => exact absurd absent (by simp)

end Table

/-- The codes stand for characters of the upper half, each of them for another one, and none of them was
seen before. Those that were seen are the bits of a number. -/
def areNew (seen : Nat) : List Nat → Bool
  | [] => true
  | code :: rest =>
    if code = 0 then areNew seen rest
    else 128 ≤ code && decide code.isValidChar && !seen.testBit code &&
      areNew (seen ||| 1 <<< code) rest

theorem testBit_mark (seen code other : Nat) :
    (seen ||| 1 <<< code).testBit other = (seen.testBit other || decide (code = other)) := by
  rw [Nat.testBit_or, Nat.one_shiftLeft, Nat.testBit_two_pow]

theorem forall_mem_of_areNew {seen : Nat} {upper : List Nat} (new : areNew seen upper = true) :
    ∀ code ∈ upper, code = 0 ∨ 128 ≤ code ∧ code.isValidChar ∧ seen.testBit code = false := by
  induction upper generalizing seen with
  | nil => simp
  | cons first rest inductionHypothesis =>
      rw [areNew] at new
      rw [List.forall_mem_cons]
      split at new
      · next isZero => exact ⟨.inl isZero, inductionHypothesis new⟩
      · simp only [Bool.and_eq_true, decide_eq_true_eq, Bool.not_eq_true'] at new
        obtain ⟨⟨⟨isUpper, isValid⟩, unseen⟩, later⟩ := new
        refine ⟨.inr ⟨isUpper, isValid, unseen⟩, fun code member => ?_⟩
        refine (inductionHypothesis later code member).imp_right ?_
        intro ⟨codeIsUpper, codeIsValid, codeUnseen⟩
        rw [testBit_mark, Bool.or_eq_false_iff] at codeUnseen
        exact ⟨codeIsUpper, codeIsValid, codeUnseen.1⟩

theorem pairwise_of_areNew {seen : Nat} {upper : List Nat} (new : areNew seen upper = true) :
    upper.Pairwise fun code other => other = 0 ∨ code ≠ other := by
  induction upper generalizing seen with
  | nil => exact .nil
  | cons first rest inductionHypothesis =>
      rw [areNew] at new
      split at new
      · next isZero =>
          refine .cons (fun other _ => ?_) (inductionHypothesis new)
          by_cases otherIsZero : other = 0
          · exact .inl otherIsZero
          · exact .inr fun same => otherIsZero (same.symm.trans isZero)
      · have later := (Bool.and_eq_true_iff.mp new).2
        refine .cons (fun other member => ?_) (inductionHypothesis later)
        refine (forall_mem_of_areNew later other member).imp_right ?_
        intro ⟨_, _, unseen⟩
        rw [testBit_mark, Bool.or_eq_false_iff] at unseen
        exact of_decide_eq_false unseen.2

theorem isFaithful_of_areNew {upper : List Nat} (length : upper.length = 128)
    (new : areNew 0 upper = true) : isFaithful upper = true := by
  have apart := List.pairwise_iff_getElem.mp (pairwise_of_areNew new)
  unfold isFaithful
  simp only [Bool.and_eq_true, decide_eq_true_eq, List.all_eq_true, Bool.or_eq_true, beq_iff_eq]
  refine ⟨length, fun ⟨code, index⟩ member => ?_⟩
  obtain ⟨inside, isCode⟩ := List.getElem?_eq_some_iff.mp (List.mk_mem_zipIdx_iff_getElem?.mp member)
  rcases forall_mem_of_areNew new code (isCode ▸ List.getElem_mem inside) with
    isZero | ⟨isUpper, isValid, -⟩
  · exact .inl isZero
  · refine .inr ⟨⟨isUpper, isValid⟩, List.findIdx?_eq_some_iff_getElem.mpr ⟨inside, ?_, ?_⟩⟩
    · exact beq_iff_eq.mpr isCode
    · intro before isBefore same
      have differ := apart before index (by omega) inside isBefore
      rw [beq_iff_eq] at same
      rw [same, isCode] at differ
      rcases differ with isZero | differ
      · omega
      · exact differ rfl

theorem isFaithful_byteTables : ∀ table ∈ byteTables, isFaithful table.upper = true := by
  have checked : byteTables.all (fun table => table.upper.length == 128 && areNew 0 table.upper) =
      true := by decide +kernel
  intro table member
  obtain ⟨length, new⟩ := Bool.and_eq_true_iff.mp (List.all_eq_true.mp checked table member)
  exact isFaithful_of_areNew (beq_iff_eq.mp length) new

/-! ## Codecs of one byte for a character -/

namespace Codec

/-- The byte of a character. -/
def byte? : Codec → Char → Option UInt8
  | .latin, c => if c.toNat < 256 then some (UInt8.ofNat c.toNat) else none
  | .ascii, c => if c.toNat < 128 then some (UInt8.ofNat c.toNat) else none
  | .table upper, c => tableByte upper c
  | _, _ => none

/-- The character of a byte. -/
def char? : Codec → UInt8 → Option Char
  | .latin, byte => if byte.toNat < 256 then some (Char.ofNat byte.toNat) else none
  | .ascii, byte => if byte.toNat < 128 then some (Char.ofNat byte.toNat) else none
  | .table upper, byte => tableChar upper byte
  | _, _ => none

/-- The codec stores each character in one byte. -/
def IsSingle : Codec → Prop
  | .latin | .ascii | .table _ => True
  | _ => False

/-- The table of the codec, if it has one, stands for characters without doubt. -/
def IsFaithful : Codec → Prop
  | .table upper => isFaithful upper = true
  | _ => True

/-- The bytes below a bound stand for the characters below it. -/
theorem below_eq_some_iff {bound : Nat} (small : bound ≤ 256) {byte : UInt8} {c : Char} :
    (if byte.toNat < bound then some (Char.ofNat byte.toNat) else none) = some c ↔
      (if c.toNat < bound then some (UInt8.ofNat c.toNat) else none) = some byte := by
  simp only [Option.ite_none_right_eq_some, Option.some.injEq]
  constructor
  · rintro ⟨below, rfl⟩
    rw [toNat_ofNat_char (by omega)]
    exact ⟨below, UInt8.ofNat_toNat⟩
  · rintro ⟨below, rfl⟩
    rw [toNat_ofNat_byte (by omega)]
    exact ⟨below, Char.ofNat_toNat c⟩

theorem char?_eq_some_iff {codec : Codec} (faithful : codec.IsFaithful) {byte : UInt8} {c : Char} :
    codec.char? byte = some c ↔ codec.byte? c = some byte := by
  cases codec with
  | latin => exact below_eq_some_iff (Nat.le_refl 256)
  | ascii => exact below_eq_some_iff (by decide)
  | table upper => exact ⟨tableByte_of_tableChar faithful, tableChar_of_tableByte faithful⟩
  | _ => simp [char?, byte?]

theorem mapM_below {α β : Type} (code : α → Nat) (bound : Nat) (f : α → β) (items : List α) :
    items.mapM (fun item => if code item < bound then some (f item) else none) =
      if items.all (code · < bound) then some (items.map f) else none := by
  induction items with
  | nil => rfl
  | cons item items inductionHypothesis =>
      rw [List.mapM_cons, inductionHypothesis, List.all_cons, List.map_cons]
      by_cases below : code item < bound
      · cases items.all (code · < bound) <;> simp [below]
      · simp [below]

theorem mapM_eq_some_iff {α β : Type} {f : α → Option β} {g : β → Option α}
    (inverse : ∀ item image, f item = some image ↔ g image = some item) {items : List α}
    {images : List β} : items.mapM f = some images ↔ images.mapM g = some items := by
  induction items generalizing images with
  | nil =>
      cases images with
      | nil => simp
      | cons image images => simp [Option.bind_eq_some_iff]
  | cons item items inductionHypothesis =>
      cases images with
      | nil => simp [Option.bind_eq_some_iff]
      | cons image images =>
          simp [Option.bind_eq_some_iff, inverse, inductionHypothesis]

theorem IsSingle.encode_eq {codec : Codec} (single : codec.IsSingle) (text : Text) :
    codec.encode text = text.mapM codec.byte? := by
  cases codec with
  | latin => exact (mapM_below Char.toNat 256 _ text).symm
  | ascii => exact (mapM_below Char.toNat 128 _ text).symm
  | table upper => rfl
  | _ => exact absurd single id

theorem IsSingle.decode_eq {codec : Codec} (single : codec.IsSingle) (bytes : Bytes) :
    codec.decode bytes = bytes.mapM codec.char? := by
  cases codec with
  | latin =>
      refine Eq.trans ?_ (mapM_below UInt8.toNat 256 _ bytes).symm
      rw [if_pos (List.all_eq_true.mpr fun byte _ => decide_eq_true byte.toNat_lt)]
      rfl
  | ascii => exact (mapM_below UInt8.toNat 128 _ bytes).symm
  | table upper => rfl
  | _ => exact absurd single id

/-! ## Stored texts -/

/-- The mark that the codec writes in front of a text. -/
def mark : Codec → Bytes
  | .utf8Signed => signature
  | _ => []

/-- What follows the mark, if the bytes begin with it. -/
def unmarked : Codec → Bytes → Bytes
  | .utf8Signed, bytes =>
    if signature.isPrefixOf bytes then bytes.drop signature.length else bytes
  | _, bytes => bytes

/-- The bytes of a character. -/
def charBytes? : Codec → Char → Option Bytes
  | .utf8, c => some (String.utf8EncodeChar c)
  | .utf8Signed, c => some (String.utf8EncodeChar c)
  | codec, c => (codec.byte? c).map fun byte => [byte]

/-- The bytes store the text, character by character and without a mark. -/
inductive Stores (codec : Codec) : Text → Bytes → Prop
  | nil : Stores codec [] []
  | cons {c : Char} {text : Text} {stored bytes : Bytes} : codec.charBytes? c = some stored →
      Stores codec text bytes → Stores codec (c :: text) (stored ++ bytes)

variable {codec : Codec} {c : Char} {text : Text} {stored bytes : Bytes}

theorem stores_cons_iff : codec.Stores (c :: text) bytes ↔
    ∃ stored rest, codec.charBytes? c = some stored ∧ codec.Stores text rest ∧
      bytes = stored ++ rest := by
  constructor
  · intro stores
    cases stores with
    | cons char rest => exact ⟨_, _, char, rest, rfl⟩
  · rintro ⟨stored, rest, char, stores, rfl⟩
    exact .cons char stores

theorem stores_nil_iff : codec.Stores [] bytes ↔ bytes = [] := by
  constructor
  · intro stores
    cases stores
    rfl
  · rintro rfl
    exact .nil

/-- The codec stores each character in its UTF-8 form. -/
def IsWide : Codec → Prop
  | .utf8 | .utf8Signed => True
  | _ => False

theorem IsWide.charBytes?_eq (wide : codec.IsWide) (c : Char) :
    codec.charBytes? c = some (String.utf8EncodeChar c) := by
  cases codec with
  | utf8 | utf8Signed => rfl
  | _ => exact absurd wide id

theorem IsWide.stores_iff (wide : codec.IsWide) :
    codec.Stores text bytes ↔ encodeUtf8 text = bytes := by
  rw [encodeUtf8_eq]
  induction text generalizing bytes with
  | nil => rw [stores_nil_iff, List.flatMap_nil, eq_comm]
  | cons c text inductionHypothesis =>
      simp only [stores_cons_iff, wide.charBytes?_eq, inductionHypothesis, List.flatMap_cons,
        Option.some.injEq]
      constructor
      · rintro ⟨stored, rest, rfl, rfl, rfl⟩
        rfl
      · rintro rfl
        exact ⟨_, _, rfl, rfl, rfl⟩

theorem IsSingle.charBytes?_eq (single : codec.IsSingle) (c : Char) :
    codec.charBytes? c = (codec.byte? c).map fun byte => [byte] := by
  cases codec with
  | utf8 | utf8Signed => exact absurd single id
  | _ => rfl

theorem IsSingle.stores_iff (single : codec.IsSingle) :
    codec.Stores text bytes ↔ text.mapM codec.byte? = some bytes := by
  induction text generalizing bytes with
  | nil => simp [stores_nil_iff, eq_comm]
  | cons c text inductionHypothesis =>
      simp only [stores_cons_iff, single.charBytes?_eq, inductionHypothesis, List.mapM_cons,
        Option.map_eq_some_iff, Option.bind_eq_bind, Option.bind_eq_some_iff, pure]
      constructor
      · rintro ⟨stored, rest, ⟨byte, isByte, rfl⟩, areRest, rfl⟩
        exact ⟨byte, isByte, rest, areRest, rfl⟩
      · rintro ⟨byte, isByte, rest, areRest, isBytes⟩
        exact ⟨[byte], rest, ⟨byte, isByte, rfl⟩, areRest, (Option.some.inj isBytes).symm⟩

theorem isWide_or_isSingle (storesText : codec ≠ .bytesOnly) : codec.IsWide ∨ codec.IsSingle := by
  cases codec with
  | utf8 | utf8Signed => exact .inl trivial
  | latin | ascii | table => exact .inr trivial
  | bytesOnly => exact absurd rfl storesText

theorem IsSingle.mark_eq (single : codec.IsSingle) : codec.mark = [] := by
  cases codec with
  | utf8 | utf8Signed => exact absurd single id
  | _ => rfl

theorem IsSingle.unmarked_eq (single : codec.IsSingle) (bytes : Bytes) :
    codec.unmarked bytes = bytes := by
  cases codec with
  | utf8 | utf8Signed => exact absurd single id
  | _ => rfl

theorem IsWide.encode_eq (wide : codec.IsWide) (text : Text) :
    codec.encode text = some (codec.mark ++ encodeUtf8 text) := by
  cases codec with
  | utf8 | utf8Signed => rfl
  | _ => exact absurd wide id

theorem IsWide.decode_eq (wide : codec.IsWide) (bytes : Bytes) :
    codec.decode bytes = decodeUtf8 (codec.unmarked bytes) := by
  cases codec with
  | utf8 | utf8Signed => rfl
  | _ => exact absurd wide id

theorem unmarked_mark_append (codec : Codec) (body : Bytes) :
    codec.unmarked (codec.mark ++ body) = body := by
  cases codec with
  | utf8Signed =>
      rw [unmarked, mark, if_pos (by simp)]
      exact List.drop_left
  | _ => rfl

/-- A text is stored behind the mark. -/
theorem encode_eq_some_iff (storesText : codec ≠ .bytesOnly) :
    codec.encode text = some bytes ↔ ∃ body, codec.Stores text body ∧ bytes = codec.mark ++ body := by
  rcases isWide_or_isSingle storesText with wide | single
  · simp [wide.encode_eq, wide.stores_iff, eq_comm]
  · simp [single.encode_eq, single.stores_iff, single.mark_eq]

/-- Bytes are read as the text that they store. -/
theorem decode_eq_some_iff (faithful : codec.IsFaithful) (storesText : codec ≠ .bytesOnly) :
    codec.decode bytes = some text ↔ codec.Stores text (codec.unmarked bytes) := by
  rcases isWide_or_isSingle storesText with wide | single
  · rw [wide.decode_eq, wide.stores_iff, decodeUtf8_eq_some_iff]
  · rw [single.decode_eq, single.stores_iff, single.unmarked_eq]
    exact mapM_eq_some_iff fun _ _ => char?_eq_some_iff faithful

/-- What a codec stores it reads again. -/
theorem decode_encode (faithful : codec.IsFaithful) (encoded : codec.encode text = some bytes) :
    codec.decode bytes = some text := by
  have storesText : codec ≠ .bytesOnly := by
    rintro rfl
    exact absurd encoded (by simp [encode])
  obtain ⟨body, stores, rfl⟩ := (encode_eq_some_iff storesText).mp encoded
  rw [decode_eq_some_iff faithful storesText, unmarked_mark_append]
  exact stores

/-! ## Parts of a text -/

theorem stores_append_iff {front back : Text} : codec.Stores (front ++ back) bytes ↔
    ∃ frontBytes backBytes, codec.Stores front frontBytes ∧ codec.Stores back backBytes ∧
      bytes = frontBytes ++ backBytes := by
  induction front generalizing bytes with
  | nil => simp [stores_nil_iff]
  | cons c front inductionHypothesis =>
      simp only [List.cons_append, stores_cons_iff, inductionHypothesis]
      constructor
      · rintro ⟨stored, rest, isStored, ⟨frontBytes, backBytes, first, second, rfl⟩, rfl⟩
        exact ⟨stored ++ frontBytes, backBytes, ⟨stored, frontBytes, isStored, first, rfl⟩, second,
          (List.append_assoc ..).symm⟩
      · rintro ⟨-, backBytes, ⟨stored, frontBytes, isStored, first, rfl⟩, second, rfl⟩
        exact ⟨stored, frontBytes ++ backBytes, isStored,
          ⟨frontBytes, backBytes, first, second, rfl⟩, List.append_assoc ..⟩

theorem Stores.unique {other : Bytes} (first : codec.Stores text bytes)
    (second : codec.Stores text other) : bytes = other := by
  induction first generalizing other with
  | nil => exact (stores_nil_iff.mp second).symm
  | cons isStored _ inductionHypothesis =>
      obtain ⟨stored, rest, isOther, stores, rfl⟩ := stores_cons_iff.mp second
      rw [Option.some.inj (isStored.symm.trans isOther), inductionHypothesis stores]

theorem IsSingle.byte?_feed (single : codec.IsSingle) : codec.byte? '\n' = some 10 := by
  cases codec with
  | latin | ascii | table => rfl
  | _ => exact absurd single id

/-- The line feed is stored as one byte, which is part of no other character. -/
theorem charBytes?_feed (faithful : codec.IsFaithful)
    (isStored : codec.charBytes? c = some stored) :
    stored ≠ [] ∧ (c = '\n' → stored = [10]) ∧ (c ≠ '\n' → 10 ∉ stored) := by
  have storesText : codec ≠ .bytesOnly := by
    rintro rfl
    exact absurd isStored (by simp [charBytes?, byte?])
  rcases isWide_or_isSingle storesText with wide | single
  · obtain rfl := Option.some.inj ((wide.charBytes?_eq c).symm.trans isStored)
    refine ⟨String.utf8EncodeChar_ne_nil, fun isFeed => isFeed ▸ rfl, fun other member => ?_⟩
    rcases utf8EncodeChar_cases c with ⟨small, isByte⟩ | ⟨-, large⟩
    · rw [isByte, List.mem_singleton, ← UInt8.toNat_inj, toNat_ofNat_byte (by omega)] at member
      exact other (by rw [← Char.ofNat_toNat c, ← member]; rfl)
    · exact absurd (large 10 member) (by decide)
  · rw [single.charBytes?_eq] at isStored
    obtain ⟨byte, isByte, rfl⟩ := Option.map_eq_some_iff.mp isStored
    refine ⟨by simp, ?_, fun other member => ?_⟩
    · rintro rfl
      rw [Option.some.inj (isByte.symm.trans single.byte?_feed)]
    · obtain rfl := List.mem_singleton.mp member
      have isChar := (char?_eq_some_iff faithful).mpr isByte
      exact other (Option.some.inj
        (isChar.symm.trans ((char?_eq_some_iff faithful).mpr single.byte?_feed)))

end Codec

end SchemaDoc.Encoding
