import SchemaDoc.Proofs.Block.Frame

/-!
Contract: reading a file again in which a block was replaced.

The file is stored in the encoding that it was read in, and its first two lines decide in which
encoding it is read again. The text that was stored is read exactly when they still decide on that
encoding (`write_reads_back_iff`). Removal can uncover a coding comment, and a rendered block can
hold one.
-/

namespace SchemaDoc.Block

open Encoding

variable {nameOf : Text → Option Nat} {isFull : Bool} {tree after : FileTree} {path : Path}
  {qualname block : Text}

theorem readSource_eq_ok_iff {text : Text} {declared : Declared} :
    readSource tree path = .ok (text, declared) ↔
      ∃ bytes, tree.read path = .ok bytes ∧ readBytes bytes = .ok (text, declared) := by
  unfold readSource
  cases tree.read path with
  | error fault => simp
  | ok bytes => simp

/-- Bytes that store a text are read as that text exactly when its encoding is found in them. -/
theorem readBytes_stored_iff {text : Text} {declared : Declared} {stored : Bytes}
    (faithful : declared.codec.IsFaithful) (encoded : declared.codec.encode text = some stored) :
    readBytes stored = .ok (text, declared) ↔ detect stored = .ok declared := by
  have storesText : declared.codec ≠ .bytesOnly := by
    intro noText
    rw [noText] at encoded
    exact absurd encoded (by simp [Codec.encode])
  rw [readBytes_eq_ok_iff]
  exact ⟨And.left, fun detected =>
    ⟨detected, storesText, Codec.decode_encode faithful encoded⟩⟩

/-- The texts that bytes store have the same first lines where the bytes have them. -/
theorem take_byteLines_eq {codec : Codec} (faithful : codec.IsFaithful) {text other : Text}
    {body otherBody : Bytes} (stores : codec.Stores text body)
    (otherStores : codec.Stores other otherBody) (count : Nat)
    (same : (Text.lines text).take count = (Text.lines other).take count) :
    (byteLines body).take count = (byteLines otherBody).take count := by
  have lines := List.forall₂_take count (stores.lines faithful)
  have otherLines := List.forall₂_take count (otherStores.lines faithful)
  rw [same] at lines
  revert lines otherLines
  generalize (Text.lines other).take count = texts
  generalize (byteLines body).take count = pieces, (byteLines otherBody).take count = otherPieces
  intro lines otherLines
  induction lines generalizing otherPieces with
  | nil =>
      cases otherLines
      rfl
  | cons first _ inductionHypothesis =>
      cases otherLines with
      | cons otherFirst others => rw [first.unique otherFirst, inductionHypothesis _ others]

/-- The mark is put in front of the first line. -/
theorem take_byteLines_mark (codec : Codec) {body other : Bytes}
    (same : (byteLines body).take 2 = (byteLines other).take 2) :
    (byteLines (codec.mark ++ body)).take 2 = (byteLines (codec.mark ++ other)).take 2 := by
  cases codec with
  | utf8Signed =>
      have joined := @byteLines_append signature (by decide) (by decide)
      rw [Codec.mark, joined body, joined other]
      revert same
      rcases byteLines body with - | ⟨first, - | ⟨second, others⟩⟩ <;>
        rcases byteLines other with - | ⟨first', - | ⟨second', others'⟩⟩ <;> simp
  | _ => exact same

/-- After a write the file holds what the replacement gave. The text is read again, in the encoding
that the file had, exactly when the first two lines of the new file decide on that encoding. They
do when they are those of the old file, behind the same mark, and when the file declared nothing
and they still declare nothing. -/
theorem write_reads_back_iff
    (written : write nameOf isFull tree path qualname block = (after, .ok true)) :
    ∃ original declared updated stored,
      readSource tree path = .ok (original, declared) ∧
      replace nameOf original qualname block = .ok updated ∧
      after.read path = .ok stored ∧
      (readSource after path = .ok (updated, declared) ↔
        detect ((byteLines stored).take 2).flatten = .ok declared) ∧
      ((∃ body, tree.read path = .ok (declared.codec.mark ++ body)) →
        (Text.lines updated).take 2 = (Text.lines original).take 2 →
        readSource after path = .ok (updated, declared)) ∧
      ∀ signed, declared = undeclared signed → signature.isPrefixOf stored = signed →
        (∀ line ∈ (Text.lines updated).take 2, cookie? line = none) →
        readSource after path = .ok (updated, declared) := by
  obtain ⟨bytes, original, declared, updated, isRead, decoded, replaced, result⟩ :=
    write_eq_ok written
  obtain ⟨stored, encoded, rfl⟩ : ∃ stored, declared.codec.encode updated = some stored ∧
      after = tree.write path stored := by
    rcases result with ⟨isChanged, -⟩ | ⟨-, stored, encoded, same⟩
    · exact absurd isChanged (by decide)
    · exact ⟨stored, encoded, same⟩
  obtain ⟨detected, storesText, isText⟩ := readBytes_eq_ok_iff.mp decoded
  have faithful := isFaithful_of_detect detected
  have readAfter : (tree.write path stored).read path = .ok stored := FileTree.read_write isRead
  have back : readSource (tree.write path stored) path = .ok (updated, declared) ↔
      detect stored = .ok declared := by
    rw [← readBytes_stored_iff faithful encoded, readSource_eq_ok_iff]
    simp only [readAfter, Except.ok.injEq, exists_eq_left']
  obtain ⟨body, stores, isStored⟩ := (Codec.encode_eq_some_iff storesText).mp encoded
  refine ⟨original, declared, updated, stored, readSource_eq_ok_iff.mpr ⟨bytes, isRead, decoded⟩,
    replaced, readAfter, by rw [detect_take, back], ?_, ?_⟩
  · rintro ⟨oldBody, isMarked⟩ sameLines
    obtain rfl := Except.ok.inj (isRead.symm.trans isMarked)
    have oldStores := (Codec.decode_eq_some_iff faithful storesText).mp isText
    rw [Codec.unmarked_mark_append] at oldStores
    have sameBytes := take_byteLines_eq faithful stores oldStores 2 sameLines
    rw [back, isStored, detect_congr (take_byteLines_mark declared.codec sameBytes), detected]
  · rintro signed rfl sameMark plain
    rw [isStored] at sameMark
    rw [back, isStored, detect_undeclared stores sameMark plain]

/-- The first two lines of the file stay. -/
theorem write_reads_back_sample :
    readSource (Sample.latinTree.write Sample.file (Sample.latin Sample.latinUpdated))
      Sample.file = .ok (Sample.latinUpdated, ⟨"iso-8859-1", .latin⟩) := by
  obtain ⟨original, declared, updated, stored, isRead, replaced, -, -, kept, -⟩ :=
    write_reads_back_iff Sample.write_latinTree
  have decoded : readSource Sample.latinTree Sample.file =
      .ok (Sample.latinSource, ⟨"iso-8859-1", .latin⟩) :=
    readSource_eq_ok_iff.mpr ⟨_, Sample.read_latinTree, Sample.readBytes_latinSource⟩
  obtain ⟨rfl, rfl⟩ := Prod.mk.inj (Except.ok.inj (decoded.symm.trans isRead))
  obtain rfl := Except.ok.inj (Sample.replace_latinSource.symm.trans replaced)
  exact kept ⟨_, Sample.read_latinTree⟩ (by decide)

namespace Sample

def namedClass (name : Text) : Text :=
  "class User:\n    name = '" ++ (name ++ "'\n".toList)

/-- A file whose old block stands above a coding comment. -/
def coveredSource : Text :=
  "# region model-doc: User\n# endregion model-doc\n# coding: latin-1\n" ++ namedClass "é"

/-- The file with a new block below the comment. -/
def uncoveredSource (name : Text) : Text :=
  "# coding: latin-1\n" ++ (Sample.block ++ namedClass name)

def coveredTree : FileTree := ⟨[(["m.py"], encodeUtf8 coveredSource)], []⟩

def uncoveredTree : FileTree := coveredTree.write file (encodeUtf8 (uncoveredSource "é"))

theorem read_coveredTree : coveredTree.read file = .ok (encodeUtf8 coveredSource) := by
  decide

theorem readBytes_coveredSource :
    readBytes (encodeUtf8 coveredSource) = .ok (coveredSource, undeclared false) :=
  (readBytes_stored_iff (isFaithful_undeclared false) rfl).mpr (by decide)

theorem replace_coveredSource :
    replace (fun _ => none) coveredSource className Sample.block =
      .ok (uncoveredSource "é") := by
  decide +kernel

theorem write_coveredTree :
    write (fun _ => none) false coveredTree file className Sample.block =
      (uncoveredTree, .ok true) :=
  write_of_replace read_coveredTree readBytes_coveredSource replace_coveredSource
    (by decide) rfl

theorem readBytes_uncoveredSource :
    readBytes (encodeUtf8 (uncoveredSource "é")) =
      .ok (uncoveredSource "Ã©", ⟨"iso-8859-1", .latin⟩) := by
  decide +kernel

end Sample

/-- Where removal uncovers a coding comment, the new file is read in another encoding than it was
stored in. -/
theorem write_uncovers_declaration :
    readSource Sample.coveredTree Sample.file =
        .ok (Sample.coveredSource, ⟨"utf-8", .utf8⟩) ∧
      replace (fun _ => none) Sample.coveredSource Sample.className Sample.block =
        .ok (Sample.uncoveredSource "é") ∧
      write (fun _ => none) false Sample.coveredTree Sample.file Sample.className Sample.block =
        (Sample.uncoveredTree, .ok true) ∧
      readSource Sample.uncoveredTree Sample.file =
        .ok (Sample.uncoveredSource "Ã©", ⟨"iso-8859-1", .latin⟩) ∧
      Sample.uncoveredSource "Ã©" ≠ Sample.uncoveredSource "é" :=
  ⟨readSource_eq_ok_iff.mpr ⟨_, Sample.read_coveredTree, Sample.readBytes_coveredSource⟩,
    Sample.replace_coveredSource, Sample.write_coveredTree,
    readSource_eq_ok_iff.mpr
      ⟨_, FileTree.read_write Sample.read_coveredTree, Sample.readBytes_uncoveredSource⟩,
    by decide⟩

end SchemaDoc.Block
