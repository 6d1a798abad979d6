import SchemaDoc.Proofs.Block.Replacement
import SchemaDoc.Proofs.Encoding.Cookie
import SchemaDoc.Proofs.FileTree

/-!
Contract: the bytes of a file in which a block is replaced.

The new contents are the old ones without the bytes of the lines that removal takes, with the bytes
of the new block in front of those of its class (`Frame`). A file stays as it is when it cannot be
read, rewritten or stored, and when the block is there already; other files stay as they are
(`write_frame`).
-/

namespace SchemaDoc.Block

open Encoding

/-! ## The lines that removal keeps -/

/-- The items whose mark is set. -/
def select {α : Type} : List Bool → List α → List α
  | true :: marks, item :: items => item :: select marks items
  | false :: marks, _ :: items => select marks items
  | _, _ => []

/-- For each line whether removal keeps it; the first `skip` lines belong to a block. -/
def keptMarks (qualname : Text) : Nat → List Text → List Bool
  | _, [] => []
  | skip + 1, _ :: rest => false :: keptMarks qualname skip rest
  | 0, line :: rest =>
    if isBegin qualname line then
      match afterEnd? rest with
      | some remaining => false :: keptMarks qualname (rest.length - remaining.length) rest
      | none => true :: keptMarks qualname 0 rest
    else true :: keptMarks qualname 0 rest

/-- The items that belong to the lines that removal keeps. -/
def keptItems {α : Type} (qualname : Text) (lines : List Text) (items : List α) : List α :=
  select (keptMarks qualname 0 lines) items

theorem select_skipped (qualname : Text) (front rest : List Text) :
    select (keptMarks qualname front.length (front ++ rest)) (front ++ rest) =
      select (keptMarks qualname 0 rest) rest := by
  induction front with
  | nil => rfl
  | cons line front inductionHypothesis => exact inductionHypothesis

theorem keptItems_lines (qualname : Text) (lines : List Text) :
    keptItems qualname lines lines = stripLines qualname lines := by
  unfold keptItems
  induction lines using stripLines_induction qualname with
  | nil => rfl
  | closed line rest remaining begins found inductionHypothesis =>
      obtain ⟨comments, closing, rfl, -⟩ := split_of_afterEnd? found
      have size : (comments ++ closing :: remaining).length - remaining.length =
          (comments ++ [closing]).length := by
        simp only [List.length_append, List.length_cons, List.length_nil]
        omega
      simp only [keptMarks, if_pos begins, found, select, size]
      rw [List.append_cons comments closing remaining, select_skipped]
      exact inductionHypothesis
  | kept line rest kept inductionHypothesis =>
      have isKept : keptMarks qualname 0 (line :: rest) = true :: keptMarks qualname 0 rest := by
        rw [keptMarks]
        split
        · next begins => rw [kept begins]
        · rfl
      rw [isKept, select, inductionHypothesis]

theorem forall₂_select {α β : Type} {relation : α → β → Prop} {items : List α} {images : List β}
    (related : List.Forall₂ relation items images) (marks : List Bool) :
    List.Forall₂ relation (select marks items) (select marks images) := by
  induction related generalizing marks with
  | nil => cases marks with
    | nil => exact .nil
    | cons mark marks => cases mark <;> exact .nil
  | cons first _ inductionHypothesis =>
      cases marks with
      | nil => exact .nil
      | cons mark marks =>
          cases mark with
          | false => exact inductionHypothesis marks
          | true => exact .cons first (inductionHypothesis marks)

/-! ## Runs that succeed -/

theorem readBytes_eq_ok_iff {bytes : Bytes} {text : Text} {declared : Declared} :
    readBytes bytes = .ok (text, declared) ↔ detect bytes = .ok declared ∧
      declared.codec ≠ .bytesOnly ∧ declared.codec.decode bytes = some text := by
  unfold readBytes
  cases detect bytes with
  | error fault => simp
  | ok found =>
      by_cases noText : found.codec = .bytesOnly
      · simp only [noText, if_pos]
        constructor
        · exact fun isRead => absurd isRead (by simp)
        · rintro ⟨isFound, storesText, -⟩
          obtain rfl := Except.ok.inj isFound
          exact absurd noText storesText
      · simp only [if_neg noText]
        constructor
        · intro isRead
          split at isRead
          · next decoded =>
              obtain ⟨rfl, rfl⟩ := Prod.mk.inj (Except.ok.inj isRead)
              exact ⟨rfl, noText, decoded⟩
          · exact absurd isRead (by simp)
        · rintro ⟨isFound, -, decoded⟩
          obtain rfl := Except.ok.inj isFound
          rw [decoded]

variable {nameOf : Text → Option Nat} {bytes stored : Bytes} {qualname block : Text}

theorem rewrite?_eq_ok {change : Option Bytes}
    (rewritten : rewrite? nameOf bytes qualname block = .ok change) :
    ∃ original declared updated, readBytes bytes = .ok (original, declared) ∧
      replace nameOf original qualname block = .ok updated ∧
      (change = none ∧ updated = original ∨
        ∃ stored, change = some stored ∧ declared.codec.encode updated = some stored) := by
  cases rewrite?_eq_iff.mp rewritten with
  | same isRead replaced => exact ⟨_, _, _, isRead, replaced, .inl ⟨rfl, rfl⟩⟩
  | stored isRead replaced _ encoded =>
      exact ⟨_, _, _, isRead, replaced, .inr ⟨_, rfl, encoded⟩⟩

/-! ## The frame of a write -/

/-- The parts of the new contents of a file: what stands in front of the new block, the block, and
what follows it. `body` holds the old contents behind the mark of the codec. -/
structure Frame (locate : Text → Text → Except PlacementFault Nat) (codec : Codec)
    (qualname block original : Text) (body front added back : Bytes) : Prop where
  /-- The lines of the old bytes store the lines of the old text. -/
  lines : List.Forall₂ codec.Stores (Text.lines original) (byteLines body)
  /-- Around the block stand the old bytes, those of the removed lines taken out. -/
  kept : front ++ back =
    codec.mark ++ (keptItems qualname (Text.lines original) (byteLines body)).flatten
  /-- The bytes of the block stand in front of those of the definition of the class. -/
  placed : ∃ above statement below,
    StartsAt locate (strip qualname original) qualname above statement below ∧
      codec.encode above.flatten = some front ∧
      codec.Stores (linesAbove statement block).flatten added ∧
      codec.Stores (statement :: below).flatten back

/-- What replaces the contents of a file is framed by them. -/
theorem exists_frame {locate : Text → Text → Except PlacementFault Nat} {codec : Codec}
    {original updated : Text} {body : Bytes} (faithful : codec.IsFaithful)
    (storesText : codec ≠ .bytesOnly) (stores : codec.Stores original body)
    (replaced : replaceWith locate original qualname block = .ok updated)
    (encoded : codec.encode updated = some stored) :
    ∃ front added back, Frame locate codec qualname block original body front added back ∧
      stored = front ++ (added ++ back) := by
  obtain ⟨above, statement, below, starts, rfl⟩ := insertWith_eq_ok_iff.mp replaced
  obtain ⟨updatedBody, updatedStores, rfl⟩ := (Codec.encode_eq_some_iff storesText).mp encoded
  rw [List.flatten_append, List.flatten_append] at updatedStores
  obtain ⟨front, rest, storesAbove, storesRest, rfl⟩ := Codec.stores_append_iff.mp updatedStores
  obtain ⟨added, back, storesBlock, storesBelow, rfl⟩ := Codec.stores_append_iff.mp storesRest
  have lines := stores.lines faithful
  have storesKept := Codec.Stores.flatten
    (forall₂_select lines (keptMarks qualname 0 (Text.lines original)))
  have split := starts.split
  rw [lines_strip, ← keptItems_lines] at split
  rw [← keptItems, split, List.flatten_append] at storesKept
  have joined : codec.Stores (above.flatten ++ (statement :: below).flatten) (front ++ back) :=
    Codec.stores_append_iff.mpr ⟨front, back, storesAbove, storesBelow, rfl⟩
  refine ⟨codec.mark ++ front, added, back, ⟨lines, ?_, above, statement, below, starts, ?_,
    storesBlock, storesBelow⟩, (List.append_assoc ..).symm⟩
  · rw [List.append_assoc, joined.unique storesKept]
    rfl
  · exact (Codec.encode_eq_some_iff storesText).mpr ⟨front, storesAbove, rfl⟩

section Write

variable {isFull : Bool} {tree after : FileTree} {path : Path}

/-- What a write does: it fails before anything changes, finds nothing to change, empties the file of
a full disk, or stores the rewritten file. -/
inductive WriteForm (nameOf : Text → Option Nat) (isFull : Bool) (tree : FileTree) (path : Path)
    (qualname block : Text) : FileTree → Except WriteFault Bool → Prop
  | failed {fault : WriteFault} : WriteForm nameOf isFull tree path qualname block tree (.error fault)
  | kept {bytes : Bytes} : tree.read path = .ok bytes →
      rewrite? nameOf bytes qualname block = .ok none →
      WriteForm nameOf isFull tree path qualname block tree (.ok false)
  | emptied {bytes : Bytes} : tree.read path = .ok bytes → isFull = true →
      WriteForm nameOf isFull tree path qualname block (tree.write path []) (.error (.access .full))
  | stored {bytes contents : Bytes} : tree.read path = .ok bytes →
      rewrite? nameOf bytes qualname block = .ok (some contents) →
      WriteForm nameOf isFull tree path qualname block (tree.write path contents) (.ok true)

theorem write_cases {outcome : Except WriteFault Bool}
    (written : write nameOf isFull tree path qualname block = (after, outcome)) :
    WriteForm nameOf isFull tree path qualname block after outcome := by
  unfold write at written
  split at written
  · obtain ⟨rfl, rfl⟩ := Prod.mk.inj written
    exact .failed
  · next bytes isRead =>
      split at written
      · obtain ⟨rfl, rfl⟩ := Prod.mk.inj written
        exact .failed
      · next rewritten =>
          obtain ⟨rfl, rfl⟩ := Prod.mk.inj written
          exact .kept isRead rewritten
      · next contents rewritten =>
          split at written
          · next full =>
              obtain ⟨rfl, rfl⟩ := Prod.mk.inj written
              exact .emptied isRead (Bool.and_eq_true_iff.mp full).1
          · obtain ⟨rfl, rfl⟩ := Prod.mk.inj written
            exact .stored isRead rewritten

/-- A write that succeeds leaves the tree as it is, or stores the rewritten file. -/
theorem write_eq_ok {changed : Bool}
    (written : write nameOf isFull tree path qualname block = (after, .ok changed)) :
    ∃ bytes original declared updated, tree.read path = .ok bytes ∧
      readBytes bytes = .ok (original, declared) ∧
      replace nameOf original qualname block = .ok updated ∧
      (changed = false ∧ after = tree ∧ updated = original ∨
        changed = true ∧ ∃ stored, declared.codec.encode updated = some stored ∧
          after = tree.write path stored) := by
  cases write_cases written with
  | @kept bytes isRead rewritten =>
      obtain ⟨original, declared, updated, decoded, replaced, outcome⟩ := rewrite?_eq_ok rewritten
      refine ⟨bytes, original, declared, updated, isRead, decoded, replaced, .inl ⟨rfl, rfl, ?_⟩⟩
      rcases outcome with ⟨-, same⟩ | ⟨stored, isSome, -⟩
      · exact same
      · exact absurd isSome (by simp)
  | @stored bytes contents isRead rewritten =>
      obtain ⟨original, declared, updated, decoded, replaced, outcome⟩ := rewrite?_eq_ok rewritten
      refine ⟨bytes, original, declared, updated, isRead, decoded, replaced,
        .inr ⟨rfl, contents, ?_, rfl⟩⟩
      rcases outcome with ⟨isNone, -⟩ | ⟨stored, isSome, encoded⟩
      · exact absurd isNone (by simp)
      · rwa [Option.some.inj isSome]

/-- A text that changes and can be stored is stored, while there is space. -/
theorem write_of_replace {bytes stored : Bytes} {original updated : Text} {declared : Declared}
    (isRead : tree.read path = .ok bytes) (decoded : readBytes bytes = .ok (original, declared))
    (replaced : replace nameOf original qualname block = .ok updated)
    (differ : updated ≠ original) (encoded : declared.codec.encode updated = some stored) :
    write nameOf false tree path qualname block = (tree.write path stored, .ok true) := by
  have rewritten : rewrite? nameOf bytes qualname block = .ok (some stored) :=
    rewrite?_eq_iff.mpr (.stored decoded replaced differ encoded)
  simp only [write, isRead, rewritten, Bool.false_and, Bool.false_eq_true, if_false]

/-- A write that fails leaves the tree as it is, unless the disk is full. -/
theorem write_eq_error {fault : WriteFault}
    (written : write nameOf isFull tree path qualname block = (after, .error fault))
    (notFull : fault ≠ .access .full) : after = tree := by
  cases write_cases written with
  | failed => rfl
  | emptied _ _ => exact absurd rfl notFull

/-- While there is space, a write that fails leaves the tree as it is. -/
theorem eq_of_write_eq_error {fault : WriteFault}
    (written : write nameOf false tree path qualname block = (after, .error fault)) :
    after = tree := by
  cases write_cases written with
  | failed => rfl
  | emptied _ isFull => exact absurd isFull (by decide)

/-- A write leaves the other files alone. -/
theorem file?_of_write {outcome : Except WriteFault Bool}
    (written : write nameOf isFull tree path qualname block = (after, outcome))
    {place : List Text} (elsewhere : tree.placeOf path ≠ .ok place) :
    after.file? place = tree.file? place := by
  cases write_cases written with
  | failed => rfl
  | kept _ _ => rfl
  | emptied isRead _ => exact FileTree.file?_write isRead elsewhere
  | stored isRead _ => exact FileTree.file?_write isRead elsewhere

/-- A write that fails for another reason than a full disk changes no file. After one that succeeds
the file holds the bytes around the removed lines with the block between them, behind the mark of
its encoding, and it held them before when it is not changed. Other files are never changed. -/
theorem write_frame {outcome : Except WriteFault Bool}
    (written : write nameOf isFull tree path qualname block = (after, outcome)) :
    (∀ fault, outcome = .error fault → fault ≠ .access .full → after = tree) ∧
    (∀ changed, outcome = .ok changed →
      ∃ bytes original declared, tree.read path = .ok bytes ∧
        readBytes bytes = .ok (original, declared) ∧ (changed = false → after = tree) ∧
        ∀ body, bytes = declared.codec.mark ++ body →
          ∃ front added back,
            Frame (locate nameOf) declared.codec qualname block original body front added back ∧
            after.read path = .ok (front ++ (added ++ back))) ∧
    ∀ place, tree.placeOf path ≠ .ok place → after.file? place = tree.file? place := by
  refine ⟨?_, ?_, fun place elsewhere => file?_of_write written elsewhere⟩
  · rintro fault rfl notFull
    exact write_eq_error written notFull
  · rintro changed rfl
    obtain ⟨bytes, original, declared, updated, isRead, decoded, replaced, result⟩ :=
      write_eq_ok written
    obtain ⟨detected, storesText, isText⟩ := readBytes_eq_ok_iff.mp decoded
    have faithful := isFaithful_of_detect detected
    refine ⟨bytes, original, declared, isRead, decoded, ?_, ?_⟩
    · rintro rfl
      rcases result with ⟨-, same, -⟩ | ⟨isChanged, -⟩
      · exact same
      · exact absurd isChanged (by decide)
    · rintro body rfl
      have stores : declared.codec.Stores original body := by
        rw [← Codec.unmarked_mark_append declared.codec body]
        exact (Codec.decode_eq_some_iff faithful storesText).mp isText
      rcases result with ⟨-, rfl, rfl⟩ | ⟨-, stored, encoded, rfl⟩
      · obtain ⟨front, added, back, frame, same⟩ :=
          exists_frame faithful storesText stores replaced
            ((Codec.encode_eq_some_iff storesText).mpr ⟨body, stores, rfl⟩)
        exact ⟨front, added, back, frame, same ▸ isRead⟩
      · obtain ⟨front, added, back, frame, rfl⟩ :=
          exists_frame faithful storesText stores replaced encoded
        exact ⟨front, added, back, frame, FileTree.read_write isRead⟩

end Write

namespace Sample

/-- The bytes of a text in Latin-1. -/
def latin (text : Text) : Bytes :=
  text.map fun c => UInt8.ofNat c.toNat

def latinClass : Text := "class User:\r\n    name = 'é'"

/-- A file with another encoding than UTF-8, an old block and no line feed at its end. -/
def latinSource : Text :=
  "# coding: latin-1\r\n# region model-doc: User\r\n# endregion model-doc\r\n" ++ latinClass

def latinUpdated : Text :=
  "# coding: latin-1\r\n".toList ++
    ((linesAbove "class User:\r\n" Sample.block).flatten ++ latinClass)

def file : Path := ⟨.relative, ["m.py"]⟩

def latinTree : FileTree := ⟨[(["m.py"], latin latinSource)], []⟩

theorem read_latinTree : latinTree.read file = .ok (latin latinSource) := by
  decide

theorem readBytes_latinSource :
    readBytes (latin latinSource) = .ok (latinSource, ⟨"iso-8859-1", .latin⟩) := by
  decide

theorem replace_latinSource :
    replace (fun _ => none) latinSource className Sample.block = .ok latinUpdated := by
  decide +kernel

theorem write_latinTree :
    write (fun _ => none) false latinTree file className Sample.block =
      (latinTree.write file (latin latinUpdated), .ok true) :=
  write_of_replace read_latinTree readBytes_latinSource replace_latinSource (by decide)
    (by decide)

end Sample

theorem write_frame_sample :
    ∃ front added back,
      Frame (locate fun _ => none) .latin Sample.className Sample.block Sample.latinSource
        (Sample.latin Sample.latinSource) front added back ∧
      (Sample.latinTree.write Sample.file (Sample.latin Sample.latinUpdated)).read Sample.file =
        .ok (front ++ (added ++ back)) := by
  obtain ⟨bytes, original, declared, isRead, decoded, -, frame⟩ :=
    (write_frame Sample.write_latinTree).2.1 true rfl
  obtain rfl := Except.ok.inj (Sample.read_latinTree.symm.trans isRead)
  obtain ⟨rfl, rfl⟩ :=
    Prod.mk.inj (Except.ok.inj (Sample.readBytes_latinSource.symm.trans decoded))
  exact frame _ rfl

end SchemaDoc.Block
