import SchemaDoc.Proofs.Block.Frame
import SchemaDoc.Proofs.Source.Definition

/-!
Contract: the ways in which a block cannot be written, and which of them are reported.

A write succeeds, or ends with a fault that names the file, unless the file escapes
(`write_unreported_iff`): its encoding stores no text, its text has a null character, or the line on
which its reader finds the class is no line of the text as it is cut here (`Escapes`). The last of
these takes a lone carriage return, which ends a line for the reader alone (`Escapes.isOdd`).
-/

namespace SchemaDoc.Block

variable {nameOf : Text → Option Nat} {content qualname block : Text}

/-- The class is found on a line behind the last line of the text. -/
def LocatedBeyond (nameOf : Text → Option Nat) (content qualname : Text) : Prop :=
  ∃ line, locate nameOf content qualname = .ok line ∧ (Text.lines content).length ≤ line - 1

/-- What makes a write into these bytes end without a report. -/
inductive Escapes (nameOf : Text → Option Nat) (qualname : Text) (bytes : Bytes) : Prop
  /-- The declared encoding stores no text. -/
  | storesNoText {declared : Encoding.Declared} (isDeclared : Encoding.detect bytes = .ok declared)
      (bytesOnly : declared.codec = .bytesOnly)
  | nullCharacter {text : Text} {declared : Encoding.Declared}
      (isRead : readBytes bytes = .ok (text, declared))
      (null : Char.ofNat 0 ∈ strip qualname text)
  | lineMissing {text : Text} {declared : Encoding.Declared}
      (isRead : readBytes bytes = .ok (text, declared))
      (beyond : LocatedBeyond nameOf (strip qualname text) qualname)

/-- The bytes of a file that a write may escape from: they store no text, or a text with a null
character or a lone carriage return. -/
def IsOdd (bytes : Bytes) : Prop :=
  (∃ declared, Encoding.detect bytes = .ok declared ∧ declared.codec = .bytesOnly) ∨
    ∃ text declared, readBytes bytes = .ok (text, declared) ∧
      (Char.ofNat 0 ∈ text ∨ Text.HasLoneReturn text)

/-! ## Placing -/

/-- Without lone carriage returns the reader's lines are those of the cut. -/
theorem LocatedBeyond.hasLoneReturn (beyond : LocatedBeyond nameOf content qualname) :
    Text.HasLoneReturn content := by
  obtain ⟨line, located, isBeyond⟩ := beyond
  unfold locate at located
  split at located
  · exact absurd located (by simp)
  · exact absurd located (by simp)
  · next file isRead =>
      split at located
      · exact absurd located (by simp)
      · next found isFound =>
          obtain rfl := Except.ok.inj located
          have inside := Source.SourceFile.firstLine_find? isRead isFound
          by_contra uniform
          rw [Text.physicalLines_eq_lines uniform] at inside
          exact absurd inside (Nat.not_lt.mpr isBeyond)

theorem Escapes.isOdd {bytes : Bytes} (escapes : Escapes nameOf qualname bytes) : IsOdd bytes := by
  cases escapes with
  | storesNoText isDeclared bytesOnly => exact .inl ⟨_, isDeclared, bytesOnly⟩
  | nullCharacter isRead null => exact .inr ⟨_, _, isRead, .inl (mem_of_mem_strip null)⟩
  | lineMissing isRead beyond =>
      exact .inr ⟨_, _, isRead, .inr (hasLoneReturn_of_strip beyond.hasLoneReturn)⟩

theorem insertAt?_eq_none_iff {lines : List Text} {index : Nat} :
    insertAt? lines index block = none ↔ lines.length ≤ index := by
  unfold insertAt?
  rw [← List.drop_eq_nil_iff]
  split
  · next found => simp [found]
  · next found => simp [found]

theorem locate_nullCharacter_iff :
    locate nameOf content qualname = .error .nullCharacter ↔ Char.ofNat 0 ∈ content := by
  unfold locate Source.SourceFile.read
  by_cases null : Char.ofNat 0 ∈ content
  · rw [if_pos (by simpa using null)]
    simp [null]
  · rw [if_neg (by simpa using null)]
    simp only [null, iff_false]
    intro located
    split at located
    · next isNull =>
        split at isNull
        · exact absurd isNull (by simp)
        · split at isNull <;> exact absurd isNull (by simp)
    · exact absurd located (by simp)
    · split at located <;> exact absurd located (by simp)

theorem locate_ne_lineMissing : locate nameOf content qualname ≠ .error .lineMissing := by
  unfold locate
  intro located
  split at located
  · exact absurd located (by simp)
  · exact absurd located (by simp)
  · split at located <;> exact absurd located (by simp)

/-- A placement without a report has a null character, or a class found behind the last line. -/
theorem insert_unreported_iff {path : Text} :
    (∃ fault, insert nameOf content qualname block = .error fault ∧
        fault.report? path qualname = none) ↔
      Char.ofNat 0 ∈ content ∨ LocatedBeyond nameOf content qualname := by
  unfold insert insertWith
  constructor
  · rintro ⟨fault, failed, unreported⟩
    split at failed
    · next cause located =>
        obtain rfl := Except.error.inj failed
        cases cause with
        | nullCharacter => exact .inl (locate_nullCharacter_iff.mp located)
        | unparsable => exact absurd unreported (by simp [PlacementFault.report?])
        | classMissing => exact absurd unreported (by simp [PlacementFault.report?])
        | lineMissing => exact absurd located locate_ne_lineMissing
    · next line located =>
        split at failed
        · next missing => exact .inr ⟨line, located, insertAt?_eq_none_iff.mp missing⟩
        · exact absurd failed (by simp)
  · rintro (null | ⟨line, located, beyond⟩)
    · rw [locate_nullCharacter_iff.mpr null]
      exact ⟨.nullCharacter, rfl, rfl⟩
    · rw [located]
      simp only [insertAt?_eq_none_iff.mpr beyond]
      exact ⟨.lineMissing, rfl, rfl⟩

/-! ## Reading -/

theorem readBytes_unreported_iff {bytes : Bytes} {path : Text} :
    (∃ fault, readBytes bytes = .error fault ∧ fault.report? path qualname = none) ↔
      ∃ declared, Encoding.detect bytes = .ok declared ∧ declared.codec = .bytesOnly := by
  unfold readBytes
  constructor
  · rintro ⟨fault, failed, unreported⟩
    split at failed
    · obtain rfl := Except.error.inj failed
      exact absurd unreported (by simp [WriteFault.report?])
    · next declared detected =>
        split at failed
        · next bytesOnly => exact ⟨declared, detected, bytesOnly⟩
        · split at failed
          · exact absurd failed (by simp)
          · obtain rfl := Except.error.inj failed
            exact absurd unreported (by simp [WriteFault.report?])
  · rintro ⟨declared, detected, bytesOnly⟩
    rw [detected]
    simp only [if_pos bytesOnly]
    exact ⟨.notText, rfl, rfl⟩

/-! ## Writing -/

/-- Every fault that is reported names the file. -/
theorem report?_eq_some {path : Text} {fault : WriteFault} {report : Fault}
    (reported : fault.report? path qualname = some report) :
    ∃ reason, report = .writing path reason := by
  cases fault with
  | access cause => exact ⟨_, (Option.some.inj reported).symm⟩
  | encoding cause => exact ⟨_, (Option.some.inj reported).symm⟩
  | undecodable flaw => exact ⟨_, (Option.some.inj reported).symm⟩
  | notText => exact absurd reported (by simp [WriteFault.report?])
  | unencodable name => exact ⟨_, (Option.some.inj reported).symm⟩
  | placement cause =>
      cases cause with
      | nullCharacter => exact absurd reported (by simp [WriteFault.report?, PlacementFault.report?])
      | unparsable => exact ⟨_, (Option.some.inj reported).symm⟩
      | classMissing => exact ⟨_, (Option.some.inj reported).symm⟩
      | lineMissing => exact absurd reported (by simp [WriteFault.report?, PlacementFault.report?])

theorem rewrite?_unreported_iff {bytes : Bytes} {path : Text} :
    (∃ fault, rewrite? nameOf bytes qualname block = .error fault ∧
        fault.report? path qualname = none) ↔
      Escapes nameOf qualname bytes := by
  simp only [rewrite?_eq_iff]
  constructor
  · rintro ⟨fault, form, unreported⟩
    cases form with
    | unread isRead =>
        obtain ⟨declared, detected, bytesOnly⟩ :=
          readBytes_unreported_iff.mp ⟨fault, isRead, unreported⟩
        exact .storesNoText detected bytesOnly
    | unplaced isRead replaced =>
        rcases insert_unreported_iff.mp ⟨_, replaced, unreported⟩ with null | beyond
        · exact .nullCharacter isRead null
        · exact .lineMissing isRead beyond
    | unencodable _ _ _ _ => exact absurd unreported (by simp [WriteFault.report?])
  · intro escapes
    have unplaced : ∀ {original declared}, readBytes bytes = .ok (original, declared) →
        Char.ofNat 0 ∈ strip qualname original ∨
          LocatedBeyond nameOf (strip qualname original) qualname →
        ∃ fault, RewriteForm nameOf bytes qualname block (.error fault) ∧
          fault.report? path qualname = none := by
      intro original declared isRead escapesPlacing
      obtain ⟨fault, replaced, unreported⟩ :=
        (@insert_unreported_iff nameOf _ qualname block path).mpr escapesPlacing
      exact ⟨.placement fault, .unplaced isRead replaced, unreported⟩
    cases escapes with
    | storesNoText detected bytesOnly =>
        obtain ⟨fault, isRead, unreported⟩ :=
          (@readBytes_unreported_iff qualname bytes path).mpr ⟨_, detected, bytesOnly⟩
        exact ⟨fault, .unread isRead, unreported⟩
    | nullCharacter isRead null => exact unplaced isRead (.inl null)
    | lineMissing isRead beyond => exact unplaced isRead (.inr beyond)

/-- A write ends without a report exactly when the bytes of the file escape. -/
theorem write_unreported_iff {isFull : Bool} {tree : FileTree} {path : Path} :
    (∃ fault, (write nameOf isFull tree path qualname block).2 = .error fault ∧
        fault.report? path.render qualname = none) ↔
      ∃ bytes, tree.read path = .ok bytes ∧ Escapes nameOf qualname bytes := by
  unfold write
  cases isRead : tree.read path with
  | error fault => simp [WriteFault.report?]
  | ok bytes =>
      have rewritten := @rewrite?_unreported_iff nameOf qualname block bytes path.render
      simp only [Except.ok.injEq, exists_eq_left']
      rw [← rewritten]
      cases rewrite? nameOf bytes qualname block with
      | error fault => simp
      | ok change =>
          cases change with
          | none => simp
          | some stored =>
              simp only
              split <;> simp [WriteFault.report?]

end SchemaDoc.Block
