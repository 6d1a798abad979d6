import Mathlib.Data.List.Basic
import SchemaDoc.Mapping
import SchemaDoc.Proofs.ResolvedPath
import SchemaDoc.Proofs.Text.Blank

/-!
Contract: the parts of dotted names.

No part has a dot (`isPlain_of_mem_nameParts`), and the parts of a joined name are those of the names that it is
joined from (`nameParts_join`). Below a root the parts of a mapping's name are undone by its source root
(`sourceRoot_of_within`).
-/

namespace SchemaDoc.Mapping

open SchemaDoc.Path

variable {part : Text} {parts : List Text}

/-! ## Dotted names -/

/-- The text is one part of a dotted name. -/
def IsPlain (part : Text) : Prop :=
  part ≠ [] ∧ '.' ∉ part

instance (part : Text) : Decidable (IsPlain part) :=
  inferInstanceAs (Decidable (_ ∧ _))

theorem up_not_mem_splitOnChar (dotted : Text) : ['.', '.'] ∉ Text.splitOnChar '.' dotted :=
  fun member => Text.not_mem_of_mem_splitOnChar member List.mem_cons_self

theorem up_not_mem_nameParts (dotted : Text) : ['.', '.'] ∉ nameParts dotted :=
  fun member => up_not_mem_splitOnChar dotted (List.mem_filter.mp member).1

/-- A name without empty parts is cut at every dot. -/
theorem nameParts_of_filled {dotted : Text} (filled : [] ∉ Text.splitOnChar '.' dotted) :
    nameParts dotted = Text.splitOnChar '.' dotted := by
  apply List.filter_eq_self.mpr
  intro part member
  have isFilled : part ≠ [] := ne_of_mem_of_not_mem member filled
  simpa using isFilled

theorem isPlain_of_mem_nameParts {dotted : Text} (member : part ∈ nameParts dotted) : IsPlain part := by
  obtain ⟨isPiece, filled⟩ := List.mem_filter.mp member
  exact ⟨by simpa using filled, Text.not_mem_of_mem_splitOnChar isPiece⟩

theorem nameParts_of_isPlain (isPlain : IsPlain part) : nameParts part = [part] := by
  rw [nameParts, Text.splitOnChar_of_not_mem isPlain.2]
  simp [isPlain.1]

theorem nameParts_append (front back : Text) :
    nameParts (front ++ '.' :: back) = nameParts front ++ nameParts back := by
  rw [nameParts, Text.splitOnChar_append, List.filter_append]
  rfl

theorem nameParts_join (texts : List Text) : nameParts (Text.join ['.'] texts) = texts.flatMap nameParts := by
  induction texts with
  | nil => rfl
  | cons text rest inductionHypothesis =>
      cases rest with
      | nil => simp [Text.join]
      | cons next others =>
          change nameParts (text ++ ['.'] ++ Text.join ['.'] (next :: others)) = _
          rw [List.append_assoc, List.singleton_append, nameParts_append, inductionHypothesis]
          rfl

theorem flatMap_nameParts (plain : ∀ part ∈ parts, IsPlain part) : parts.flatMap nameParts = parts := by
  induction parts with
  | nil => rfl
  | cons part rest inductionHypothesis =>
      rw [List.forall_mem_cons] at plain
      rw [List.flatMap_cons, nameParts_of_isPlain plain.1, inductionHypothesis plain.2]
      rfl

/-- The source root is the root below which the directory has the parts of the package's name. -/
theorem sourceRoot_of_within {mapping : Mapping} {root : Path}
    (rooted : mapping.directory = within root (nameParts mapping.package)) : mapping.sourceRoot = root := by
  unfold sourceRoot
  rw [rooted]
  exact foldl_parent rfl

end SchemaDoc.Mapping
