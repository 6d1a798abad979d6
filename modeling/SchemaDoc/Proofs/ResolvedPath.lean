import Mathlib.Data.List.Basic
import SchemaDoc.FileTree

/-!
Contract: paths without two-dot parts.

Resolving a path leads to the same place: a directory is one by its resolved path, too
(`isDirectory_resolve`). A path that is resolved stays as it is (`IsResolved.resolve_eq`), and plain
parts behind a path stay behind it (`resolve_within`).
-/

namespace SchemaDoc.Path

/-- The path some parts further. -/
def within (root : Path) (parts : List Text) : Path :=
  { root with parts := root.parts ++ parts }

/-! ## Paths -/

section Resolve

variable {path : Path} {parts : List Text}

def IsResolved (path : Path) : Prop :=
  path.anchor ≠ .relative ∧ ['.', '.'] ∉ path.parts

/-- One part of a path followed, as it is written. -/
def turn (path : Path) (part : Text) : Path :=
  if part = ['.', '.'] then path.parent else path.child part

/-- Where a path is counted from. -/
def startOf (path : Path) : Path :=
  ⟨if path.anchor = .relative then .project else path.anchor, []⟩

theorem turn_part {part : Text} (notUp : part ≠ ['.', '.']) (path : Path) :
    turn path part = path.child part := by
  rw [turn, if_neg notUp]

theorem turn_up {place : List Text} (filled : place ≠ []) :
    turn ⟨.project, place⟩ ['.', '.'] = ⟨.project, place.dropLast⟩ := by
  cases place with
  | nil => exact absurd rfl filled
  | cons first others => rfl

theorem resolve_eq (path : Path) : FileTree.resolve path = path.parts.foldl turn (startOf path) :=
  rfl

theorem foldl_turn (start : Path) (plain : ['.', '.'] ∉ parts) :
    parts.foldl turn start = within start parts := by
  induction parts generalizing start with
  | nil => simp [within]
  | cons part rest inductionHypothesis =>
      have notUp : part ≠ ['.', '.'] := (ne_of_mem_of_not_mem List.mem_cons_self plain)
      rw [List.foldl_cons, turn_part notUp,
        inductionHypothesis _ fun later => plain (List.mem_cons_of_mem _ later)]
      simp [within, Path.child]

theorem resolve_within (plain : ['.', '.'] ∉ parts) :
    FileTree.resolve (within path parts) = within (FileTree.resolve path) parts := by
  rw [resolve_eq, resolve_eq, ← foldl_turn (path.parts.foldl turn (startOf path)) plain,
    ← List.foldl_append]
  rfl

theorem not_mem_child {part : Text} (plain : ['.', '.'] ∉ parts) (notUp : part ≠ ['.', '.']) :
    ['.', '.'] ∉ parts ++ [part] := by
  intro member
  rcases List.mem_append.mp member with inside | isPart
  · exact plain inside
  · exact notUp (List.mem_singleton.mp isPart).symm

theorem isResolved_turn {path : Path} (isResolved : IsResolved path) (part : Text) :
    IsResolved (turn path part) := by
  obtain ⟨anchored, plain⟩ := isResolved
  unfold turn
  split
  · unfold Path.parent
    split
    · exact ⟨by simp, List.not_mem_nil⟩
    · exact ⟨anchored, fun member => plain (List.dropLast_subset _ member)⟩
  · next notUp => exact ⟨anchored, not_mem_child plain notUp⟩

theorem isResolved_resolve (path : Path) : IsResolved (FileTree.resolve path) := by
  have starts : IsResolved (startOf path) := by
    refine ⟨?_, List.not_mem_nil⟩
    unfold startOf
    dsimp only
    split
    · simp
    · assumption
  rw [resolve_eq]
  generalize startOf path = start at starts
  induction path.parts generalizing start with
  | nil => exact starts
  | cons part rest inductionHypothesis => exact inductionHypothesis _ (isResolved_turn starts part)

theorem IsResolved.resolve_eq (isResolved : IsResolved path) : FileTree.resolve path = path := by
  rw [Path.resolve_eq, foldl_turn _ isResolved.2, startOf, if_neg isResolved.1]
  simp [within]

theorem within_inj {one other : Path} : within one parts = within other parts ↔ one = other := by
  constructor
  · intro same
    obtain ⟨sameAnchor, sameParts⟩ := Path.mk.inj same
    have sameFront : one.parts = other.parts := List.append_cancel_right sameParts
    cases one
    cases other
    exact congrArg₂ Path.mk sameAnchor sameFront
  · exact congrArg (within · parts)

theorem foldl_join (directory : Path) (parts : List Text)
    (plain : ∀ part ∈ parts, Path.parse part = ⟨.relative, [part]⟩) :
    parts.foldl (fun directory part => directory.join (Path.parse part)) directory =
      within directory parts := by
  induction parts generalizing directory with
  | nil => simp [within]
  | cons part rest inductionHypothesis =>
      rw [List.foldl_cons, inductionHypothesis _ fun other member =>
        plain other (List.mem_cons_of_mem _ member), plain part List.mem_cons_self]
      simp [within, Path.join]

/-- As many steps up as a path was taken further lead back. -/
theorem foldl_parent {names : List Text} (asMany : names.length = parts.length) :
    names.foldl (fun directory _ => directory.parent) (within path parts) = path := by
  induction names generalizing parts with
  | nil =>
      obtain rfl := List.length_eq_zero_iff.mp asMany.symm
      simp [within]
  | cons name rest inductionHypothesis =>
      have filled : parts ≠ [] := by
        rintro rfl
        exact absurd asMany (by simp)
      have up : (within path parts).parent = within path parts.dropLast := by
        obtain ⟨anchor, above⟩ := path
        have below : (above ++ parts).dropLast = above ++ parts.dropLast :=
          List.dropLast_append_of_ne_nil filled
        unfold Path.parent within
        dsimp only
        split
        · next isNil => exact absurd (List.append_eq_nil_iff.mp isNil).2 filled
        · rw [below]
      rw [List.foldl_cons, up]
      apply inductionHypothesis
      rw [List.length_dropLast, ← asMany]
      rfl

end Resolve

/-! ## Directories -/

section Tree

variable {tree : FileTree} {place reached : List Text} {parts : List Text}

theorem follow_append (rest : List Text) :
    tree.follow place (parts ++ rest) =
      match tree.follow place parts with
      | .ok reached => tree.follow reached rest
      | .error fault => .error fault := by
  induction parts generalizing place with
  | nil => rfl
  | cons part others inductionHypothesis =>
      rw [List.cons_append, FileTree.follow, FileTree.follow]
      split
      · rfl
      · split
        · rfl
        · split
          · split
            · rfl
            · exact inductionHypothesis
          · exact inductionHypothesis

theorem eq_append_of_follow (leads : tree.follow place parts = .ok reached)
    (plain : ['.', '.'] ∉ parts) : reached = place ++ parts := by
  induction parts generalizing place with
  | nil => rw [Except.ok.inj leads.symm, List.append_nil]
  | cons part rest inductionHypothesis =>
      have notUp : part ≠ ['.', '.'] := ne_of_mem_of_not_mem List.mem_cons_self plain
      rw [FileTree.follow, if_neg notUp] at leads
      split at leads
      · exact absurd leads (by simp)
      · split at leads
        · exact absurd leads (by simp)
        · rw [inductionHypothesis leads fun later => plain (List.mem_cons_of_mem _ later),
            List.append_assoc, List.singleton_append]

/-- What is above a place that is reached is reached, too. -/
theorem follow_dropLast (isPlace : tree.follow [] place = .ok place) (plain : ['.', '.'] ∉ place)
    (filled : place ≠ []) : tree.follow [] place.dropLast = .ok place.dropLast := by
  rw [← List.dropLast_append_getLast filled, follow_append] at isPlace
  cases upper : tree.follow [] place.dropLast with
  | error fault =>
      rw [upper] at isPlace
      exact absurd isPlace (by simp)
  | ok between =>
      rw [eq_append_of_follow upper fun member => plain (List.dropLast_subset _ member),
        List.nil_append]

/-- What is in a directory that is reached is reached, too. -/
theorem follow_child {part : Text} (isPlace : tree.follow [] place = .ok place)
    (noFile : ¬ (tree.file? place).isSome = true) (isDirectory : ¬ (!tree.hasDirectory place) = true)
    (notUp : part ≠ ['.', '.']) : tree.follow [] (place ++ [part]) = .ok (place ++ [part]) := by
  rw [follow_append, isPlace]
  dsimp only
  rw [FileTree.follow, if_neg noFile, if_neg isDirectory, if_neg notUp]
  rfl

/-- A place that is reached is reached without going up, too, by a path of its own parts. -/
theorem follow_reached (leads : tree.follow place parts = .ok reached)
    (isPlace : tree.follow [] place = .ok place) (plain : ['.', '.'] ∉ place) :
    tree.follow [] reached = .ok reached ∧ ['.', '.'] ∉ reached ∧
      parts.foldl turn ⟨.project, place⟩ = ⟨.project, reached⟩ := by
  induction parts generalizing place with
  | nil =>
      obtain rfl := Except.ok.inj leads
      exact ⟨isPlace, plain, rfl⟩
  | cons part rest inductionHypothesis =>
      rw [FileTree.follow] at leads
      split at leads
      · exact absurd leads (by simp)
      · next noFile =>
          split at leads
          · exact absurd leads (by simp)
          · next isDirectory =>
              split at leads
              · next isUp =>
                  subst isUp
                  split at leads
                  · exact absurd leads (by simp)
                  · next filled =>
                      have isNotNil : place ≠ [] := mt List.isEmpty_iff.mpr filled
                      rw [List.foldl_cons, turn_up isNotNil]
                      exact inductionHypothesis leads (follow_dropLast isPlace plain isNotNil)
                        fun member => plain (List.dropLast_subset _ member)
              · next notUp =>
                  rw [List.foldl_cons, turn_part notUp]
                  exact inductionHypothesis leads (follow_child isPlace noFile isDirectory notUp)
                    (not_mem_child plain notUp)

/-- A directory is one also by its resolved path. -/
theorem isDirectory_resolve {path : Path} (isDirectory : tree.isDirectory path = true) :
    tree.isDirectory (FileTree.resolve path) = true := by
  unfold FileTree.isDirectory at isDirectory
  cases leads : tree.placeOf path with
  | error fault =>
      rw [leads] at isDirectory
      exact absurd isDirectory (by simp)
  | ok reached =>
      rw [leads] at isDirectory
      have counted : tree.follow [] path.parts = .ok reached ∧
          startOf path = ⟨.project, []⟩ := by
        unfold FileTree.placeOf at leads
        unfold startOf
        cases anchor : path.anchor with
        | relative => exact ⟨by rw [← leads, anchor], rfl⟩
        | project => exact ⟨by rw [← leads, anchor], rfl⟩
        | _ =>
            rw [anchor] at leads
            exact absurd leads (by simp)
      obtain ⟨isPlace, -, isTurned⟩ := follow_reached counted.1 rfl List.not_mem_nil
      rw [resolve_eq, counted.2, isTurned]
      unfold FileTree.isDirectory FileTree.placeOf
      rw [isPlace]
      exact isDirectory

end Tree

end SchemaDoc.Path
