import Mathlib.Data.List.Basic
import Mathlib.Data.List.Infix
import SchemaDoc.Proofs.Mapping.Names
import SchemaDoc.Proofs.PackageSearch.Longest

/-!
Contract: the source roots of mappings, and whether the names of packages lead from them to the packages.

The parts of a package's name lead from the source root to the directory exactly when the directory ends in
the path that they write, one part of the path for each part of the name (`leads_iff`). Parts that are file
names stand in the path as they are (`leads_iff_suffix`).
-/

namespace SchemaDoc.Mapping

open SchemaDoc.Path

variable {mapping : Mapping} {directory : Path} {dotted part : Text} {parts : List Text}

/-- The parts of the package's name lead from the source root to the directory. -/
def Leads (mapping : Mapping) : Prop :=
  joinParts mapping.sourceRoot mapping.package = mapping.directory

instance (mapping : Mapping) : Decidable mapping.Leads :=
  inferInstanceAs (Decidable (_ = _))

/-- The path that the parts of a dotted name write, one below the other. -/
def namePath (dotted : Text) : Path :=
  joinParts ⟨.relative, []⟩ dotted

/-- The directory ends in the path that the name writes, with one part of the path for each part of the name.
A path that is anchored has to be the directory itself. -/
def EndsInName (mapping : Mapping) : Prop :=
  if (namePath mapping.package).anchor = .relative then
    (namePath mapping.package).parts <:+ mapping.directory.parts ∧
      (namePath mapping.package).parts.length = (nameParts mapping.package).length
  else mapping.directory = namePath mapping.package

/-- Every part of the name is the name of a file or directory. -/
def IsSimple (dotted : Text) : Prop :=
  ∀ part ∈ nameParts dotted, Path.parse part = ⟨.relative, [part]⟩

instance (dotted : Text) : Decidable (IsSimple dotted) :=
  inferInstanceAs (Decidable (∀ part ∈ nameParts dotted, _))

/-! ## The path of a name -/

theorem foldl_join_start (directory start : Path) (parts : List Text) :
    parts.foldl (fun directory part => directory.join (Path.parse part)) (directory.join start) =
      directory.join (parts.foldl (fun directory part => directory.join (Path.parse part)) start) := by
  induction parts generalizing start with
  | nil => rfl
  | cons part rest inductionHypothesis =>
      have assoc : (directory.join start).join (Path.parse part) =
          directory.join (start.join (Path.parse part)) := by
        unfold Path.join
        by_cases isRelative : (Path.parse part).anchor = .relative
        · by_cases startsRelative : start.anchor = .relative
          · simp [isRelative, startsRelative]
          · simp [isRelative, startsRelative]
        · simp [isRelative]
      rw [List.foldl_cons, List.foldl_cons, assoc, inductionHypothesis]

theorem joinParts_eq_join (directory : Path) (dotted : Text) :
    joinParts directory dotted = directory.join (namePath dotted) := by
  have start : directory.join ⟨.relative, []⟩ = directory := by simp [Path.join]
  unfold joinParts namePath joinParts
  rw [← foldl_join_start, start]

theorem parse_cases (text : Text) :
    (Path.parse text).anchor ≠ .relative ∨ Path.parse text = ⟨.relative, partsOf text⟩ := by
  unfold Path.parse
  split
  · exact .inl (by simp)
  · exact .inl (by simp)
  · split
    · exact .inl (by simp)
    · exact .inl (by simp)
    · exact .inl (by simp)
    · exact .inr rfl

theorem anchor_parse_slash (rest : Text) : (Path.parse ('/' :: rest)).anchor ≠ .relative := by
  have noProject : Text.after? Anchor.project.text ('/' :: rest) = none := rfl
  unfold Path.parse
  rw [noProject]
  dsimp only
  split
  · simp
  · simp
  · simp
  · next noSlash => exact absurd rfl (noSlash rest)

/-- A part of a name is a path of at least one part, or an anchored one. -/
theorem parts_parse_ne_nil (isPlain : IsPlain part) (isRelative : (Path.parse part).anchor = .relative) :
    (Path.parse part).parts ≠ [] := by
  obtain ⟨filled, noDot⟩ := isPlain
  cases part with
  | nil => exact absurd rfl filled
  | cons c rest =>
      have noSlash : c ≠ '/' := by
        rintro rfl
        exact anchor_parse_slash rest isRelative
      rw [(parse_cases (c :: rest)).resolve_left (not_not.mpr isRelative), partsOf, Text.splitOnChar,
        if_neg noSlash]
      have notDot : c ≠ '.' := ne_of_mem_of_not_mem List.mem_cons_self noDot
      split
      · simp [notDot]
      · simp [notDot]

/-- Parts that write a relative path write at least one part of it each. -/
theorem length_le_of_relative (start : Path) (plain : ∀ part ∈ parts, IsPlain part)
    (isRelative : (parts.foldl (fun directory part => directory.join (Path.parse part)) start).anchor =
      .relative) :
    start.anchor = .relative ∧ start.parts.length + parts.length ≤
      (parts.foldl (fun directory part => directory.join (Path.parse part)) start).parts.length := by
  induction parts generalizing start with
  | nil => exact ⟨isRelative, le_refl _⟩
  | cons part rest inductionHypothesis =>
      rw [List.forall_mem_cons] at plain
      obtain ⟨joinedRelative, atLeast⟩ := inductionHypothesis _ plain.2 isRelative
      dsimp only at joinedRelative atLeast
      rw [List.foldl_cons]
      by_cases partRelative : (Path.parse part).anchor = .relative
      · have filled := List.length_pos_iff.mpr (parts_parse_ne_nil plain.1 partRelative)
        have joined : start.join (Path.parse part) =
            { start with parts := start.parts ++ (Path.parse part).parts } := if_pos partRelative
        rw [joined] at joinedRelative atLeast ⊢
        refine ⟨joinedRelative, le_trans ?_ atLeast⟩
        rw [List.length_append, List.length_cons]
        omega
      · have joined : start.join (Path.parse part) = Path.parse part := if_neg partRelative
        rw [joined] at joinedRelative
        exact absurd joinedRelative partRelative

/-- Empty parts of a name lead nowhere. -/
theorem joinParts_eq_foldl (directory : Path) (dotted : Text) :
    joinParts directory dotted =
      (nameParts dotted).foldl (fun directory part => directory.join (Path.parse part)) directory := by
  unfold joinParts nameParts
  induction Text.splitOnChar '.' dotted generalizing directory with
  | nil => rfl
  | cons part rest inductionHypothesis =>
      cases part with
      | nil =>
          rw [List.foldl_cons, join_parse_nil, inductionHypothesis, List.filter_cons_of_neg (by simp)]
      | cons c others =>
          rw [List.foldl_cons, inductionHypothesis, List.filter_cons_of_pos (by simp), List.foldl_cons]

theorem length_parent (path : Path) : path.parent.parts.length = path.parts.length - 1 := by
  unfold Path.parent
  split
  · next isTop => rw [isTop]; rfl
  · next => rw [List.length_dropLast]

/-! ## Whether the name leads to the directory -/

theorem length_foldl_parent (names : List Text) (path : Path) :
    (names.foldl (fun directory _ => directory.parent) path).parts.length =
      path.parts.length - names.length := by
  induction names generalizing path with
  | nil => rfl
  | cons name rest inductionHypothesis =>
      rw [List.foldl_cons, inductionHypothesis, length_parent, List.length_cons]
      omega

theorem leads_iff (mapping : Mapping) : mapping.Leads ↔ mapping.EndsInName := by
  unfold Leads EndsInName
  rw [joinParts_eq_join]
  split
  · next isRelative =>
      have joined : mapping.sourceRoot.join (namePath mapping.package) =
          within mapping.sourceRoot (namePath mapping.package).parts := if_pos isRelative
      rw [joined]
      constructor
      · intro leads
        refine ⟨⟨mapping.sourceRoot.parts, congrArg Path.parts leads⟩, ?_⟩
        -- The name takes the source root one part up for each of its parts, and leads at least as many down.
        have climbed : mapping.sourceRoot.parts.length = _ := length_foldl_parent _ mapping.directory
        have total : mapping.sourceRoot.parts.length + (namePath mapping.package).parts.length =
            mapping.directory.parts.length := by
          rw [← List.length_append]
          exact congrArg (fun path => path.parts.length) leads
        have atLeast : (nameParts mapping.package).length ≤ (namePath mapping.package).parts.length := by
          rw [namePath, joinParts_eq_foldl] at isRelative ⊢
          have counted := (length_le_of_relative _ (fun _ => isPlain_of_mem_nameParts) isRelative).2
          simpa using counted
        omega
      · rintro ⟨⟨front, isFront⟩, sameLength⟩
        have rooted : mapping.directory =
            within ⟨mapping.directory.anchor, front⟩ (namePath mapping.package).parts := by
          rw [within, isFront]
        have isRoot : mapping.sourceRoot = ⟨mapping.directory.anchor, front⟩ := by
          rw [sourceRoot, rooted]
          exact foldl_parent sameLength.symm
        rw [isRoot, ← rooted]
  · next isAnchored =>
      have joined : mapping.sourceRoot.join (namePath mapping.package) = namePath mapping.package :=
        if_neg isAnchored
      rw [joined]
      exact eq_comm

/-! ## Names of file names -/

theorem joinParts_of_isSimple (isSimple : IsSimple dotted) (directory : Path) :
    joinParts directory dotted = within directory (nameParts dotted) := by
  rw [joinParts_eq_foldl, foldl_join _ _ isSimple]

theorem leads_iff_suffix (isSimple : IsSimple mapping.package) :
    mapping.Leads ↔ nameParts mapping.package <:+ mapping.directory.parts := by
  have isPath : namePath mapping.package = ⟨.relative, nameParts mapping.package⟩ :=
    joinParts_of_isSimple isSimple ⟨.relative, []⟩
  rw [leads_iff, EndsInName, isPath]
  simp

theorem leads_of_root (isRoot : mapping.package = []) : mapping.Leads := by
  have isSimple : IsSimple mapping.package := by
    rw [isRoot]
    decide
  rw [leads_iff_suffix isSimple, isRoot]
  exact List.nil_suffix

/-- A file name that ends a directory leads to it when it has no dot, or nothing but dots. -/
theorem leads_of_fileName_iff {name : Text} {source : Path} (isFileName : Path.parse name = ⟨.relative, [name]⟩)
    (isSimple : IsSimple name) :
    (Mapping.mk name (source.join (Path.parse name))).Leads ↔ nameParts name = [] ∨ IsPlain name := by
  have ends : (source.join (Path.parse name)).parts = source.parts ++ [name] := by
    rw [isFileName]
    rfl
  rw [leads_iff_suffix isSimple, ends]
  constructor
  · rintro ⟨front, isFront⟩
    rcases List.eq_nil_or_concat (nameParts name) with isNil | ⟨parts, part, isParts⟩
    · exact .inl isNil
    · have isLast : part ∈ nameParts name := by
        rw [isParts]
        simp
      rw [isParts, List.concat_eq_append, ← List.append_assoc] at isFront
      obtain ⟨-, isName⟩ := List.append_inj' isFront rfl
      obtain rfl := List.singleton_inj.mp isName
      exact .inr (isPlain_of_mem_nameParts isLast)
  · rintro (isNil | isPlain)
    · rw [isNil]
      exact List.nil_suffix
    · rw [nameParts_of_isPlain isPlain]
      exact List.suffix_append _ _

end SchemaDoc.Mapping
