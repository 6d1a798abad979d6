import SchemaDoc.Mapping
import SchemaDoc.Proofs.Mapping.Names
import SchemaDoc.Proofs.PackageSearch.Longest

/-!
Contract: the names of module files below a mapping's directory.

A mapping whose directory is a root with the parts of its package's name behind it has this root as its source
root, and the name of a module file below the directory leads from the root back to the file. No two files
have one name, but for a module and a package beside it (`module_names_lead_back`).
-/

namespace SchemaDoc.Mapping

open SchemaDoc.Path

variable {parts : List Text}

/-! ## Module files -/

/-- The stem of a package's own file. -/
def ownStem : Text := "__init__".toList

/-- The way to a module file: no part has a dot, but for the suffix of the last one. -/
def IsModuleFile (parts : List Text) : Prop :=
  ∃ above stem, parts = above ++ [stem ++ moduleSuffix] ∧ (∀ part ∈ above, IsPlain part) ∧ IsPlain stem

/-- One file is a module, and the other one the own file of a package of the same name beside it. -/
def IsBeside (module package : List Text) : Prop :=
  ∃ above stem, module = above ++ [stem ++ moduleSuffix] ∧ package = above ++ [stem, ownStem ++ moduleSuffix]

theorem splitSuffix_module {stem : Text} (filled : stem ≠ []) :
    splitSuffix (stem ++ moduleSuffix) = (stem, moduleSuffix) := by
  have tail : ((stem ++ moduleSuffix).reverse.takeWhile (· != '.')).reverse = "py".toList := by
    rw [List.reverse_append]
    rfl
  have isLong : ¬ stem.length + 1 ≤ 1 := by
    have positive := List.length_pos_iff.mpr filled
    omega
  have size : (stem ++ moduleSuffix).length - "py".toList.length = stem.length + 1 := by
    rw [List.length_append]
    rfl
  unfold splitSuffix
  rw [tail]
  dsimp only
  rw [size, if_neg (by simp [isLong]), Nat.add_sub_cancel, List.take_left, List.drop_left]

theorem relativeTo?_within (directory : Path) (parts : List Text) :
    (within directory parts).relativeTo? directory = some ⟨.relative, parts⟩ := by
  have below : directory.parts.isPrefixOf (directory.parts ++ parts) = true :=
    List.isPrefixOf_iff_prefix.mpr (List.prefix_append _ _)
  unfold relativeTo? within
  rw [if_pos (by simp [below]), List.drop_left]

theorem dropSuffix?_module (anchor : Anchor) (above : List Text) {stem : Text} (filled : stem ≠ []) :
    (Path.mk anchor (above ++ [stem ++ moduleSuffix])).dropSuffix? = some ⟨anchor, above ++ [stem]⟩ := by
  unfold dropSuffix? name
  simp [splitSuffix_module filled]

theorem within_concat (directory : Path) (above : List Text) (last : Text) :
    within directory (above ++ [last]) = ⟨directory.anchor, (directory.parts ++ above) ++ [last]⟩ := by
  rw [within, List.append_assoc]

theorem name_within_concat (directory : Path) (above : List Text) (last : Text) :
    (within directory (above ++ [last])).name = last := by
  rw [within_concat, Path.name, List.getLast?_concat, Option.getD_some]

theorem parent_within_concat (directory : Path) (above : List Text) (last : Text) :
    (within directory (above ++ [last])).parent = within directory above := by
  have once := @foldl_parent (within directory above) [last] [last] rfl
  rw [List.foldl_cons, List.foldl_nil] at once
  rw [← once]
  simp [within]

theorem moduleParts_own (above : List Text) : moduleParts (above ++ [ownStem]) = above := by
  unfold moduleParts
  have isOwn : (above ++ [ownStem]).getLast? = some "__init__".toList := List.getLast?_concat
  rw [if_pos isOwn, List.dropLast_concat]

theorem moduleParts_other (above : List Text) {stem : Text} (isOther : stem ≠ ownStem) :
    moduleParts (above ++ [stem]) = above ++ [stem] := by
  unfold moduleParts
  rw [List.getLast?_concat, if_neg]
  exact fun same => isOther (Option.some.inj same)

theorem moduleParts_subset (parts : List Text) : moduleParts parts ⊆ parts := by
  unfold moduleParts
  split
  · exact List.dropLast_subset parts
  · exact List.Subset.refl parts

/-- The name of a module by the parts of its file below a package. -/
def nameBelow (package : Text) (parts : List Text) : Text :=
  Text.join ['.'] (if package.isEmpty then moduleParts parts else package :: moduleParts parts)

theorem nameParts_nameBelow (package : Text) (plain : ∀ part ∈ parts, IsPlain part) :
    nameParts (nameBelow package parts) = nameParts package ++ moduleParts parts := by
  have modulePlain := flatMap_nameParts fun part member => plain part (moduleParts_subset parts member)
  unfold nameBelow
  rw [nameParts_join]
  cases package with
  | nil => exact modulePlain
  | cons c rest =>
      rw [List.isEmpty_cons, if_neg (by simp), List.flatMap_cons, modulePlain]

/-! ## Names and files -/

section Files

variable {mapping : Mapping} {root : Path} {above : List Text} {stem : Text}

theorem moduleName?_within (filled : stem ≠ []) :
    mapping.moduleName? (within mapping.directory (above ++ [stem ++ moduleSuffix])) =
      some (nameBelow mapping.package (above ++ [stem])) := by
  unfold moduleName?
  rw [relativeTo?_within]
  simp only [Option.bind_eq_bind, Option.bind_some, dropSuffix?_module .relative above filled]
  rfl

theorem plain_concat (aboveIsPlain : ∀ part ∈ above, IsPlain part) (stemIsPlain : IsPlain stem) :
    ∀ part ∈ above ++ [stem], IsPlain part := by
  intro part member
  rcases List.mem_append.mp member with inside | isStem
  · exact aboveIsPlain part inside
  · exact List.mem_singleton.mp isStem ▸ stemIsPlain

/-- The parts of a module's name lead to its file without suffix, those of a package to its directory. -/
theorem within_nameParts (rooted : mapping.directory = within root (nameParts mapping.package))
    (aboveIsPlain : ∀ part ∈ above, IsPlain part) (stemIsPlain : IsPlain stem) :
    within root (nameParts (nameBelow mapping.package (above ++ [stem]))) =
      if stem = ownStem then within mapping.directory above
      else within mapping.directory (above ++ [stem]) := by
  rw [nameParts_nameBelow _ (plain_concat aboveIsPlain stemIsPlain), rooted]
  by_cases isOwn : stem = ownStem
  · rw [if_pos isOwn, isOwn, moduleParts_own]
    simp [within]
  · rw [if_neg isOwn, moduleParts_other above isOwn]
    simp [within]

/-- A module and a package beside it have one name, and no other two files do. -/
theorem eq_or_isBeside (one other : List Text) (isOne : IsModuleFile one) (isOther : IsModuleFile other)
    (sameName : mapping.moduleName? (within mapping.directory one) =
      mapping.moduleName? (within mapping.directory other)) :
    one = other ∨ IsBeside one other ∨ IsBeside other one := by
  obtain ⟨above, stem, rfl, aboveIsPlain, stemIsPlain⟩ := isOne
  obtain ⟨otherAbove, otherStem, rfl, otherAboveIsPlain, otherStemIsPlain⟩ := isOther
  rw [moduleName?_within stemIsPlain.1, moduleName?_within otherStemIsPlain.1, Option.some.injEq] at sameName
  have sameParts : moduleParts (above ++ [stem]) = moduleParts (otherAbove ++ [otherStem]) := by
    have named := congrArg nameParts sameName
    rw [nameParts_nameBelow _ (plain_concat aboveIsPlain stemIsPlain),
      nameParts_nameBelow _ (plain_concat otherAboveIsPlain otherStemIsPlain)] at named
    exact List.append_cancel_left named
  by_cases isOwn : stem = ownStem
  · by_cases otherIsOwn : otherStem = ownStem
    · rw [isOwn, otherIsOwn, moduleParts_own, moduleParts_own] at sameParts
      exact .inl (by rw [sameParts, isOwn, otherIsOwn])
    · rw [isOwn, moduleParts_own, moduleParts_other _ otherIsOwn] at sameParts
      exact .inr (.inr ⟨otherAbove, otherStem, rfl, by rw [sameParts, isOwn]; simp⟩)
  · by_cases otherIsOwn : otherStem = ownStem
    · rw [otherIsOwn, moduleParts_own, moduleParts_other _ isOwn] at sameParts
      exact .inr (.inl ⟨above, stem, rfl, by rw [← sameParts, otherIsOwn]; simp⟩)
    · rw [moduleParts_other _ isOwn, moduleParts_other _ otherIsOwn] at sameParts
      obtain ⟨sameAbove, sameStem⟩ := List.append_inj' sameParts rfl
      exact .inl (by rw [sameAbove, List.singleton_inj.mp sameStem])

end Files

/-- The source root is the root, the name of a module file leads from it to the file without suffix, or to the
directory when the file is that of a package, and files of one name are the same or stand beside each other. -/
theorem module_names_lead_back (mapping : Mapping) (root : Path)
    (rooted : mapping.directory = within root (nameParts mapping.package)) :
    mapping.sourceRoot = root ∧
      (∀ parts, IsModuleFile parts →
        let path := within mapping.directory parts
        ∃ name bare, mapping.moduleName? path = some name ∧ path.dropSuffix? = some bare ∧
          within root (nameParts name) =
            if path.name = ownStem ++ moduleSuffix then path.parent else bare) ∧
      ∀ one other, IsModuleFile one → IsModuleFile other →
        mapping.moduleName? (within mapping.directory one) =
          mapping.moduleName? (within mapping.directory other) →
        one = other ∨ IsBeside one other ∨ IsBeside other one := by
  refine ⟨sourceRoot_of_within rooted, ?_, eq_or_isBeside⟩
  rintro _ ⟨above, stem, rfl, aboveIsPlain, stemIsPlain⟩ path
  refine ⟨_, within mapping.directory (above ++ [stem]), moduleName?_within stemIsPlain.1, ?_, ?_⟩
  · have isPath : path = ⟨_, _ ++ [_]⟩ := within_concat mapping.directory above (stem ++ moduleSuffix)
    rw [isPath, within_concat]
    exact dropSuffix?_module mapping.directory.anchor _ stemIsPlain.1
  · have isOwn : path.name = ownStem ++ moduleSuffix ↔ stem = ownStem := by
      rw [name_within_concat, List.append_left_inj]
    rw [within_nameParts rooted aboveIsPlain stemIsPlain, parent_within_concat]
    simp only [isOwn]

/-- The models of a project below its source directory. -/
def sourceModels : Mapping :=
  ⟨"app.models".toList, ⟨.project, ["src".toList, "app".toList, "models".toList]⟩⟩

/-- A module and the own file of a package of the same name. -/
theorem module_names_sourceModels :
    let root : Path := ⟨.project, ["src".toList]⟩
    let module := within sourceModels.directory ["billing.py".toList]
    let package := within sourceModels.directory ["billing".toList, "__init__.py".toList]
    sourceModels.directory = within root (nameParts sourceModels.package) ∧
      IsModuleFile ["billing.py".toList] ∧ IsModuleFile ["billing".toList, "__init__.py".toList] ∧
      sourceModels.moduleName? module = sourceModels.moduleName? package ∧
      sourceModels.sourceRoot = root ∧
      ∃ name bare, sourceModels.moduleName? package = some name ∧ package.dropSuffix? = some bare ∧
        within root (nameParts name) = package.parent := by
  intro root module package
  have rooted : sourceModels.directory = within root (nameParts sourceModels.package) := by
    decide +kernel
  have isModule : IsModuleFile ["billing.py".toList] := ⟨[], "billing".toList, by decide⟩
  have isPackage : IsModuleFile ["billing".toList, "__init__.py".toList] :=
    ⟨["billing".toList], "__init__".toList, by decide⟩
  obtain ⟨isRoot, leads, -⟩ := module_names_lead_back sourceModels root rooted
  refine ⟨rooted, isModule, isPackage, by decide +kernel, isRoot, ?_⟩
  obtain ⟨name, bare, isName, isBare, leadsBack⟩ := leads _ isPackage
  refine ⟨name, bare, isName, isBare, leadsBack.trans (if_pos ?_)⟩
  decide +kernel

/-- A part of the package's name that is two parts of a path is one step up, and the name of a file that is
nothing but a suffix has a dot. -/
theorem module_names_mislead :
    let root : Path := ⟨.relative, ["r".toList]⟩
    let sliced : Mapping := ⟨"a/b".toList, joinParts root "a/b".toList⟩
    let shop : Mapping := ⟨"shop".toList, joinParts root "shop".toList⟩
    let unnamed := within shop.directory [moduleSuffix]
    [] ∉ Text.splitOnChar '.' sliced.package ∧ sliced.sourceRoot ≠ root ∧
      ∃ name bare, shop.moduleName? unnamed = some name ∧ unnamed.dropSuffix? = some bare ∧
        joinParts root name ≠ bare ∧ joinParts root name ≠ shop.directory := by
  intro root sliced shop unnamed
  refine ⟨by decide +kernel, by decide +kernel, "shop..py".toList, unnamed, ?_⟩
  decide +kernel

end SchemaDoc.Mapping
