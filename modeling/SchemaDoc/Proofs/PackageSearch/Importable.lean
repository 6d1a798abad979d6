import Mathlib.Data.List.Basic
import Mathlib.Data.List.Infix
import SchemaDoc.Proofs.Manifest.Faults
import SchemaDoc.Proofs.Mapping.SourceRoot
import SchemaDoc.Proofs.PackageSearch.Longest

/-!
Contract: which of the mappings that are found have a source root that makes their packages importable.

A manifest may name any directory for a package, so that the name need not lead there
(`form_of_mem_mappings`). A located package is led to when the mapping that it is located by is
(`leads_located_iff`), and an installed one always is (`leads_installed`). The packages of module directories
are led to when the dots of the names are only those between them (`leads_moduleModels_iff`).
-/

namespace SchemaDoc

open Program SchemaDoc.Path
open Mapping (IsSimple nameParts leads_iff_suffix)

variable {tree : FileTree} {mapping : Mapping} {package : Text} {directory : Path}

/-! ## Manifests -/

namespace Manifest

theorem form_flat (base : Path) : Form base ⟨[], base⟩ := by
  have isBase : Form base ⟨[], base.join (Path.parse [])⟩ := .root []
  rwa [join_parse_nil] at isBase

/-- The mappings of a manifest are those that it declares, or its directory as a flat source root. -/
theorem form_of_mem_mappings {path : Path} {found : List Mapping}
    (gives : (mappings tree path).2 = .ok found) (member : mapping ∈ found) : Form path.parent mapping := by
  rcases declared_of_mappings gives with ⟨-, rfl⟩ | ⟨_, _, listed, -, -, declares, rfl⟩
  · rw [List.mem_singleton.mp member]
    exact form_flat path.parent
  · unfold orFlat at member
    split at member
    · rw [List.mem_singleton.mp member]
      exact form_flat path.parent
    · exact form_of_mem_declared declares member

end Manifest

/-! ## Located packages -/

/-- The parts of a package's name are those of the mapping and those of what is below it. -/
theorem Covers.nameParts_eq {rest : Text} (covers : Covers mapping package rest) :
    nameParts package = nameParts mapping.package ++ nameParts rest := by
  cases covers with
  | root isRoot =>
      rw [isRoot]
      rfl
  | whole isWhole =>
      rw [isWhole]
      exact (List.append_nil _).symm
  | part isPart => rw [isPart, Mapping.nameParts_append]

/-- A package that a mapping gives a directory is led to when the mapping is, its directory resolved. -/
theorem leads_located_iff (applies : Applies tree package mapping directory) (isSimple : IsSimple package) :
    (Mapping.mk package (FileTree.resolve directory)).Leads ↔
      nameParts mapping.package <:+ (FileTree.resolve mapping.directory).parts := by
  obtain ⟨rest, covers, isDirectory⟩ := applies.covers
  have isSplit := covers.nameParts_eq
  have restSimple : IsSimple rest := by
    intro part member
    exact isSimple part (isSplit ▸ List.mem_append_right _ member)
  have resolved : FileTree.resolve directory =
      within (FileTree.resolve mapping.directory) (nameParts rest) := by
    rw [isDirectory, Mapping.joinParts_of_isSimple restSimple, resolve_within (Mapping.up_not_mem_nameParts rest)]
  rw [leads_iff_suffix isSimple, resolved, isSplit]
  exact List.suffix_append_self_iff

/-! ## Installed packages -/

theorem mem_searchDirectories {name : Text} {portions directories inner : List Path}
    (found : searchDirectories tree name portions directories = some (.package inner))
    (member : directory ∈ inner) :
    directory ∈ portions ∨ ∃ outer ∈ directories, directory = outer.child name := by
  induction directories generalizing portions with
  | nil =>
      rw [searchDirectories] at found
      split at found
      · exact absurd found (by simp)
      · obtain rfl := Located.package.inj (Option.some.inj found)
        exact .inl member
  | cons outer rest inductionHypothesis =>
      have further (later : ∃ outer ∈ rest, directory = outer.child name) :
          ∃ other ∈ outer :: rest, directory = other.child name := by
        obtain ⟨other, isOther, isChild⟩ := later
        exact ⟨other, List.mem_cons_of_mem _ isOther, isChild⟩
      rw [searchDirectories] at found
      split at found
      · obtain rfl := Located.package.inj (Option.some.inj found)
        exact .inr ⟨outer, List.mem_cons_self, List.mem_singleton.mp member⟩
      · split at found
        · exact absurd found (by simp)
        · split at found
          · rcases inductionHypothesis found with before | later
            · rcases List.mem_append.mp before with isPortion | isInner
              · exact .inl isPortion
              · exact .inr ⟨outer, List.mem_cons_self, List.mem_singleton.mp isInner⟩
            · exact .inr (further later)
          · exact (inductionHypothesis found).imp_right further

/-- The directories of a package have the parts of its name below one of those that are searched. -/
theorem mem_packageDirectories {directories : List Path} {parts : List Text}
    (member : directory ∈ packageDirectories tree directories parts) :
    [] ∉ parts ∧ ∃ outer ∈ directories, directory = within outer parts := by
  induction parts generalizing directories with
  | nil => exact ⟨List.not_mem_nil, directory, member, by simp [within]⟩
  | cons part rest inductionHypothesis =>
      rw [packageDirectories] at member
      split at member
      · next inner found =>
          split at found
          · exact absurd found (by simp)
          · next filled =>
              obtain ⟨restFilled, middle, isMiddle, isWithin⟩ := inductionHypothesis member
              rcases mem_searchDirectories found isMiddle with none | ⟨outer, isOuter, isChild⟩
              · exact absurd none List.not_mem_nil
              · refine ⟨?_, outer, isOuter, ?_⟩
                · rintro (isFirst | isLater)
                  · exact filled rfl
                  · exact restFilled ‹_›
                · rw [isWithin, isChild]
                  simp [within, Path.child]
      · exact absurd member List.not_mem_nil

theorem mem_of_installedIn {world : World} (found : (installedIn tree package world).1 = .ok (some directory)) :
    directory ∈ packageDirectories tree world.searchPath (Text.splitOnChar '.' package) := by
  unfold installedIn at found
  dsimp only at found
  split at found
  · split at found
    · exact absurd found (by simp)
    · split at found
      · split at found
        · exact absurd found (by simp)
        · exact absurd found (by simp)
      · exact absurd found (by simp)
  · exact List.mem_of_head? (Except.ok.inj found)

/-- Packages of the import path are led to. -/
theorem leads_installed {world : World} (isSimple : IsSimple package)
    (found : (installedIn tree package world).1 = .ok (some directory)) :
    (Mapping.mk package (FileTree.resolve directory)).Leads := by
  obtain ⟨filled, outer, -, isWithin⟩ := mem_packageDirectories (mem_of_installedIn found)
  rw [leads_iff_suffix isSimple, isWithin, resolve_within (Mapping.up_not_mem_splitOnChar package),
    Mapping.nameParts_of_filled filled]
  exact List.suffix_append _ _

/-! ## Packages that are searched -/

variable {search after : SearchState} {mappings : List Mapping}

/-- A package that is found is led to when the mapping that it is located by is, its directory resolved. -/
theorem leads_resolve_iff {located : Mapping} (reads : (search.resolver.mappings tree).2.2 = .ok mappings)
    (resolves : (Search.resolve tree package).run search = (.ok (some located), after))
    (isSimple : IsSimple located.package) :
    located.Leads ↔ ∀ chosen directory, IsChosen tree mappings located.package chosen directory →
      nameParts chosen.package <:+ (FileTree.resolve chosen.directory).parts := by
  cases isLocated : Resolver.locate? tree mappings (Resolver.packageName package) with
  | some found =>
      rw [Search.run_resolve_located reads isLocated] at resolves
      obtain rfl := Option.some.inj (Except.ok.inj (Prod.mk.inj resolves).1)
      obtain ⟨chosen, directory, isChosen, rfl⟩ := locate?_eq_some_iff.mp isLocated
      rw [leads_located_iff isChosen.applies isSimple]
      constructor
      · intro ends other otherDirectory isOther
        obtain ⟨rfl, -⟩ := isChosen.unique isOther
        exact ends
      · intro ends
        exact ends chosen directory isChosen
  | none =>
      rw [Search.run_resolve_installed reads isLocated] at resolves
      have answered := (Prod.mk.inj resolves).1
      cases isInstalled : (installedIn tree (Resolver.packageName package) search.world).1 with
      | error fault =>
          rw [isInstalled] at answered
          exact absurd answered (by simp [Except.map])
      | ok found =>
          rw [isInstalled] at answered
          obtain ⟨directory, rfl, rfl⟩ := Option.map_eq_some_iff.mp (Except.ok.inj answered)
          -- No mapping applies, so that none is chosen and nothing is asked of one.
          apply iff_of_true (leads_installed isSimple isInstalled)
          intro chosen directory isChosen
          exact absurd ⟨directory, isChosen.applies⟩ (locate?_eq_none_iff.mp isLocated chosen isChosen.mem)

/-! ## Module directories -/

/-- The mapping of the models package of a module directory. -/
def modelsMapping (resolver : Resolver) (name : Text) : Mapping :=
  ⟨Text.join ['.'] [resolver.modulesPackage, name, "models".toList],
    within (resolver.root.join (Path.parse resolver.modulesDirectory)) [name, "models".toList]⟩

theorem mem_moduleModels {resolver : Resolver} (member : mapping ∈ resolver.moduleModels tree) :
    ∃ name, mapping = modelsMapping resolver name := by
  obtain ⟨root, isRoot, rfl⟩ := List.mem_map.mp member
  replace isRoot := (List.mem_filter.mp isRoot).1
  unfold Resolver.moduleRoots at isRoot
  dsimp only at isRoot
  split at isRoot
  · exact absurd isRoot List.not_mem_nil
  · obtain ⟨name, -, rfl⟩ := List.mem_map.mp (List.mem_filter.mp isRoot).1
    refine ⟨name, ?_⟩
    simp [modelsMapping, within, Path.child, Path.name]

/-- The models package of a module directory is led to when the dotted names above it are file names. -/
theorem leads_moduleModels_iff {resolver : Resolver} {name : Text} {modules : List Text}
    (isRelative : Path.parse resolver.modulesDirectory = ⟨.relative, modules⟩)
    (isSimple : IsSimple (modelsMapping resolver name).package) :
    (modelsMapping resolver name).Leads ↔
      (modules ++ [name]).flatMap nameParts <:+ resolver.root.parts ++ (modules ++ [name]) := by
  have isPackage : nameParts (modelsMapping resolver name).package =
      (modules ++ [name]).flatMap nameParts ++ ["models".toList] := by
    have isModels : nameParts "models".toList = ["models".toList] := rfl
    rw [modelsMapping, Mapping.nameParts_join, Resolver.modulesPackage, isRelative, List.flatMap_cons,
      Mapping.nameParts_join]
    simp only [Path.sortKey, List.flatMap_append, List.flatMap_cons, List.flatMap_nil, isModels,
      List.append_nil, List.append_assoc]
  have isDirectory : (modelsMapping resolver name).directory.parts =
      resolver.root.parts ++ (modules ++ [name]) ++ ["models".toList] := by
    rw [modelsMapping, isRelative]
    simp [within, Path.join]
  rw [leads_iff_suffix isSimple, isPackage, isDirectory]
  exact List.suffix_append_self_iff

theorem moduleModels_mappings (tree : FileTree) (resolver : Resolver) :
    (resolver.mappings tree).1.moduleModels tree = resolver.moduleModels tree := by
  unfold Resolver.mappings
  split
  · rfl
  · split
    · rfl
    · rfl

/-- The search for a package changes nothing about the project but what is known of its manifests. -/
theorem resolver_run_resolve (tree : FileTree) (package : Text) (search : SearchState) :
    ((Search.resolve tree package).run search).2.resolver = (search.resolver.mappings tree).1 := by
  rw [Search.run_resolve]
  split
  · rfl
  · dsimp only
    split
    · rfl
    · rfl

/-- The default mappings are that of the models package, when it is found, and those of the modules. -/
theorem run_defaults (tree : FileTree) (package : Text) (search : SearchState) :
    ((Search.defaults tree package).run search).1 =
      ((Search.resolve tree package).run search).1.map fun primary =>
        primary.toList ++ search.resolver.moduleModels tree := by
  have kept := moduleModels_mappings tree search.resolver
  rw [← resolver_run_resolve tree package search] at kept
  rw [← kept, Search.defaults, Computation.run_bind]
  rcases (Search.resolve tree package).run search with ⟨fault | primary, between⟩
  · rfl
  · cases primary with
    | none => rfl
    | some located => rfl

theorem mem_defaults {found : List Mapping}
    (runs : (Search.defaults tree package).run search = (.ok found, after)) (member : mapping ∈ found) :
    ((Search.resolve tree package).run search).1 = .ok (some mapping) ∨
      ∃ name, mapping = modelsMapping search.resolver name := by
  have answered := run_defaults tree package search
  rw [runs] at answered
  cases isPrimary : ((Search.resolve tree package).run search).1 with
  | error fault =>
      rw [isPrimary] at answered
      exact absurd answered (by simp [Except.map])
  | ok primary =>
      rw [isPrimary] at answered
      rw [Except.ok.inj answered] at member
      rcases List.mem_append.mp member with isLocated | isModule
      · rw [Option.mem_toList] at isLocated
        exact .inl (congrArg Except.ok isLocated)
      · exact .inr (mem_moduleModels isModule)

/-! ## All mappings -/

/-- A name leads from its source root to its directory when the directory ends in it. A manifest's flat source
roots and its packages without dots do so; of a package in a directory that is named for it, the directory's
path decides. A located package is led to when the mapping that it is located by is, an installed one always
is, and the packages of modules are when the dots of the names are only those between them. -/
theorem source_root_leads_iff (tree : FileTree) :
    (∀ mapping : Mapping, mapping.Leads ↔ mapping.EndsInName) ∧
      (∀ path found, (Manifest.mappings tree path).2 = .ok found → ∀ mapping ∈ found,
        mapping.package = [] ∧ mapping.Leads ∨
        (∃ name place,
          mapping = ⟨Text.dropAround (· = '.') name, path.parent.join (Path.parse place)⟩ ∧
          (IsSimple mapping.package →
            (mapping.Leads ↔ nameParts mapping.package <:+ mapping.directory.parts))) ∨
        ∃ name source,
          mapping = ⟨name, (path.parent.join (Path.parse source)).join (Path.parse name)⟩ ∧
          (Path.parse name = ⟨.relative, [name]⟩ → IsSimple name →
            (mapping.Leads ↔ nameParts name = [] ∨ Mapping.IsPlain name))) ∧
      (∀ search package mappings located after, (search.resolver.mappings tree).2.2 = .ok mappings →
        (Search.resolve tree package).run search = (.ok (some located), after) →
        IsSimple located.package →
        (located.Leads ↔ ∀ chosen directory, IsChosen tree mappings located.package chosen directory →
          nameParts chosen.package <:+ (FileTree.resolve chosen.directory).parts)) ∧
      ∀ search package found after, (Search.defaults tree package).run search = (.ok found, after) →
        ∀ mapping ∈ found, ((Search.resolve tree package).run search).1 = .ok (some mapping) ∨
          ∃ name, mapping = modelsMapping search.resolver name ∧
            ∀ modules, Path.parse search.resolver.modulesDirectory = ⟨.relative, modules⟩ →
              IsSimple mapping.package →
              (mapping.Leads ↔ (modules ++ [name]).flatMap nameParts <:+
                search.resolver.root.parts ++ (modules ++ [name])) := by
  refine ⟨Mapping.leads_iff, ?_, ?_, ?_⟩
  · intro path found gives mapping member
    cases Manifest.form_of_mem_mappings gives member with
    | root place => exact .inl ⟨rfl, Mapping.leads_of_root rfl⟩
    | directory name place => exact .inr (.inl ⟨name, place, rfl, leads_iff_suffix⟩)
    | inclusion name source =>
        exact .inr (.inr ⟨name, source, rfl, Mapping.leads_of_fileName_iff⟩)
  · intro search package mappings located after reads resolves isSimple
    exact leads_resolve_iff reads resolves isSimple
  · intro search package found after runs mapping member
    rcases mem_defaults runs member with isResolved | ⟨name, rfl⟩
    · exact .inl isResolved
    · exact .inr ⟨name, rfl, fun modules => leads_moduleModels_iff⟩

/-- A project with its package in a directory that the manifest names, and with a module. -/
def layoutProject : FileTree where
  files := [(["pyproject.toml".toList],
    Encoding.encodeUtf8 "[tool.setuptools.package-dir]\nshop = \"src/shop\"\n".toList)]
  directories := [["src".toList, "shop".toList, "models".toList],
    ["modules".toList, "billing".toList, "models".toList]]

def layoutSearch : SearchState :=
  ⟨.create [] [], .create .project "modules".toList, []⟩

def shopMapping : Mapping :=
  ⟨"shop".toList, ⟨.project, ["src".toList, "shop".toList]⟩⟩

def shopModels : Mapping :=
  ⟨"shop.models".toList, ⟨.project, ["src".toList, "shop".toList, "models".toList]⟩⟩

def billingModels : Mapping :=
  modelsMapping layoutSearch.resolver "billing".toList

theorem isChosen_layout :
    IsChosen layoutProject [shopMapping] "shop.models".toList shopMapping shopModels.directory := by
  refine ⟨⟨⟨"models".toList, .part (by decide), by decide⟩, by decide +kernel⟩, ?_, ⟨[], [], rfl, by simp⟩⟩
  intro other member _
  rw [List.mem_singleton.mp member]

theorem resolve_layout (reads : (layoutSearch.resolver.mappings layoutProject).2.2 = .ok [shopMapping]) :
    (Search.resolve layoutProject "shop.models".toList).run layoutSearch =
      (.ok (some shopModels), layoutSearch.reading layoutProject) := by
  have isName : Resolver.packageName "shop.models".toList = "shop.models".toList := by
    decide +kernel
  apply Search.run_resolve_located reads
  rw [isName]
  exact locate?_eq_some_iff.mpr ⟨shopMapping, _, isChosen_layout, by decide⟩

theorem source_root_leads_layout :
    (Manifest.mappings layoutProject Manifest.ownManifest).2 = .ok [shopMapping] ∧ shopMapping.Leads ∧
      (Search.resolve layoutProject "shop.models".toList).run layoutSearch =
        (.ok (some shopModels), layoutSearch.reading layoutProject) ∧ shopModels.Leads ∧
      ∃ after, (Search.defaults layoutProject "shop.models".toList).run layoutSearch =
        (.ok [shopModels, billingModels], after) ∧ billingModels.Leads := by
  have declares : (Manifest.mappings layoutProject Manifest.ownManifest).2 = .ok [shopMapping] := by
    decide +kernel
  have reads : (layoutSearch.resolver.mappings layoutProject).2.2 = .ok [shopMapping] := by
    decide +kernel
  have modules : layoutSearch.resolver.moduleModels layoutProject = [billingModels] := by
    decide +kernel
  have resolves := resolve_layout reads
  have answers : ((Search.defaults layoutProject "shop.models".toList).run layoutSearch).1 =
      .ok [shopModels, billingModels] := by
    rw [run_defaults, resolves, modules]
    rfl
  generalize runs : (Search.defaults layoutProject "shop.models".toList).run layoutSearch = ran at answers ⊢
  obtain ⟨outcome, after⟩ := ran
  obtain rfl : outcome = _ := answers
  obtain ⟨-, declared, located, defaults⟩ := source_root_leads_iff layoutProject
  refine ⟨declares, ?_, resolves, ?_, after, rfl, ?_⟩
  · rcases declared _ _ declares shopMapping List.mem_cons_self with
      ⟨-, leads⟩ | ⟨_, _, -, leadsIff⟩ | ⟨name, _, isShop, leadsIff⟩
    · exact leads
    · exact (leadsIff (by decide)).mpr (by decide)
    · obtain ⟨rfl, -⟩ := Mapping.mk.inj isShop
      exact (leadsIff (by decide) (by decide)).mpr (by decide)
  · apply (located _ _ _ _ _ reads resolves (by decide)).mpr
    intro chosen directory isChosen
    obtain ⟨rfl, -⟩ := isChosen_layout.unique isChosen
    decide
  · rcases defaults _ _ _ _ runs billingModels (by simp) with
      isResolved | ⟨name, isModels, leadsIff⟩
    · rw [resolves] at isResolved
      exact absurd (Option.some.inj (Except.ok.inj isResolved)) (by decide)
    · have isName : "billing".toList = name := by
        have sameParts := congrArg (fun mapping => mapping.directory.parts) isModels
        simpa [billingModels, modelsMapping, within] using sameParts
      subst isName
      exact (leadsIff ["modules".toList] (by decide) (by decide)).mpr (by decide)

/-- Packages that a manifest includes by a dotted name and by a path. -/
def inclusionsProject : FileTree :=
  Manifest.projectWith (Encoding.encodeUtf8
    ("[[tool.poetry.packages]]\ninclude = \"shop.models\"\n".toList ++
      "[[tool.poetry.packages]]\ninclude = \"shop/models\"\n".toList))

/-- The directory of a package with a dot in its name has the dot, and a package that is named by a path has one
part in its name for several directories: neither is led to. -/
theorem source_root_misleads :
    let dotted : Mapping := ⟨"shop.models".toList, ⟨.project, ["shop.models".toList]⟩⟩
    let slashed : Mapping := ⟨"shop/models".toList, ⟨.project, ["shop".toList, "models".toList]⟩⟩
    (Manifest.mappings inclusionsProject Manifest.ownManifest).2 = .ok [dotted, slashed] ∧
      dotted.sourceRoot = ⟨.root, []⟩ ∧ ¬ dotted.Leads ∧
      slashed.sourceRoot = ⟨.project, ["shop".toList]⟩ ∧ ¬ slashed.Leads := by
  decide +kernel

end SchemaDoc
