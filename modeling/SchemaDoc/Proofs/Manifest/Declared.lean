import SchemaDoc.Manifest
import SchemaDoc.Proofs.Computation

/-!
Contract: the documents that declare packages, and what they declare.

Owns:
- the shape that the tables of a manifest need, value by value (`WellShaped`);
- every document of this shape declares its mappings, and no other one does (`declared_isOk_iff`);
- the forms that a declared mapping can have (`Form`, `form_of_mem_declared`).
-/

namespace SchemaDoc.Manifest

open SchemaDoc.Computation
open Toml (Entries)

variable {base : Path} {table value default : Value} {entries document : Entries} {key : String}

/-! ## Shapes -/

def IsText (value : Value) : Prop :=
  ∃ text, value = .str text

/-- The value is a table with this inside. -/
def IsTable (Inside : Entries → Prop) (value : Value) : Prop :=
  ∃ entries, value = .map entries ∧ Inside entries

/-- The value is a table with this inside, or an empty value, which stands for a table without entries. -/
def IsOptionalTable (Inside : Entries → Prop) (value : Value) : Prop :=
  value.isEmpty = true ∨ IsTable Inside value

/-- The value has parts, and they are all of one kind. -/
def Lists (Item : Value → Prop) (value : Value) : Prop :=
  ∃ items, value.parts? = some items ∧ ∀ item ∈ items, Item item

/-- What stands under the key, if anything does, is of this kind. -/
def Under (key : String) (Kind : Value → Prop) (entries : Entries) : Prop :=
  ∀ value, Value.lookup? key.toList entries = some value → Kind value

/-- A table of package directories. -/
def NamesDirectories (entries : Entries) : Prop :=
  ∀ entry ∈ entries, IsText entry.2

/-- The packages of a build: a table, which may list where they are found, or any other value. -/
def FindsRoots (value : Value) : Prop :=
  ∀ entries, value = .map entries →
    Under "find" (IsOptionalTable (Under "where" (Lists IsText))) entries

/-- A package that is included: a table without name, or with texts as its name and its source. -/
def IsInclusion (package : Entries) : Prop :=
  Under "include" (fun name => name.isEmpty = true) package ∨
    Under "include" IsText package ∧ Under "from" IsText package

/-- A table of package directories and of the places where packages are found. -/
def IsSetuptools (entries : Entries) : Prop :=
  Under "package-dir" (IsOptionalTable NamesDirectories) entries ∧ Under "packages" FindsRoots entries

/-- A table of included packages. -/
def IsPoetry (entries : Entries) : Prop :=
  Under "packages" (Lists (IsTable IsInclusion)) entries

/-- The tables of a manifest that tie packages to directories are tables, and hold what they have to. -/
def WellShaped (document : Entries) : Prop :=
  Under "tool" (IsTable fun tool =>
    Under "setuptools" (IsTable IsSetuptools) tool ∧ Under "poetry" (IsTable IsPoetry) tool) document

/-! ## Entries -/

theorem entry_map (key : String) (default : Value) (entries : Entries) :
    entry key default (.map entries) = .ok ((Value.lookup? key.toList entries).getD default) :=
  rfl

theorem isTable_of_entry (isEntry : entry key default table = .ok value) :
    ∃ entries, table = .map entries := by
  cases table with
  | map entries => exact ⟨entries, rfl⟩
  | _ => exact absurd isEntry (by simp [entry])

theorem under_of_none {Kind : Value → Prop} (missing : Value.lookup? key.toList entries = none) :
    Under key Kind entries := by
  intro value isThere
  rw [missing] at isThere
  exact absurd isThere (by simp)

theorem under_iff_of_some {Kind : Value → Prop} (isThere : Value.lookup? key.toList entries = some value) :
    Under key Kind entries ↔ Kind value := by
  unfold Under
  rw [isThere]
  simp

/-- An entry that may be missing is of a kind that its default is of, too. -/
theorem getD_iff_under {Kind : Value → Prop} (isKind : Kind default) :
    Kind ((Value.lookup? key.toList entries).getD default) ↔ Under key Kind entries := by
  cases found : Value.lookup? key.toList entries with
  | none => exact iff_of_true isKind (under_of_none found)
  | some value => exact (under_iff_of_some found).symm

theorem tableEntries_isOk_iff : (∃ found, tableEntries value = .ok found) ↔ ∃ found, value = .map found := by
  cases value <;> simp [tableEntries]

theorem listItems_eq_ok_iff {items : List Value} :
    listItems value = .ok items ↔ value.parts? = some items := by
  unfold listItems
  cases value.parts? <;> simp

theorem directoryIn_isOk_iff (base : Path) : (∃ found, directoryIn base value = .ok found) ↔ IsText value := by
  cases value <;> simp [directoryIn, IsText]

/-! ## The parts of a document -/

/-- The mappings of the table of package directories. -/
def directories (base : Path) (setuptools : Value) : Except Fault (List Mapping) := do
  (← tableEntries (← tableEntry "package-dir" setuptools)).mapM (packageDirectory base)

/-- The mappings of the packages that are included by name. -/
def inclusions (base : Path) (tool : Value) : Except Fault (List (List Mapping)) := do
  let poetry ← entry "poetry" (.map []) tool
  (← listItems (← entry "packages" (.list []) poetry)).mapM (includedPackage base)

theorem declared_eq_ok_iff {found : List Mapping} :
    declared base document = .ok found ↔
      ∃ tool setuptools packages roots included,
        entry "tool" (.map []) (.map document) = .ok tool ∧
        entry "setuptools" (.map []) tool = .ok setuptools ∧
        directories base setuptools = .ok packages ∧
        sourceRoots base setuptools = .ok roots ∧
        inclusions base tool = .ok included ∧
        found = packages ++ roots ++ included.flatten := by
  simp only [declared, directories, inclusions, bind_eq_ok_iff, pure, Except.pure, Except.ok.injEq]
  constructor
  · rintro ⟨tool, isTool, setuptools, isSetuptools, value, isValue, rows, isRows, packages, arePackages,
      roots, areRoots, poetry, isPoetry, listed, isListed, items, areItems, included, areIncluded, rfl⟩
    exact ⟨tool, setuptools, packages, roots, included, isTool, isSetuptools,
      ⟨value, isValue, rows, isRows, arePackages⟩, areRoots,
      ⟨poetry, isPoetry, listed, isListed, items, areItems, areIncluded⟩, rfl⟩
  · rintro ⟨tool, setuptools, packages, roots, included, isTool, isSetuptools,
      ⟨value, isValue, rows, isRows, arePackages⟩, areRoots,
      ⟨poetry, isPoetry, listed, isListed, items, areItems, areIncluded⟩, rfl⟩
    exact ⟨tool, isTool, setuptools, isSetuptools, value, isValue, rows, isRows, packages, arePackages,
      roots, areRoots, poetry, isPoetry, listed, isListed, items, areItems, included, areIncluded, rfl⟩

/-! ## When a part declares its mappings -/

theorem packageDirectory_isOk_iff {row : Value × Value} :
    (∃ mapping, packageDirectory base row = .ok mapping) ↔ IsText row.2 := by
  rw [packageDirectory, bind_isOk_iff, ← directoryIn_isOk_iff base]
  simp [pure, Except.pure]

theorem sourceRoot_isOk_iff : (∃ mapping, sourceRoot base value = .ok mapping) ↔ IsText value := by
  rw [sourceRoot, bind_isOk_iff, ← directoryIn_isOk_iff base]
  simp [pure, Except.pure]

/-- What is made of an entry that may be empty is made of a table. -/
theorem tableEntry_bind_isOk_iff {α : Type} {make : Value → Except Fault α}
    (onlyTables : ∀ value made, make value = .ok made → ∃ inside, value = .map inside)
    (ofEmpty : ∃ made, make (.map []) = .ok made) :
    (∃ made, (tableEntry key (.map entries) >>= make) = .ok made) ↔
      Under key (IsOptionalTable fun inside => ∃ made, make (.map inside) = .ok made) entries := by
  have noEntries : IsOptionalTable (fun inside => ∃ made, make (.map inside) = .ok made) (.map []) := .inl rfl
  rw [← getD_iff_under noEntries, bind_isOk_iff, tableEntry, entry_map]
  simp only [bind, Except.bind, pure, Except.pure, Except.ok.injEq, exists_eq_left']
  generalize (Value.lookup? key.toList entries).getD (.map []) = value
  cases isEmpty : value.isEmpty with
  | true => exact iff_of_true ofEmpty (.inl isEmpty)
  | false =>
      constructor
      · rintro ⟨made, makes⟩
        obtain ⟨inside, isInside⟩ := onlyTables value made makes
        obtain rfl := isInside
        exact .inr ⟨inside, rfl, made, makes⟩
      · rintro (empty | ⟨inside, rfl, made, makes⟩)
        · exact absurd (isEmpty.symm.trans empty) Bool.false_ne_true
        · exact ⟨made, makes⟩

theorem directories_isOk_iff (base : Path) :
    (∃ packages, directories base (.map entries) = .ok packages) ↔
      Under "package-dir" (IsOptionalTable NamesDirectories) entries := by
  have ofTable (inside : Entries) :
      (∃ packages, (tableEntries (.map inside) >>= List.mapM (packageDirectory base)) = .ok packages) ↔
        NamesDirectories inside := by
    rw [bind_isOk_iff]
    simp only [tableEntries, Except.ok.injEq, exists_eq_left', mapM_isOk_iff, packageDirectory_isOk_iff]
    rfl
  rw [directories, tableEntry_bind_isOk_iff]
  · simp only [ofTable]
  · intro value packages isOk
    obtain ⟨rows, isRows, -⟩ := bind_eq_ok_iff.mp isOk
    exact tableEntries_isOk_iff.mp ⟨rows, isRows⟩
  · exact (ofTable []).mpr (by simp [NamesDirectories])

theorem sourceRoots_isOk_iff (base : Path) :
    (∃ roots, sourceRoots base (.map entries) = .ok roots) ↔ Under "packages" FindsRoots entries := by
  have ofTable (inside : Entries) :
      (∃ roots, (do (← listItems (← entry "where" (.list []) (.map inside))).mapM (sourceRoot base)) =
        .ok roots) ↔ Under "where" (Lists IsText) inside := by
    have noRoots : Lists IsText (.list []) := ⟨[], rfl, by simp⟩
    simp only [bind_isOk_iff, entry_map, Except.ok.injEq, exists_eq_left', listItems_eq_ok_iff, mapM_isOk_iff,
      sourceRoot_isOk_iff, ← getD_iff_under noRoots]
    rfl
  have noTable : FindsRoots .null := by
    intro inside isTable
    exact absurd isTable (by simp)
  rw [sourceRoots, bind_isOk_iff, ← getD_iff_under noTable, entry_map]
  simp only [Except.ok.injEq, exists_eq_left']
  generalize (Value.lookup? "packages".toList entries).getD .null = value
  cases value with
  | map found =>
      dsimp only
      rw [tableEntry_bind_isOk_iff]
      · simp only [ofTable, FindsRoots, Value.map.injEq, forall_eq']
      · intro value roots isOk
        obtain ⟨listed, isListed, -⟩ := bind_eq_ok_iff.mp isOk
        exact isTable_of_entry isListed
      · exact (ofTable []).mpr (by simp [Under, Value.lookup?])
  | _ => simp [FindsRoots, pure, Except.pure]

/-- A package that is named is included when its name and its source are texts. -/
theorem includedPackage_named_isOk_iff {package : Entries} {name : Value}
    (isName : Value.lookup? "include".toList package = some name) (filled : name.isEmpty = false) :
    (∃ mappings, includedPackage base (.map package) = .ok mappings) ↔
      IsText name ∧ Under "from" IsText package := by
  have isHere : IsText (.str ".".toList) := ⟨_, rfl⟩
  rw [includedPackage, bind_isOk_iff, ← getD_iff_under isHere]
  simp only [entry_map, isName, Option.getD_some, Except.ok.injEq, exists_eq_left', filled,
    Bool.false_eq_true, if_false, bind_isOk_iff, pure, Except.pure, exists_eq', and_true]
  constructor
  · rintro ⟨source, isSource, found⟩
    exact ⟨(directoryIn_isOk_iff _).mp found, (directoryIn_isOk_iff _).mp ⟨source, isSource⟩⟩
  · rintro ⟨isText, fromText⟩
    obtain ⟨source, isSource⟩ := (directoryIn_isOk_iff _).mpr fromText
    exact ⟨source, isSource, (directoryIn_isOk_iff _).mpr isText⟩

theorem includedPackage_isOk_iff :
    (∃ mappings, includedPackage base value = .ok mappings) ↔ IsTable IsInclusion value := by
  cases value with
  | map package =>
      have inside : IsTable IsInclusion (.map package) ↔ IsInclusion package := by simp [IsTable]
      have unnamed (name : Value) (empty : name.isEmpty = true)
          (isName : (Value.lookup? "include".toList package).getD .null = name) :
          ∃ mappings, includedPackage base (.map package) = .ok mappings := by
        rw [includedPackage, bind_isOk_iff, entry_map, isName]
        simp [empty, pure, Except.pure]
      rw [inside]
      cases isName : Value.lookup? "include".toList package with
      | none =>
          exact iff_of_true (unnamed .null rfl (by rw [isName]; rfl)) (.inl (under_of_none isName))
      | some name =>
          cases filled : name.isEmpty with
          | true =>
              exact iff_of_true (unnamed name filled (by rw [isName]; rfl))
                (.inl ((under_iff_of_some isName).mpr filled))
          | false =>
              rw [includedPackage_named_isOk_iff isName filled, IsInclusion, under_iff_of_some isName,
                under_iff_of_some isName, filled]
              simp
  | _ => simp [includedPackage, entry, IsTable, bind, Except.bind]

theorem inclusions_isOk_iff (base : Path) :
    (∃ included, inclusions base (.map entries) = .ok included) ↔
      Under "poetry" (IsTable IsPoetry) entries := by
  have noPackages : Lists (IsTable IsInclusion) (.list []) := ⟨[], rfl, by simp⟩
  have noTable : IsTable IsPoetry (.map []) := ⟨[], rfl, under_of_none rfl⟩
  rw [inclusions, bind_isOk_iff, ← getD_iff_under noTable, entry_map]
  simp only [Except.ok.injEq, exists_eq_left']
  generalize (Value.lookup? "poetry".toList entries).getD (.map []) = value
  cases value with
  | map poetry =>
      simp only [bind_isOk_iff, entry_map, Except.ok.injEq, exists_eq_left', listItems_eq_ok_iff,
        mapM_isOk_iff, includedPackage_isOk_iff, IsTable, IsPoetry, Value.map.injEq,
        ← getD_iff_under noPackages]
      rfl
  | _ => simp [entry, IsTable, bind, Except.bind]

theorem isTable_of_directories {packages : List Mapping} (isOk : directories base value = .ok packages) :
    ∃ entries, value = .map entries := by
  obtain ⟨_, isEntry, -⟩ := bind_eq_ok_iff.mp isOk
  obtain ⟨_, isEntry, -⟩ := bind_eq_ok_iff.mp isEntry
  exact isTable_of_entry isEntry

/-! ## Documents -/

/-- A document declares its mappings when its tables have the shape that they need. -/
theorem declared_isOk_iff (base : Path) :
    (∃ found, declared base document = .ok found) ↔ WellShaped document := by
  have noSetuptools : IsTable IsSetuptools (.map []) :=
    ⟨[], rfl, under_of_none rfl, under_of_none rfl⟩
  have noTool : IsTable (fun tool =>
      Under "setuptools" (IsTable IsSetuptools) tool ∧ Under "poetry" (IsTable IsPoetry) tool) (.map []) :=
    ⟨[], rfl, under_of_none rfl, under_of_none rfl⟩
  simp only [declared_eq_ok_iff]
  rw [WellShaped, ← getD_iff_under noTool]
  constructor
  · rintro ⟨_, tool, setuptools, packages, roots, included, isTool, isSetuptools, arePackages, areRoots,
      areIncluded, -⟩
    obtain ⟨tool, rfl⟩ := isTable_of_entry isSetuptools
    obtain ⟨setuptools, rfl⟩ := isTable_of_directories arePackages
    refine ⟨tool, Except.ok.inj isTool, ?_, (inclusions_isOk_iff _).mp ⟨_, areIncluded⟩⟩
    rw [← getD_iff_under noSetuptools]
    exact ⟨setuptools, Except.ok.inj isSetuptools, (directories_isOk_iff _).mp ⟨_, arePackages⟩,
      (sourceRoots_isOk_iff _).mp ⟨_, areRoots⟩⟩
  · rintro ⟨tool, isTool, isShaped, isPoetry⟩
    rw [← getD_iff_under noSetuptools] at isShaped
    obtain ⟨setuptools, isSetuptools, namesDirectories, findsRoots⟩ := isShaped
    obtain ⟨packages, arePackages⟩ := (directories_isOk_iff base).mpr namesDirectories
    obtain ⟨roots, areRoots⟩ := (sourceRoots_isOk_iff base).mpr findsRoots
    obtain ⟨included, areIncluded⟩ := (inclusions_isOk_iff base).mpr isPoetry
    exact ⟨_, .map tool, .map setuptools, packages, roots, included, congrArg Except.ok isTool,
      congrArg Except.ok isSetuptools, arePackages, areRoots, areIncluded, rfl⟩

/-! ## Declared mappings -/

/-- The forms of the mappings that a manifest in a directory declares. -/
inductive Form (base : Path) : Mapping → Prop where
  /-- A package in the directory that is named for it. -/
  | directory (name place : Text) :
      Form base ⟨Text.dropAround (· = '.') name, base.join (Path.parse place)⟩
  /-- A directory in which packages are found. -/
  | root (place : Text) : Form base ⟨[], base.join (Path.parse place)⟩
  /-- A package whose name is its way from its source. -/
  | inclusion (name source : Text) :
      Form base ⟨name, (base.join (Path.parse source)).join (Path.parse name)⟩

theorem eq_join_of_directoryIn {found : Path} (isFound : directoryIn base value = .ok found) :
    ∃ text, value = .str text ∧ found = base.join (Path.parse text) := by
  cases value with
  | str text => exact ⟨text, rfl, (Except.ok.inj isFound).symm⟩
  | _ => exact absurd isFound (by simp [directoryIn])

theorem form_of_mem_directories {packages : List Mapping} {mapping : Mapping}
    (declares : directories base value = .ok packages) (member : mapping ∈ packages) :
    Form base mapping := by
  obtain ⟨_, -, declares⟩ := bind_eq_ok_iff.mp declares
  obtain ⟨rows, -, declares⟩ := bind_eq_ok_iff.mp declares
  obtain ⟨row, -, isMapping⟩ := exists_of_mem_mapM declares member
  obtain ⟨found, isFound, isMapping⟩ := bind_eq_ok_iff.mp isMapping
  obtain ⟨place, -, rfl⟩ := eq_join_of_directoryIn isFound
  obtain rfl := Except.ok.inj isMapping
  exact .directory row.1.display place

theorem form_of_mem_sourceRoots {roots : List Mapping} {mapping : Mapping}
    (declares : sourceRoots base value = .ok roots) (member : mapping ∈ roots) : Form base mapping := by
  obtain ⟨packages, -, declares⟩ := bind_eq_ok_iff.mp declares
  split at declares
  · obtain ⟨_, -, declares⟩ := bind_eq_ok_iff.mp declares
    obtain ⟨_, -, declares⟩ := bind_eq_ok_iff.mp declares
    obtain ⟨_, -, declares⟩ := bind_eq_ok_iff.mp declares
    obtain ⟨item, -, isMapping⟩ := exists_of_mem_mapM declares member
    obtain ⟨found, isFound, isMapping⟩ := bind_eq_ok_iff.mp isMapping
    obtain ⟨place, -, rfl⟩ := eq_join_of_directoryIn isFound
    obtain rfl := Except.ok.inj isMapping
    exact .root place
  · obtain rfl := Except.ok.inj declares
    exact absurd member List.not_mem_nil

theorem form_of_mem_includedPackage {mappings : List Mapping} {mapping : Mapping}
    (declares : includedPackage base value = .ok mappings) (member : mapping ∈ mappings) :
    Form base mapping := by
  obtain ⟨name, -, declares⟩ := bind_eq_ok_iff.mp declares
  split at declares
  · obtain rfl := Except.ok.inj declares
    exact absurd member List.not_mem_nil
  · obtain ⟨_, -, declares⟩ := bind_eq_ok_iff.mp declares
    obtain ⟨source, isSource, declares⟩ := bind_eq_ok_iff.mp declares
    obtain ⟨found, isFound, declares⟩ := bind_eq_ok_iff.mp declares
    obtain ⟨sourceText, -, rfl⟩ := eq_join_of_directoryIn isSource
    obtain ⟨nameText, rfl, rfl⟩ := eq_join_of_directoryIn isFound
    obtain rfl := Except.ok.inj declares
    obtain rfl := List.mem_singleton.mp member
    exact .inclusion nameText sourceText

theorem form_of_mem_declared {found : List Mapping} {mapping : Mapping}
    (declares : declared base document = .ok found) (member : mapping ∈ found) : Form base mapping := by
  obtain ⟨tool, setuptools, packages, roots, included, -, -, arePackages, areRoots, areIncluded, rfl⟩ :=
    declared_eq_ok_iff.mp declares
  rcases List.mem_append.mp member with inFront | isIncluded
  · rcases List.mem_append.mp inFront with isPackage | isRoot
    · exact form_of_mem_directories arePackages isPackage
    · exact form_of_mem_sourceRoots areRoots isRoot
  · obtain ⟨mappings, isOne, inside⟩ := List.mem_flatten.mp isIncluded
    obtain ⟨_, -, areIncluded⟩ := bind_eq_ok_iff.mp areIncluded
    obtain ⟨_, -, areIncluded⟩ := bind_eq_ok_iff.mp areIncluded
    obtain ⟨items, -, areIncluded⟩ := bind_eq_ok_iff.mp areIncluded
    obtain ⟨item, -, isMapping⟩ := exists_of_mem_mapM areIncluded isOne
    exact form_of_mem_includedPackage isMapping inside

end SchemaDoc.Manifest
