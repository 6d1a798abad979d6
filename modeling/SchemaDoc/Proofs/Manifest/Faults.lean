import Mathlib.Data.List.Basic
import SchemaDoc.Proofs.Manifest.Declared
import SchemaDoc.Proofs.Settings.Faults
import SchemaDoc.Resolver

/-!
Contract: the manifests that end the search for packages.

A manifest that cannot be opened, or is no TOML document, stands for its own directory, with one warning
(`mappings_of_unreadable`). One that is a document gives its mappings when its tables have the shape that they
need; any other one ends the reading, and so do contents that are no text and integers that are too long
(`mappings_isOk_iff`). The mappings of a project are found when each of its manifests is usable
(`usable_manifests_iff`).
-/

namespace SchemaDoc.Manifest

open Settings (HasText)

variable {tree : FileTree} {path base : Path} {found : List Mapping}

/-! ## One manifest -/

/-- Nothing can be opened at the path, or its text is no document. -/
inductive Unreadable (tree : FileTree) (path : Path) : Prop where
  | unopened {fault : AccessFault} (fails : tree.read path = .error fault) : Unreadable tree path
  | malformed {text : Text} (hasText : HasText tree path text)
      (fails : Toml.parse text = .error .malformed) : Unreadable tree path

/-- The manifest is not read, or is a document of the shape that is needed. -/
inductive Usable (tree : FileTree) (path : Path) : Prop where
  | unread (unreadable : Unreadable tree path) : Usable tree path
  | document {text : Text} {document : Toml.Entries} (hasText : HasText tree path text)
      (isToml : Toml.parse text = .ok document) (isShaped : WellShaped document) : Usable tree path

/-- What is warned about a manifest that cannot be read. -/
def unreadRecord (path : Path) : Log.Record :=
  .warning ("Cannot read manifest " ++ path.render)

theorem read_of_unreadable (unreadable : Unreadable tree path) :
    read tree path = ([unreadRecord path], .ok []) := by
  unfold read
  cases unreadable with
  | unopened fails =>
      rw [fails]
      rfl
  | malformed hasText fails =>
      obtain ⟨bytes, isRead, isText⟩ := hasText
      rw [isRead]
      dsimp only
      rw [isText]
      dsimp only
      rw [fails]
      rfl

theorem read_of_hasText {text : Text} {document : Toml.Entries} (hasText : HasText tree path text)
    (isToml : Toml.parse text = .ok document) : read tree path = ([], .ok document) := by
  obtain ⟨bytes, isRead, isText⟩ := hasText
  unfold read
  rw [isRead]
  dsimp only
  rw [isText]
  dsimp only
  rw [isToml]

/-- A manifest is not readable, is a document, or ends the reading without a warning. -/
theorem read_cases (tree : FileTree) (path : Path) :
    Unreadable tree path ∨
      (∃ text document, HasText tree path text ∧ Toml.parse text = .ok document) ∨
      ∃ fault, read tree path = ([], .error fault) := by
  cases isRead : tree.read path with
  | error fault => exact .inl (.unopened isRead)
  | ok bytes =>
      cases isText : Encoding.decodeUtf8 bytes with
      | none => exact .inr (.inr ⟨.undecodable, by simp only [read, isRead, isText]⟩)
      | some text =>
          have hasText : HasText tree path text := ⟨bytes, isRead, isText⟩
          cases isToml : Toml.parse text with
          | ok document => exact .inr (.inl ⟨text, document, hasText, isToml⟩)
          | error fault =>
              cases fault with
              | malformed => exact .inl (.malformed hasText isToml)
              | tooLong => exact .inr (.inr ⟨.numberTooLong, by simp only [read, isRead, isText, isToml]⟩)

theorem orFlat_ne_nil (base : Path) (mappings : List Mapping) : orFlat base mappings ≠ [] := by
  unfold orFlat
  split
  · simp
  · next filled => simpa using filled

/-- A manifest that cannot be read stands for its own directory, with one warning. -/
theorem mappings_of_unreadable (unreadable : Unreadable tree path) :
    mappings tree path = ([unreadRecord path], .ok [⟨[], path.parent⟩]) := by
  unfold mappings
  rw [read_of_unreadable unreadable]
  rfl

theorem mappings_of_hasText {text : Text} {document : Toml.Entries} (hasText : HasText tree path text)
    (isToml : Toml.parse text = .ok document) :
    mappings tree path = ([], (declared path.parent document).map (orFlat path.parent)) := by
  unfold mappings
  rw [read_of_hasText hasText isToml]
  rfl

theorem mappings_of_fault {fault : Fault} (fails : read tree path = ([], .error fault)) :
    mappings tree path = ([], .error fault) := by
  unfold mappings
  rw [fails]
  rfl

/-- The mappings of a manifest are its flat source root when it is not read, and what it declares otherwise. -/
theorem declared_of_mappings (gives : (mappings tree path).2 = .ok found) :
    (Unreadable tree path ∧ found = [⟨[], path.parent⟩]) ∨
      ∃ text document listed, HasText tree path text ∧ Toml.parse text = .ok document ∧
        declared path.parent document = .ok listed ∧ found = orFlat path.parent listed := by
  rcases read_cases tree path with unreadable | ⟨text, document, hasText, isToml⟩ | ⟨fault, fails⟩
  · rw [mappings_of_unreadable unreadable] at gives
    exact .inl ⟨unreadable, (Except.ok.inj gives).symm⟩
  · rw [mappings_of_hasText hasText isToml] at gives
    dsimp only at gives
    cases declares : declared path.parent document with
    | error fault =>
        rw [declares] at gives
        exact absurd gives (by simp [Except.map])
    | ok listed =>
        rw [declares] at gives
        exact .inr ⟨text, document, listed, hasText, isToml, declares, (Except.ok.inj gives).symm⟩
  · rw [mappings_of_fault fails] at gives
    exact absurd gives (by simp)

theorem mappings_ne_nil (gives : (mappings tree path).2 = .ok found) : found ≠ [] := by
  rcases declared_of_mappings gives with ⟨-, rfl⟩ | ⟨_, _, listed, -, -, -, rfl⟩
  · simp
  · exact orFlat_ne_nil path.parent listed

theorem mappings_isOk_iff : (∃ found, (mappings tree path).2 = .ok found) ↔ Usable tree path := by
  constructor
  · rintro ⟨found, gives⟩
    rcases declared_of_mappings gives with
      ⟨unreadable, -⟩ | ⟨text, document, listed, hasText, isToml, declares, -⟩
    · exact .unread unreadable
    · exact .document hasText isToml ((declared_isOk_iff _).mp ⟨listed, declares⟩)
  · intro usable
    cases usable with
    | unread unreadable => exact ⟨_, by rw [mappings_of_unreadable unreadable]⟩
    | document hasText isToml isShaped =>
        obtain ⟨listed, declares⟩ := (declared_isOk_iff path.parent).mpr isShaped
        rw [mappings_of_hasText hasText isToml, declares]
        exact ⟨_, rfl⟩

/-- Nothing but a manifest that cannot be read is warned about. -/
theorem mappings_records (tree : FileTree) (path : Path) :
    Unreadable tree path ∨ (mappings tree path).1 = [] := by
  rcases read_cases tree path with unreadable | ⟨text, document, hasText, isToml⟩ | ⟨fault, fails⟩
  · exact .inl unreadable
  · rw [mappings_of_hasText hasText isToml]
    exact .inr rfl
  · rw [mappings_of_fault fails]
    exact .inr rfl

/-! ## The manifests of a project -/

theorem readAll_isOk_iff (tree : FileTree) (paths : List Path) :
    (∃ found, (Resolver.readAll tree paths).2 = .ok found) ↔ ∀ path ∈ paths, Usable tree path := by
  induction paths with
  | nil => simp [Resolver.readAll]
  | cons path rest inductionHypothesis =>
      rw [List.forall_mem_cons, ← inductionHypothesis, ← mappings_isOk_iff, Resolver.readAll]
      rcases mappings tree path with ⟨records, fault | found⟩
      · simp
      · rcases Resolver.readAll tree rest with ⟨more, fault | others⟩
        · simp [Except.map]
        · simp [Except.map]

theorem resolver_isOk_iff (tree : FileTree) (resolver : Resolver) :
    (∃ found, (resolver.mappings tree).2.2 = .ok found) ↔
      resolver.known.isSome = true ∨ ∀ manifest ∈ resolver.manifestFiles tree, Usable tree manifest := by
  rw [← readAll_isOk_iff, Resolver.mappings]
  cases resolver.known with
  | some known => simp
  | none =>
      rcases Resolver.readAll tree (resolver.manifestFiles tree) with ⟨records, fault | found⟩
      · simp
      · simp

/-- A manifest gives its mappings, which are never none, when it is usable. One that is not readable gives its
own directory and is warned about, and no other one is. The mappings of a project are found when they are
known or each of its manifests is usable. -/
theorem usable_manifests_iff (tree : FileTree) :
    (∀ path, (∃ found, (mappings tree path).2 = .ok found) ↔ Usable tree path) ∧
      (∀ path found, (mappings tree path).2 = .ok found → found ≠ []) ∧
      (∀ path, Unreadable tree path ∧
          mappings tree path = ([unreadRecord path], .ok [⟨[], path.parent⟩]) ∨
        ¬ Unreadable tree path ∧ (mappings tree path).1 = []) ∧
      ∀ resolver : Resolver, (∃ found, (resolver.mappings tree).2.2 = .ok found) ↔
        resolver.known.isSome = true ∨ ∀ manifest ∈ resolver.manifestFiles tree, Usable tree manifest := by
  refine ⟨fun path => mappings_isOk_iff, fun path found => mappings_ne_nil, ?_, resolver_isOk_iff tree⟩
  intro path
  by_cases unreadable : Unreadable tree path
  · exact .inl ⟨unreadable, mappings_of_unreadable unreadable⟩
  · exact .inr ⟨unreadable, (mappings_records tree path).resolve_left unreadable⟩

/-- A project whose own manifest is no document, with a module whose manifest names a directory. -/
def tornProject : FileTree where
  files := [(["pyproject.toml".toList], Encoding.encodeUtf8 "this is = = no\n".toList),
    (["modules".toList, "billing".toList, "pyproject.toml".toList],
      Encoding.encodeUtf8 "[tool.setuptools.package-dir]\nbilling = \"src\"\n".toList)]
  directories := []

def ownManifest : Path := ⟨.project, ["pyproject.toml".toList]⟩

theorem usable_manifests_torn :
    ((Resolver.create .project "modules".toList).mappings tornProject).2.2 =
        .ok [⟨[], .project⟩,
          ⟨"billing".toList, ⟨.project, ["modules".toList, "billing".toList, "src".toList]⟩⟩] ∧
      Unreadable tornProject ownManifest ∧
      ∀ manifest ∈ (Resolver.create .project "modules".toList).manifestFiles tornProject,
        Usable tornProject manifest := by
  obtain ⟨-, -, warned, found⟩ := usable_manifests_iff tornProject
  have gives : ((Resolver.create .project "modules".toList).mappings tornProject).2.2 =
      .ok [⟨[], .project⟩,
        ⟨"billing".toList, ⟨.project, ["modules".toList, "billing".toList, "src".toList]⟩⟩] := by
    decide +kernel
  refine ⟨gives, ?_, ((found _).mp ⟨_, gives⟩).resolve_left (by decide)⟩
  rcases warned ownManifest with ⟨unreadable, -⟩ | ⟨-, silent⟩
  · exact unreadable
  · have records : (mappings tornProject ownManifest).1 = [unreadRecord ownManifest] := by
      decide +kernel
    rw [records] at silent
    exact absurd silent (by simp)

/-- A project whose manifest has this content. -/
def projectWith (content : Bytes) : FileTree :=
  ⟨[(["pyproject.toml".toList], content)], []⟩

/-- Contents that are no text, and a value where a table has to be, end the reading of a manifest and of the
manifests of its project, without a warning. -/
theorem manifests_end :
    let noText := projectWith [0xFF]
    let noTable := projectWith (Encoding.encodeUtf8 "tool = 1\n".toList)
    let resolver := Resolver.create .project "modules".toList
    (∀ found, (mappings noText ownManifest).2 ≠ .ok found) ∧
      (∀ found, (mappings noTable ownManifest).2 ≠ .ok found) ∧
      (resolver.mappings noText).2 = ([], .error .undecodable) ∧
      (resolver.mappings noTable).2 = ([], .error .noTable) := by
  intro noText noTable resolver
  have isUndecodable : (mappings noText ownManifest).2 = .error .undecodable := by decide +kernel
  have hasNoTable : (mappings noTable ownManifest).2 = .error .noTable := by decide +kernel
  refine ⟨?_, ?_, by decide +kernel, by decide +kernel⟩
  · intro found
    rw [isUndecodable]
    simp
  · intro found
    rw [hasNoTable]
    simp

end SchemaDoc.Manifest
