import Mathlib.Data.List.Nodup
import SchemaDoc.Proofs.Block.Above
import SchemaDoc.Proofs.Text.Blank

/-!
Contract: the class statement above which a block goes.

Insertion takes a class statement of the file whenever there is one with the last part of the name, and
the one at the end of the name's path if the path leads to one (`target_complete`). It is a statement of
that qualified name where the path leads to one, or where the first statement of the last part, level
by level, happens to have the name (`target_named_iff`).
-/

namespace SchemaDoc.Block

open Source (SourceFile ClassStatement LeadsTo IsFirstByLevel shortName)

variable {nameOf : Text → Option Nat} {content qualname : Text} {file : SourceFile}
  {found : ClassStatement}

theorem locate_of_read (isRead : SourceFile.read nameOf content = .ok file) :
    locate nameOf content qualname =
      match file.find? qualname with
      | none => .error .classMissing
      | some found => .ok (file.firstLine found) := by
  rewrite [locate, isRead]
  rfl

theorem insert_classMissing_iff (isRead : SourceFile.read nameOf content = .ok file)
    (path block : Text) :
    (∃ fault, insert nameOf content qualname block = .error fault ∧
        fault.report? path qualname =
          some (.writing path ("class " ++ qualname ++ " is not defined in this file"))) ↔
      file.find? qualname = none := by
  rw [insert, insertWith, locate_of_read isRead]
  constructor
  · rintro ⟨fault, isFault, reported⟩
    cases isFound : file.find? qualname with
    | none => rfl
    | some found =>
        rw [isFound] at isFault
        dsimp only at isFault
        split at isFault
        · obtain rfl := Except.error.inj isFault
          exact absurd reported (by simp [PlacementFault.report?])
        · exact absurd isFault (by simp)
  · intro isNone
    rw [isNone]
    exact ⟨.classMissing, rfl, rfl⟩

/-- The search for a class is complete. Insertion reports that a class is not defined exactly where no
class statement of the file has the last part of its name; a class statement that is taken is one of the
file's and has this name, and it is the end of the name's path where the path leads to one. -/
theorem target_complete (file : SourceFile) (qualname : Text) :
    (∀ nameOf content path block, SourceFile.read nameOf content = .ok file →
      ((∃ fault, insert nameOf content qualname block = .error fault ∧
          fault.report? path qualname =
            some (.writing path ("class " ++ qualname ++ " is not defined in this file"))) ↔
        ∀ entry ∈ file.classes, entry.2.head.name ≠ shortName qualname) ∧
      ∀ found, file.find? qualname = some found →
        locate nameOf content qualname = .ok (file.firstLine found)) ∧
    (file.find? qualname = none ↔
      ∀ entry ∈ file.classes, entry.2.head.name ≠ shortName qualname) ∧
    (∀ found, file.find? qualname = some found →
      (∃ name, (name, found) ∈ file.classes) ∧ found.head.name = shortName qualname) ∧
    ∀ found, LeadsTo (Text.splitOnChar '.' qualname) file.statements found →
      file.find? qualname = some found := by
  have missing : file.find? qualname = none ↔
      ∀ entry ∈ file.classes, entry.2.head.name ≠ shortName qualname := by
    rw [SourceFile.find?_eq_none_iff, List.forall_mem_map]
  refine ⟨fun nameOf content path block isRead => ⟨?_, fun found isFound => ?_⟩, missing, ?_, ?_⟩
  · rw [insert_classMissing_iff isRead, missing]
  · exact locate_eq_ok isRead isFound
  · intro found isFound
    obtain ⟨member, same⟩ := SourceFile.find?_sound isFound
    obtain ⟨⟨name, statement⟩, isEntry, rfl⟩ := List.mem_map.mp member
    exact ⟨⟨name, isEntry⟩, same⟩
  · intro found leads
    exact SourceFile.find?_eq_some_iff.mpr (.inl leads)

/-- A class statement at the end of a name's path has this name. -/
theorem mem_classes_of_leadsTo
    (leads : LeadsTo (Text.splitOnChar '.' qualname) file.statements found) :
    (qualname, found) ∈ file.classes := by
  have member := leads.mem_classes
  rwa [Text.join_splitOnChar] at member

/-- No two class statements of a file stand at one place, so each has one name. -/
theorem entry_eq_of_place_eq (isRead : SourceFile.read nameOf content = .ok file)
    {entry other : Text × ClassStatement} (member : entry ∈ file.classes)
    (isOther : other ∈ file.classes) (same : entry.2.head.place = other.2.head.place) :
    entry = other := by
  obtain ⟨placed, -, parsed, -⟩ := SourceFile.tokens_of_read isRead
  have distinct := Source.nodup_places parsed
  rw [Source.statementsHeads, List.map_map] at distinct
  exact List.inj_on_of_nodup_map distinct member isOther same

/-- The block of a class goes above a class statement of this qualified name exactly where the path of
the name leads to one, or where the first statement of the last part, level by level, has the name.
Two names for which this is so do not share a class statement. -/
theorem target_named_iff (isRead : SourceFile.read nameOf content = .ok file) (qualname : Text) :
    ((∃ found, locate nameOf content qualname = .ok (file.firstLine found) ∧
        file.find? qualname = some found ∧ (qualname, found) ∈ file.classes) ↔
      (∃ found, LeadsTo (Text.splitOnChar '.' qualname) file.statements found) ∨
        ∃ found, found.head.name = shortName qualname ∧
          IsFirstByLevel (file.statements.map .statement) found ∧ (qualname, found) ∈ file.classes) ∧
    ∀ other found found', file.find? qualname = some found → (qualname, found) ∈ file.classes →
      file.find? other = some found' → (other, found') ∈ file.classes →
      found.head.place = found'.head.place → other = qualname := by
  refine ⟨⟨?_, ?_⟩, ?_⟩
  · rintro ⟨found, -, isFound, isNamed⟩
    rcases SourceFile.find?_eq_some_iff.mp isFound with leads | ⟨-, same, isFirst⟩
    · exact .inl ⟨found, leads⟩
    · exact .inr ⟨found, same, isFirst, isNamed⟩
  · intro reached
    have isFound : ∃ found, file.find? qualname = some found ∧ (qualname, found) ∈ file.classes := by
      by_cases onPath : ∃ found, LeadsTo (Text.splitOnChar '.' qualname) file.statements found
      · obtain ⟨found, leads⟩ := onPath
        exact ⟨found, SourceFile.find?_eq_some_iff.mpr (.inl leads), mem_classes_of_leadsTo leads⟩
      · obtain ⟨found, same, isFirst, isNamed⟩ := reached.resolve_left onPath
        have noPath := not_exists.mp onPath
        exact ⟨found, SourceFile.find?_eq_some_iff.mpr (.inr ⟨noPath, same, isFirst⟩), isNamed⟩
    obtain ⟨found, isFound, isNamed⟩ := isFound
    exact ⟨found, locate_eq_ok isRead isFound, isFound, isNamed⟩
  · intro other found found' _ isNamed _ isOther same
    have sameEntry := entry_eq_of_place_eq isRead isNamed isOther same
    exact (congrArg Prod.fst sameEntry).symm

namespace Sample

/-- The class `User`, whose first word stands at a place among the tokens. -/
def userAt (place : Nat) : ClassStatement :=
  ⟨⟨place, className, [], []⟩, [.simple .pass]⟩

/-- A class with the class `User` inside. -/
def outer : ClassStatement :=
  ⟨⟨0, "Outer".toList, [], []⟩, [.classDef (userAt 5).head (userAt 5).body]⟩

def nestedSource : Text := "class Outer:\n    class User:\n        pass\n"

def nestedFile : SourceFile :=
  ⟨[.classDef outer.head outer.body], [1, 1, 1, 1, 2, 2, 2, 2, 2, 3, 3, 3, 4, 4, 4]⟩

theorem read_nestedSource : SourceFile.read (fun _ => none) nestedSource = .ok nestedFile := by
  rfl

theorem leadsTo_nestedFile :
    LeadsTo (Text.splitOnChar '.' "Outer.User".toList) nestedFile.statements (userAt 5) :=
  ClassStatement.atPath?_eq_some_iff.mp rfl

/-- A class `User` in another class, and a second one in a conditional. -/
def shadowedSource : Text :=
  nestedSource ++ "if True:\n    class User:\n        pass\n".toList

def shadowedFile : SourceFile :=
  ⟨[.classDef outer.head outer.body, .compound (.condition (.constant "True"))
      [.mk .main [.classDef (userAt 19).head (userAt 19).body]]],
    [1, 1, 1, 1, 2, 2, 2, 2, 2, 3, 3, 3, 4, 4, 4, 4, 4, 4, 5, 5, 5, 5, 5, 6, 6, 6, 7, 7, 7]⟩

end Sample

theorem target_named_sample :
    ∃ found, locate (fun _ => none) Sample.nestedSource "Outer.User".toList =
        .ok (Sample.nestedFile.firstLine found) ∧
      Sample.nestedFile.find? "Outer.User".toList = some found ∧
        ("Outer.User".toList, found) ∈ Sample.nestedFile.classes :=
  (target_named_iff Sample.read_nestedSource "Outer.User".toList).1.mpr
    (.inl ⟨Sample.userAt 5, Sample.leadsTo_nestedFile⟩)

/-- The class in the conditional is not reached: its name and that of the class inside the other one
share the statement of the latter. -/
theorem target_in_conditional :
    SourceFile.read (fun _ => none) Sample.shadowedSource = .ok Sample.shadowedFile ∧
      ("User".toList, Sample.userAt 19) ∈ Sample.shadowedFile.classes ∧
      Sample.shadowedFile.find? "User".toList = some (Sample.userAt 5) ∧
      Sample.shadowedFile.find? "Outer.User".toList = some (Sample.userAt 5) ∧
      ∀ name, (name, Sample.userAt 5) ∈ Sample.shadowedFile.classes → name = "Outer.User".toList := by
  have areClasses : Sample.shadowedFile.classes =
      [("Outer".toList, Sample.outer), ("Outer.User".toList, Sample.userAt 5),
        ("User".toList, Sample.userAt 19)] := by
    rfl
  refine ⟨rfl, ?_, rfl, rfl, ?_⟩
  · rw [areClasses]
    simp
  · intro name member
    rw [areClasses] at member
    simpa [Sample.userAt, Sample.outer] using member

end SchemaDoc.Block
