import SchemaDoc.Settings.Load

/-!
Contract: the ways in which settings are loaded, or are not.

Loading has four parts, each of which may fail: the file is found, it is read, the environment is put
in, and the result is validated. `loads` says which part decided.
-/

namespace SchemaDoc.Settings

/-- The entries that are read of a settings file; without one there are none. -/
def FileGives (tree : FileTree) (path : Option Path) (file : List (Value × Value)) : Prop :=
  match path with
  | some path => ∃ records, readFile tree path = .ok (file, records)
  | none => file = []

section Parts

variable {tree : FileTree} {environment : Environment} {root : Path} {given : Option Text}

theorem load_of_notFound {fault : LoadFault}
    (fails : findFile tree environment root given = .error fault) :
    load tree environment root given = .error fault := by
  simp only [load, fails, bind, Except.bind]

theorem load_of_notRead {path : Path} {found : List Log.Record} {fault : LoadFault}
    (finds : findFile tree environment root given = .ok (some path, found))
    (fails : readFile tree path = .error fault) :
    load tree environment root given = .error fault := by
  simp only [load, finds, fails, bind, Except.bind]

/-- Loading behind the reading of the file. -/
theorem load_of_file {path : Option Path} {found : List Log.Record} {file : List (Value × Value)}
    (finds : findFile tree environment root given = .ok (path, found))
    (gives : FileGives tree path file) :
    ∃ read, load tree environment root given =
      match environment.override (environment.substituteEntries file) with
      | .error fault => .error (.shape fault)
      | .ok (after, overridden) =>
        match validate (.map after) with
        | .ok settings => .ok (settings, found ++ read ++ overridden)
        | .error issues => .error (.invalid (path.elim "environment" Path.render) after issues) := by
  cases path with
  | none =>
      obtain rfl : file = [] := gives
      exact ⟨[], by rw [load, finds]; rfl⟩
  | some path =>
      obtain ⟨read, reads⟩ := gives
      exact ⟨read, by
        simp only [load, finds, reads, bind, Except.bind]
        rfl⟩

end Parts

/-- What loading comes to, by the part that decides. -/
inductive Loads (tree : FileTree) (environment : Environment) (root : Path) (given : Option Text) :
    Except LoadFault (Settings × List Log.Record) → Prop where
  | notFound {fault : LoadFault}
      (fails : findFile tree environment root given = .error fault) :
      Loads tree environment root given (.error fault)
  | notRead {path : Path} {found : List Log.Record} {fault : LoadFault}
      (finds : findFile tree environment root given = .ok (some path, found))
      (fails : readFile tree path = .error fault) :
      Loads tree environment root given (.error fault)
  | shapeless {path : Option Path} {found : List Log.Record} {file : List (Value × Value)}
      {fault : Value.ShapeFault}
      (finds : findFile tree environment root given = .ok (path, found))
      (gives : FileGives tree path file)
      (fails : environment.override (environment.substituteEntries file) = .error fault) :
      Loads tree environment root given (.error (.shape fault))
  | invalid {path : Option Path} {found overridden : List Log.Record}
      {file after : List (Value × Value)} {issues : List Issue}
      (finds : findFile tree environment root given = .ok (path, found))
      (gives : FileGives tree path file)
      (overrides : environment.override (environment.substituteEntries file) =
        .ok (after, overridden))
      (fails : validate (.map after) = .error issues) :
      Loads tree environment root given
        (.error (.invalid (path.elim "environment".toList Path.render) after issues))
  | valid {path : Option Path} {found overridden records : List Log.Record}
      {file after : List (Value × Value)} {settings : Settings}
      (finds : findFile tree environment root given = .ok (path, found))
      (gives : FileGives tree path file)
      (overrides : environment.override (environment.substituteEntries file) =
        .ok (after, overridden))
      (validates : validate (.map after) = .ok settings) :
      Loads tree environment root given (.ok (settings, records))

theorem loads (tree : FileTree) (environment : Environment) (root : Path) (given : Option Text) :
    Loads tree environment root given (load tree environment root given) := by
  have behind {path : Option Path} {found : List Log.Record} {file : List (Value × Value)}
      (finds : findFile tree environment root given = .ok (path, found))
      (gives : FileGives tree path file) :
      Loads tree environment root given (load tree environment root given) := by
    obtain ⟨read, loading⟩ := load_of_file finds gives
    rw [loading]
    cases overrides : environment.override (environment.substituteEntries file) with
    | error fault => exact .shapeless finds gives overrides
    | ok result =>
        obtain ⟨after, overridden⟩ := result
        dsimp only
        cases validates : validate (.map after) with
        | error issues => exact .invalid finds gives overrides validates
        | ok settings => exact .valid finds gives overrides validates
  cases finds : findFile tree environment root given with
  | error fault =>
      rw [load_of_notFound finds]
      exact .notFound finds
  | ok found =>
      obtain ⟨path, found⟩ := found
      cases path with
      | none => exact behind finds rfl
      | some path =>
          cases reads : readFile tree path with
          | error fault =>
              rw [load_of_notRead finds reads]
              exact .notRead finds reads
          | ok read => exact behind finds ⟨read.2, reads⟩

end SchemaDoc.Settings
