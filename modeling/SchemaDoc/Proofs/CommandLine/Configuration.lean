import SchemaDoc.Proofs.CommandLine.Failure
import SchemaDoc.Proofs.Settings.Faults
import SchemaDoc.Proofs.Settings.Validation

/-!
Contract: how the command ends when its settings cannot be loaded.

Settings are loaded, or a fault of the configuration is printed and the status is 1, exactly when the
configuration does not escape (`load_reports_iff`).
-/

namespace SchemaDoc.CommandLine

open Settings

/-- The project directory that a command is given. -/
def Options.root (options : Options) : Path :=
  FileTree.resolve ((options.projectRoot.map Path.parse).getD .project)

/-- The settings file that a command is given. -/
def Options.settingsFile (options : Options) : Option Text :=
  options.config.map fun path => (Path.parse path).render

theorem loadMessage?_of_isConfiguration (wording : Wording) {fault : LoadFault}
    (isConfiguration : fault.IsConfiguration) :
    ∃ component reason,
      loadMessage? wording fault = some (Fault.configuration component reason).message := by
  cases fault with
  | reported report =>
      cases report with
      | configuration component reason => exact ⟨component, reason, rfl⟩
      | _ => exact absurd isConfiguration id
  | invalid source entries issues => exact ⟨source, _, rfl⟩
  | notToml name text => exact ⟨name, _, rfl⟩
  | _ => exact absurd isConfiguration id

/-- The command prints the fault as one of the configuration, and ends with the status of a
failure. -/
def Reports (site : Site) (options : Options) (fault : LoadFault) : Prop :=
  fault.IsConfiguration ∧ ∃ component reason,
    loadMessage? site.wording fault = some (Fault.configuration component reason).message ∧
      ∀ nameOf stamp logIsChosen session, ∃ after,
        PrintsFault (.configuration component reason) session after ∧
          generate nameOf stamp site logIsChosen options session =
            finish site after (.error (.exited 1))

theorem reports_of_isConfiguration {site : Site} {options : Options} {fault : LoadFault}
    (fails : load site.tree site.environment options.root options.settingsFile = .error fault)
    (isConfiguration : fault.IsConfiguration) : Reports site options fault := by
  obtain ⟨component, reason, message⟩ := loadMessage?_of_isConfiguration site.wording isConfiguration
  refine ⟨isConfiguration, component, reason, message, ?_⟩
  intro nameOf stamp logIsChosen session
  obtain ⟨after, prints, exits⟩ :=
    fail_run (α := Settings) (.configuration component reason) session
  refine ⟨after, prints, ?_⟩
  have stops : (loadSettings stamp site options.root logIsChosen options).run session =
      (.error (.exited 1), after) := by
    unfold Options.root Options.settingsFile at fails
    simp only [loadSettings, Options.root, fails, message, exits]
  have opens : (openRun stamp site options.root logIsChosen options).run session =
      (.error (.exited 1), after) := by
    rw [openRun, Computation.run_bind, stops]
  unfold Options.root at opens
  simp only [generate, opens]

/-- Settings are loaded, as validation gives them. -/
def IsLoaded (site : Site) (root : Path) (given : Option Text) : Prop :=
  ∃ entries settings records,
    load site.tree site.environment root given = .ok (settings, records) ∧ Reads entries settings

theorem load_isConfiguration_iff (site : Site) (root : Path) (given : Option Text) :
    (IsLoaded site root given ∨
        ∃ fault, load site.tree site.environment root given = .error fault ∧
          fault.IsConfiguration) ↔
      ¬ Escapes site.tree site.environment root given := by
  rw [← load_unreported_iff]
  constructor
  · rintro (⟨entries, settings, records, loads, -⟩ | ⟨fault, fails, isConfiguration⟩)
    · rw [loads]
      exact not_unreported_ok _
    · rw [fails, unreported_error_iff]
      exact fun unreported => unreported isConfiguration
  · intro reported
    have loading := Settings.loads site.tree site.environment root given
    cases result : load site.tree site.environment root given with
    | error fault =>
        refine .inr ⟨fault, rfl, ?_⟩
        rw [result, unreported_error_iff] at reported
        exact not_not.mp reported
    | ok loaded =>
        rw [result] at loading
        cases loading with
        | valid finds gives overrides validates =>
            exact .inl ⟨_, _, _, result, validate_eq_ok_iff.mp validates⟩

/-- Settings are loaded, or their fault is one of the configuration, which the command reports, unless
the configuration escapes. -/
theorem load_reports_iff (site : Site) (root : Path) (given : Option Text) (options : Options) :
    ((IsLoaded site root given ∨
        ∃ fault, load site.tree site.environment root given = .error fault ∧
          fault.IsConfiguration) ↔
      ¬ Escapes site.tree site.environment root given) ∧
    ((IsLoaded site options.root options.settingsFile ∨
        ∃ fault, load site.tree site.environment options.root options.settingsFile =
            .error fault ∧
          Reports site options fault) ↔
      ¬ Escapes site.tree site.environment options.root options.settingsFile) := by
  refine ⟨load_isConfiguration_iff site root given, ?_⟩
  rw [← load_isConfiguration_iff]
  constructor
  · rintro (isLoaded | ⟨fault, fails, reports⟩)
    · exact .inl isLoaded
    · exact .inr ⟨fault, fails, reports.1⟩
  · rintro (isLoaded | ⟨fault, fails, isConfiguration⟩)
    · exact .inl isLoaded
    · exact .inr ⟨fault, fails, reports_of_isConfiguration fails isConfiguration⟩

/-- A project whose manifest is no TOML document. -/
def brokenManifest : FileTree :=
  ⟨[(["pyproject.toml".toList], Encoding.encodeUtf8 "[tool.model-doc\n".toList)], []⟩

theorem load_brokenManifest :
    (match load brokenManifest [] .project none with
      | .error .manifestNotToml => true
      | _ => false) = true := by
  decide +kernel

/-- A manifest that is no TOML document is not reported. -/
theorem load_broken_manifest_unreported :
    ¬ ((∃ settings records, load brokenManifest [] .project none = .ok (settings, records)) ∨
      ∃ fault, load brokenManifest [] .project none = .error fault ∧ fault.IsConfiguration) := by
  have fails := load_brokenManifest
  rintro (⟨settings, records, loads⟩ | ⟨fault, isFault, isConfiguration⟩)
  · rw [loads] at fails
    exact absurd fails (by simp)
  · rw [isFault] at fails
    cases fault with
    | manifestNotToml => exact isConfiguration
    | _ => exact absurd fails (by simp)

end SchemaDoc.CommandLine
