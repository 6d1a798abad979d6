import SchemaDoc.Catalog
import SchemaDoc.Proofs.Computation

/-!
Contract: what an import can do to the world, and what it does not look at.

An import is a row of changes (`Change`): names are bound, modules begin, are completed and dropped,
and classes are added. It sees the modules by their names and the classes by their numbers, so that it
does the same to worlds that are alike (`isImport_importModule`); which registries are lost and which
classes are set up is neither seen nor changed.
-/

namespace SchemaDoc.Program

variable {α β : Type}

/-! ## Worlds that are alike -/

namespace World

/-- The second world has the modules and the classes of the first one. The modules may have been
imported in another order, and other registries may be lost and other classes set up. -/
structure Alike (world other : World) : Prop where
  described : other.described = world.described
  classes : other.classes = world.classes
  modules : ∀ name, other.loaded? name = world.loaded? name

theorem Alike.refl (world : World) : Alike world world :=
  ⟨rfl, rfl, fun _ => rfl⟩

theorem Alike.symm {world other : World} (alike : Alike world other) : Alike other world :=
  ⟨alike.described.symm, alike.classes.symm, fun name => (alike.modules name).symm⟩

theorem Alike.trans {first second third : World} (one : Alike first second)
    (two : Alike second third) : Alike first third :=
  ⟨two.described.trans one.described, two.classes.trans one.classes,
    fun name => (two.modules name).trans (one.modules name)⟩

/-- Only the names of imported modules have to be looked at. -/
theorem alike_iff {world other : World} :
    Alike world other ↔ other.described = world.described ∧ other.classes = world.classes ∧
      ∀ name ∈ (world.loaded ++ other.loaded).map LoadedModule.name,
        other.loaded? name = world.loaded? name := by
  constructor
  · rintro ⟨described, classes, modules⟩
    exact ⟨described, classes, fun name _ => modules name⟩
  · rintro ⟨described, classes, modules⟩
    refine ⟨described, classes, fun name => ?_⟩
    by_cases known : name ∈ (world.loaded ++ other.loaded).map LoadedModule.name
    · exact modules name known
    · rw [List.map_append, List.mem_append, not_or] at known
      have absent {loaded : List LoadedModule} (unknown : name ∉ loaded.map LoadedModule.name) :
          loaded.find? (·.name = name) = none := by
        apply List.find?_eq_none.mpr
        intro entry member
        simp only [decide_eq_true_eq]
        rintro rfl
        exact unknown (List.mem_map_of_mem member)
      exact (absent known.2).trans (absent known.1).symm

instance (world other : World) : Decidable (Alike world other) :=
  decidable_of_iff _ alike_iff.symm

section Alike

variable {world other : World} (alike : Alike world other)
include alike

theorem Alike.class? (number : Nat) : other.class? number = world.class? number := by
  unfold World.class?
  rw [alike.classes]

theorem Alike.lookup? (module name : Text) :
    other.lookup? module name = world.lookup? module name := by
  unfold World.lookup?
  rw [alike.modules]

theorem Alike.isLoaded (name : Text) : other.isLoaded name = world.isLoaded name := by
  unfold World.isLoaded
  rw [alike.modules]

theorem Alike.description? (name : Text) : other.description? name = world.description? name := by
  unfold World.description?
  rw [alike.described]

theorem Alike.hasModule (name : Text) : other.hasModule name = world.hasModule name := by
  unfold World.hasModule World.hasChildren
  rw [alike.description?, alike.described]

theorem Alike.fileOf (name : Text) : other.fileOf name = world.fileOf name := by
  unfold World.fileOf
  rw [alike.description?]

theorem Alike.isPackage (name : Text) : other.isPackage name = world.isPackage name := by
  unfold World.isPackage World.hasChildren
  rw [alike.fileOf, alike.described]

theorem Alike.noImport (name module : Text) :
    Failure.noImport other name module = Failure.noImport world name module := by
  unfold Failure.noImport
  rw [alike.fileOf, alike.modules]

end Alike

/-! ### Changes of modules -/

theorem Alike.updateModule {world other : World} (alike : Alike world other) (module : Text)
    {change : LoadedModule → LoadedModule} (sameName : ∀ entry, (change entry).name = entry.name) :
    Alike (world.updateModule module change) (other.updateModule module change) := by
  have keeps (entry : LoadedModule) :
      (if entry.name = module then change entry else entry).name = entry.name := by
    split
    · exact sameName entry
    · rfl
  have changed (world : World) (name : Text) :
      (world.updateModule module change).loaded? name =
        (world.loaded? name).map fun entry =>
          if entry.name = module then change entry else entry := by
    show List.find? _ (List.map _ world.loaded) = Option.map _ (List.find? _ world.loaded)
    rw [List.find?_map]
    simp only [Function.comp_def, keeps]
  refine ⟨alike.described, alike.classes, fun name => ?_⟩
  rw [changed, changed, alike.modules]

theorem loaded?_beginModule (world : World) (module name : Text) :
    (world.beginModule module).loaded? name =
      (world.loaded? name).or (if module = name then some ⟨module, false, []⟩ else none) := by
  show List.find? _ (world.loaded ++ [⟨module, false, []⟩]) = Option.or (List.find? _ world.loaded) _
  rw [List.find?_append, List.find?_singleton]
  simp only [decide_eq_true_eq]

theorem loaded?_dropModule (world : World) (module name : Text) :
    (world.dropModule module).loaded? name = if name = module then none else world.loaded? name := by
  show List.find? _ (List.filter _ world.loaded) = _
  rw [List.find?_filter]
  split
  · next same =>
      subst same
      apply List.find?_eq_none.mpr
      intro entry _
      simp
  · next differ =>
      have sees : (fun entry : LoadedModule => decide ((entry.name != module) = true ∧
          decide (entry.name = name) = true)) = fun entry => decide (entry.name = name) := by
        funext entry
        by_cases isName : entry.name = name
        · simp [isName, differ]
        · simp [isName]
      rw [sees]
      rfl

end World

/-! ## Changes -/

/-- What an import does to the world at one place. -/
inductive Change where
  | binds (module name : Text) (object : Object)
  | begins (module : Text)
  | completes (module : Text)
  | drops (module : Text)
  | adds (object : ClassObject)

namespace Change

def apply (world : World) : Change → World
  | .binds module name object => world.bind module name object
  | .begins module => world.beginModule module
  | .completes module => world.completeModule module
  | .drops module => world.dropModule module
  | .adds object => { world with classes := world.classes ++ [object] }

/-- Several changes, one after the other. -/
def applyAll : World → List Change → World :=
  List.foldl apply

theorem applyAll_append (world : World) (first second : List Change) :
    applyAll world (first ++ second) = applyAll (applyAll world first) second :=
  List.foldl_append

/-- A change does the same to worlds that are alike. -/
theorem alike_apply {world other : World} (alike : World.Alike world other) (change : Change) :
    World.Alike (change.apply world) (change.apply other) := by
  cases change with
  | binds module name object =>
      apply alike.updateModule module
      intro entry
      rfl
  | begins module =>
      refine ⟨alike.described, alike.classes, fun entry => ?_⟩
      show (other.beginModule module).loaded? entry = (world.beginModule module).loaded? entry
      rw [World.loaded?_beginModule, World.loaded?_beginModule, alike.modules]
  | completes module =>
      apply alike.updateModule module
      intro entry
      rfl
  | drops module =>
      refine ⟨alike.described, alike.classes, fun entry => ?_⟩
      show (other.dropModule module).loaded? entry = (world.dropModule module).loaded? entry
      rw [World.loaded?_dropModule, World.loaded?_dropModule, alike.modules]
  | adds object =>
      refine ⟨alike.described, ?_, alike.modules⟩
      show other.classes ++ [object] = world.classes ++ [object]
      rw [alike.classes]

/-- No change touches the marks. -/
theorem marks_applyAll (world : World) (changes : List Change) :
    (applyAll world changes).failed = world.failed ∧
      (applyAll world changes).configured = world.configured := by
  induction changes generalizing world with
  | nil => exact ⟨rfl, rfl⟩
  | cons change rest inductionHypothesis =>
      have first : (change.apply world).failed = world.failed ∧
          (change.apply world).configured = world.configured := by
        cases change <;> exact ⟨rfl, rfl⟩
      obtain ⟨sameFailed, sameConfigured⟩ := inductionHypothesis (change.apply world)
      exact ⟨sameFailed.trans first.1, sameConfigured.trans first.2⟩

/-- No change touches the import path. -/
theorem searchPath_applyAll (world : World) (changes : List Change) :
    (applyAll world changes).searchPath = world.searchPath := by
  induction changes generalizing world with
  | nil => rfl
  | cons change rest inductionHypothesis =>
      rw [show applyAll world (change :: rest) = applyAll (change.apply world) rest from rfl,
        inductionHypothesis]
      cases change <;> rfl

/-- The classes keep their numbers. -/
theorem exists_classes_applyAll (world : World) (changes : List Change) :
    ∃ more, (applyAll world changes).classes = world.classes ++ more := by
  induction changes generalizing world with
  | nil => exact ⟨[], (List.append_nil _).symm⟩
  | cons change rest inductionHypothesis =>
      obtain ⟨more, grown⟩ := inductionHypothesis (change.apply world)
      have first : ∃ added, (change.apply world).classes = world.classes ++ added := by
        cases change with
        | adds object => exact ⟨[object], rfl⟩
        | _ => exact ⟨[], (List.append_nil _).symm⟩
      obtain ⟨added, isAdded⟩ := first
      refine ⟨added ++ more, ?_⟩
      rw [← List.append_assoc, ← isAdded]
      exact grown

end Change

/-! ## Computations that are imports -/

/-- The computation makes changes of this kind alone, whether it fails or not, and does the same to
worlds that are alike. -/
structure IsImport (execution : Execution α) : Prop where
  changes : ∀ world, ∃ changes, (execution.run world).2 = Change.applyAll world changes
  alike : ∀ {world other}, World.Alike world other →
    (execution.run other).1 = (execution.run world).1 ∧
      World.Alike (execution.run world).2 (execution.run other).2

namespace IsImport

theorem of_pure (value : α) : IsImport (pure value) :=
  ⟨fun _ => ⟨[], rfl⟩, fun alike => ⟨rfl, alike⟩⟩

theorem of_throw (failure : Failure) : IsImport (throw failure : Execution α) :=
  ⟨fun _ => ⟨[], rfl⟩, fun alike => ⟨rfl, alike⟩⟩

theorem of_bind {first : Execution α} {next : α → Execution β} (isFirst : IsImport first)
    (isNext : ∀ value, IsImport (next value)) : IsImport (first >>= next) := by
  constructor
  · intro world
    obtain ⟨before, begins⟩ := isFirst.changes world
    rw [Computation.run_bind]
    rcases isRun : first.run world with ⟨failure | value, after⟩
    · rw [isRun] at begins
      exact ⟨before, begins⟩
    · rw [isRun] at begins
      obtain ⟨rest, ends⟩ := (isNext value).changes after
      refine ⟨before ++ rest, ?_⟩
      rw [Change.applyAll_append, ← begins]
      exact ends
  · intro world other alike
    obtain ⟨sameResult, stays⟩ := isFirst.alike alike
    rw [Computation.run_bind, Computation.run_bind]
    rcases isRun : first.run world with ⟨failure | value, after⟩
    all_goals
      rcases otherIsRun : first.run other with ⟨otherResult, otherAfter⟩
      rw [isRun, otherIsRun] at sameResult stays
      obtain rfl := sameResult
    · exact ⟨rfl, stays⟩
    · exact (isNext value).alike stays

theorem of_throw_bind (failure : Failure) (next : α → Execution β) :
    IsImport (throw failure >>= next) := by
  constructor
  · intro world
    rw [Computation.run_bind, Computation.run_throw]
    exact ⟨[], rfl⟩
  · intro world other alike
    simp only [Computation.run_bind, Computation.run_throw]
    exact ⟨trivial, alike⟩

/-- A computation that reads the world sees no difference between worlds that are alike. -/
theorem of_read {next : World → Execution α}
    (same : ∀ {world other}, World.Alike world other → next other = next world)
    (isNext : ∀ world, IsImport (next world)) : IsImport (get >>= next) := by
  constructor
  · intro world
    rw [Computation.run_bind, Computation.run_get]
    exact (isNext world).changes world
  · intro world other alike
    simp only [Computation.run_bind, Computation.run_get, same alike]
    exact (isNext world).alike alike

theorem of_change (change : Change) :
    IsImport (modify fun world => change.apply world : Execution Unit) :=
  ⟨fun _ => ⟨[change], rfl⟩, fun alike => ⟨rfl, Change.alike_apply alike change⟩⟩

theorem of_tryCatch {body : Execution α} {handle : Failure → Execution α}
    (isBody : IsImport body) (isHandle : ∀ failure, IsImport (handle failure)) :
    IsImport (tryCatch body handle) := by
  constructor
  · intro world
    obtain ⟨before, begins⟩ := isBody.changes world
    rw [Computation.run_tryCatch]
    rcases isRun : body.run world with ⟨failure | value, after⟩
    · rw [isRun] at begins
      obtain ⟨rest, ends⟩ := (isHandle failure).changes after
      refine ⟨before ++ rest, ?_⟩
      rw [Change.applyAll_append, ← begins]
      exact ends
    · rw [isRun] at begins
      exact ⟨before, begins⟩
  · intro world other alike
    obtain ⟨sameResult, stays⟩ := isBody.alike alike
    rw [Computation.run_tryCatch, Computation.run_tryCatch]
    rcases isRun : body.run world with ⟨failure | value, after⟩
    all_goals
      rcases otherIsRun : body.run other with ⟨otherResult, otherAfter⟩
      rw [isRun, otherIsRun] at sameResult stays
      obtain rfl := sameResult
    · exact (isHandle failure).alike stays
    · exact ⟨rfl, stays⟩

theorem of_forM {step : α → Execution PUnit} (isStep : ∀ item, IsImport (step item))
    (items : List α) : IsImport (items.forM step) := by
  induction items with
  | nil => exact of_pure PUnit.unit
  | cons item rest inductionHypothesis =>
      exact of_bind (isStep item) fun _ => inductionHypothesis

theorem of_mapM {step : α → Execution β} (isStep : ∀ item, IsImport (step item))
    (items : List α) : IsImport (items.mapM step) := by
  induction items with
  | nil =>
      rw [List.mapM_nil]
      exact of_pure []
  | cons item rest inductionHypothesis =>
      rw [List.mapM_cons]
      apply of_bind (isStep item)
      intro value
      exact of_bind inductionHypothesis fun others => of_pure (value :: others)

end IsImport

/-! ## Imports -/

open IsImport

theorem isImport_classNamed (module name : Text) : IsImport (classNamed module name) := by
  apply of_read
  · intro world other alike
    rw [alike.lookup?]
  · intro world
    split
    · exact of_pure _
    · exact of_throw _

/-- The new class is made from the classes alone. -/
theorem isImport_define (site : Text) (definition : ClassDefinition) :
    IsImport (define site definition) := by
  apply of_bind (of_mapM (isImport_classNamed site) definition.bases)
  intro bases
  constructor
  · intro world
    simp only [Computation.run_bind, Computation.run_get]
    split
    · exact ⟨[], rfl⟩
    · split
      · exact ⟨[], rfl⟩
      · exact ⟨[.adds _, .binds site definition.name _], rfl⟩
  · intro world other alike
    have sameClasses : { other with classes := world.classes } = other := by
      rw [← alike.classes]
    have sameLineage : lineageOf? other other.classes.length bases =
        lineageOf? world world.classes.length bases := by
      rw [← sameClasses]
      rfl
    simp only [Computation.run_bind, Computation.run_get, sameLineage]
    cases lineageOf? world world.classes.length bases with
    | none => exact ⟨rfl, alike⟩
    | some lineage =>
        have sameObject : makeClass other site definition world.classes.length lineage =
            makeClass world site definition world.classes.length lineage := by
          rw [← sameClasses]
          rfl
        have sameTable (object : ClassObject) :
            takenTable? other object = takenTable? world object := by
          rw [← sameClasses]
          rfl
        simp only [sameObject, sameTable, alike.classes]
        cases takenTable? world (makeClass world site definition world.classes.length lineage) with
        | some table => exact ⟨rfl, alike⟩
        | none =>
            have added := Change.alike_apply alike
              (.adds (makeClass world site definition world.classes.length lineage))
            have bound := Change.alike_apply added
              (.binds site definition.name (.classObject world.classes.length))
            simp only [Change.apply, alike.classes] at bound
            exact ⟨rfl, bound⟩

theorem isImport_lookup (source name : Text) : IsImport (do
    let world ← get
    match world.lookup? source name with
    | some object => return object
    | none => throw (.noImport world name source) : Execution Object) := by
  apply of_read
  · intro world other alike
    rw [alike.lookup?, alike.noImport]
  · intro world
    split
    · exact of_pure _
    · exact of_throw _

section Load

variable {load : Text → Execution Unit} (isLoad : ∀ name, IsImport (load name))
include isLoad

theorem isImport_takeName (source name : Text) : IsImport (takeName load source name) := by
  apply of_bind (isLoad source)
  intro _
  apply of_read
  · intro world other alike
    rw [alike.lookup?, alike.isPackage]
  intro world
  split
  · exact of_pure _
  · split
    · apply of_bind _ fun _ => isImport_lookup source name
      apply of_tryCatch (isLoad _)
      intro failure
      split
      · exact of_throw failure
      · exact of_pure _
    · exact isImport_lookup source name

theorem isImport_executeItem (site : Text) (item : Item) : IsImport (executeItem load site item) := by
  cases item with
  | fromModule source name boundAs =>
      apply of_bind (isImport_takeName isLoad source name)
      intro object
      exact of_change (.binds site boundAs object)
  | define definition => exact isImport_define site definition
  | «alias» name target =>
      apply of_read
      · intro world other alike
        rw [alike.lookup?]
      · intro world
        split
        · exact of_change (.binds site name _)
        · exact of_throw _
  | value name => exact of_change (.binds site name .value)
  | raise failure => exact of_throw failure

theorem isImport_runModule (name : Text) : IsImport (runModule load name) := by
  apply of_read
  · intro world other alike
    rw [alike.hasModule, alike.description?]
  intro world
  split
  · exact of_throw _
  · apply of_bind (of_change (.begins name))
    intro _
    apply of_bind _ fun _ => of_change (.completes name)
    apply of_tryCatch (of_forM (isImport_executeItem isLoad name) _)
    intro failure
    exact of_bind (of_change (.drops name)) fun _ => of_throw failure

end Load

theorem isImport_loadModule (depth : Nat) (name : Text) : IsImport (loadModule depth name) := by
  induction depth generalizing name with
  | zero => exact of_throw _
  | succ depth inductionHypothesis =>
      have runs := isImport_runModule inductionHypothesis name
      apply of_read
      · intro world other alike
        rw [alike.isLoaded]
      intro world
      split
      · exact of_pure ()
      · rcases splitLast name with ⟨parent, last⟩
        simp only
        split
        · exact runs
        · apply of_bind (inductionHypothesis parent)
          intro _
          apply of_read
          · intro world other alike
            rw [alike.isLoaded, alike.isPackage]
          intro world
          split
          · exact of_pure ()
          · split
            · exact of_throw_bind _ _
            · exact of_bind runs fun _ => of_change (.binds parent last (.module name))

theorem isImport_importModule (name : Text) : IsImport (importModule name) := by
  unfold importModule
  simp only
  split
  · exact of_throw_bind _ _
  · split
    · exact of_throw_bind _ _
    · apply of_read
      · intro world other alike
        rw [alike.described]
      · intro world
        exact isImport_loadModule _ name

theorem isImport_loadObject (dotted : Text) : IsImport (loadObject dotted) := by
  unfold loadObject
  rcases splitLast dotted with ⟨module, name⟩
  simp only
  split
  · exact of_throw_bind _ _
  · apply of_bind (isImport_importModule module)
    intro _
    apply of_read
    · intro world other alike
      rw [alike.lookup?]
    · intro world
      split
      · exact of_pure _
      · exact of_throw _

end SchemaDoc.Program

namespace SchemaDoc.Catalog

open Program

/-- An import adds classes behind those there are. -/
theorem exists_classes_importModule (world : World) (name : Text) :
    ∃ more, (importModule world name).1.classes = world.classes ++ more := by
  obtain ⟨changes, made⟩ := (isImport_importModule name).changes world
  obtain ⟨more, grown⟩ := Change.exists_classes_applyAll world changes
  refine ⟨more, ?_⟩
  rw [← grown, ← made]
  unfold importModule
  rcases (Program.importModule name).run world with ⟨failure | _, after⟩ <;> rfl

theorem class?_importModule {world : World} {number : Nat} {object : ClassObject}
    (found : world.class? number = some object) (name : Text) :
    (importModule world name).1.class? number = some object := by
  obtain ⟨more, grown⟩ := exists_classes_importModule world name
  obtain ⟨inside, -⟩ := List.getElem?_eq_some_iff.mp found
  show (importModule world name).1.classes[number]? = some object
  rw [grown, List.getElem?_append_left inside]
  exact found

/-- An import does not touch the marks. -/
theorem marks_importModule (world : World) (name : Text) :
    (importModule world name).1.failed = world.failed ∧
      (importModule world name).1.configured = world.configured := by
  obtain ⟨changes, made⟩ := (isImport_importModule name).changes world
  have marks := Change.marks_applyAll world changes
  rw [← made] at marks
  unfold importModule
  rcases isRun : (Program.importModule name).run world with ⟨failure | _, after⟩
  all_goals
    rw [isRun] at marks
    exact marks

/-- The import of a base class does not touch the import path. -/
theorem searchPath_ofBase (world : World) (dotted : Option Text) :
    (ofBase world dotted).1.searchPath = world.searchPath := by
  unfold ofBase
  cases dotted.getD [] with
  | nil => rfl
  | cons first rest =>
      obtain ⟨changes, made⟩ := (isImport_loadObject (first :: rest)).changes world
      have stays := Change.searchPath_applyAll world changes
      rw [← made] at stays
      rcases isRun : (loadObject (first :: rest)).run world with ⟨failure | object, after⟩
      all_goals
        rw [isRun] at stays
        simp only [isRun]
      · exact stays
      · cases object <;> exact stays

/-- An import does the same to worlds that are alike. -/
theorem alike_importModule {world other : World} (alike : World.Alike world other) (name : Text) :
    (importModule other name).2 = (importModule world name).2 ∧
      World.Alike (importModule world name).1 (importModule other name).1 := by
  obtain ⟨sameResult, stays⟩ := (isImport_importModule name).alike alike
  unfold importModule
  rcases isRun : (Program.importModule name).run world with ⟨failure | _, after⟩
  all_goals
    rcases otherIsRun : (Program.importModule name).run other with ⟨otherResult, otherAfter⟩
    rw [isRun, otherIsRun] at sameResult stays
    obtain rfl := sameResult
    exact ⟨rfl, stays⟩

end SchemaDoc.Catalog
