import SchemaDoc.Proofs.Program.Ahead

/-!
Contract: the relationships of described classes.

A look at a member can set a registry up, which gives other classes relationships that later looks find.
Where every registry is lost or set up (`IsSetUp`) no look changes anything, and a described class is a class
given by its members (`run_detect_of_isSetUp`).
-/

namespace SchemaDoc.Program.World

variable {world : World} {object : ClassObject}

/-- Every registry is lost, or its relationships have their targets and all its classes are set up. -/
def IsSetUp (world : World) : Prop :=
  ∀ registry, registry ∈ world.failed ∨
    world.isSatisfied registry = true ∧ ∀ entry ∈ world.mappedIn registry, entry.2 ∈ world.configured

theorem configure_of_isSetUp (isSetUp : world.IsSetUp) (registry : Nat) :
    (world.configure registry).1 = world := by
  unfold configure
  split
  · rfl
  · next notLost =>
      rcases isSetUp registry with lost | ⟨satisfied, complete⟩
      · exact absurd (List.contains_iff_mem.mpr lost) notLost
      · have nothingLeft : ((world.mappedIn registry).map Prod.snd).filter
            (fun number => !world.configured.contains number) = [] := by
          rw [List.filter_eq_nil_iff]
          intro number isNumber
          obtain ⟨entry, isEntry, rfl⟩ := List.mem_map.mp isNumber
          simp [complete entry isEntry]
        rw [configureAll?_eq, if_pos satisfied, nothingLeft]
        rfl

theorem examine_of_isSetUp (isSetUp : world.IsSetUp) (reading : Option Reading) :
    (world.examine reading).1 = world := by
  rcases examine_cases reading with ⟨outcome, seen⟩ | ⟨registry, outcome, seen⟩
  · rw [seen world]
  · rw [seen world]
    exact configure_of_isSetUp isSetUp registry

/-- The attributes of a class with what they show in a world. -/
def declared (world : World) (object : ClassObject) : List Detection.Declared :=
  object.attributes.map fun entry =>
    ⟨entry.1, formOf entry.2, fun access => (world.examine (world.look object access entry.1)).2⟩

/-- The class as it is given by its attributes. -/
def classBody (world : World) (object : ClassObject) (distinct : (object.attributes.map Prod.fst).Nodup) :
    Detection.ClassBody where
  members := world.declared object
  distinct := by
    rw [declared, List.map_map]
    exact distinct

theorem showOwn_seeMember (isSetUp : world.IsSetUp) (object : ClassObject) :
    Detection.ShowOwn (seeMember object) (world.declared object) (fun _ _ after => after) (· = world) where
  run member isMember access state isWorld := by
    obtain ⟨entry, -, rfl⟩ := List.mem_map.mp isMember
    rw [isWorld, run_seeMember, examine_of_isSetUp isSetUp]
  stays _ _ _ isWorld := isWorld

/-- Where every registry is lost or set up, detection finds what the members of the class show and leaves
the world as it is. -/
theorem run_detect_of_isSetUp (isSetUp : world.IsSetUp)
    (distinct : (object.attributes.map Prod.fst).Nodup) (excluded : List Text) :
    (detect excluded object).run world =
      (((world.classBody object distinct).detect excluded).1, world) := by
  have entries : object.attributes.map (fun entry => (entry.1, formOf entry.2)) =
      (world.declared object).map Detection.Declared.entry := by
    rw [declared, List.map_map]
    rfl
  change (Detection.detect (seeMember object) excluded _).run world = _
  rw [entries, Detection.run_detect (showOwn_seeMember isSetUp object) excluded rfl,
    Detection.ClassBody.detect_eq, List.foldl_fixed]
  rfl

end SchemaDoc.Program.World
