import SchemaDoc.Program.Reading
import SchemaDoc.Proofs.Detection
import SchemaDoc.Proofs.Program.Setup

/-!
Contract: two worlds of which the first one is ahead of the second.

More registries are lost in the first world and more classes are set up, but none that asks for a
relationship in return (`Ahead`). As long as the registries that are lost in the first world alone
cannot be set up in the second one either (`Settled`), the two worlds give the same instances and
show the same relationships, and the first one stays ahead.
-/

namespace SchemaDoc.Program.World

variable {world other after : World} {registry number : Nat}

/-! ## Registries that can be set up -/

/-- Every relationship of the registry has a direction and one target. -/
def isSatisfied (world : World) (registry : Nat) : Bool :=
  (world.mappedIn registry).all fun entry =>
    (relationshipsOf entry.1).all fun relationship => world.isSound registry relationship.2

theorem configureAll?_eq (world : World) (registry : Nat) :
    world.configureAll? registry =
      if world.isSatisfied registry then
        (((world.mappedIn registry).map Prod.snd).filter fun number =>
          !world.configured.contains number).foldlM (configureClass registry) world
      else none :=
  rfl

theorem mem_mappedIn {entry : ClassObject × Nat} :
    entry ∈ world.mappedIn registry ↔
      world.class? entry.2 = some entry.1 ∧ entry.1.registry = some registry ∧
        entry.1.isMapped = true := by
  unfold mappedIn
  rw [List.mem_filter, mem_numbered, Bool.and_eq_true, decide_eq_true_eq]

/-- A relationship without one target stays without one. -/
theorem Rewires.isSatisfied (rewires : Rewires world after)
    (unsatisfied : world.isSatisfied registry = false) : after.isSatisfied registry = false := by
  unfold World.isSatisfied at unsatisfied ⊢
  rw [List.all_eq_false] at unsatisfied ⊢
  obtain ⟨entry, member, unsound⟩ := unsatisfied
  rw [Bool.not_eq_true, List.all_eq_false] at unsound
  obtain ⟨relationship, isOwn, lacks⟩ := unsound
  obtain ⟨found, isRegistry, isMapped⟩ := mem_mappedIn.mp member
  obtain ⟨later, isLater, rewired⟩ := rewires.class?_eq_some found
  refine ⟨(later, entry.2), mem_mappedIn.mpr ⟨isLater, ?_, ?_⟩, ?_⟩
  · exact rewired.registry.trans isRegistry
  · exact rewired.isMapped.trans isMapped
  rw [Bool.not_eq_true, List.all_eq_false]
  refine ⟨relationship, rewired.keeps relationship isOwn, ?_⟩
  rw [rewires.isSound]
  exact lacks

theorem rewires_configureEach {numbers : List Nat}
    (isSetUp : numbers.foldlM (configureClass registry) world = some after) :
    Rewires world after ∧ after.failed = world.failed := by
  refine @related_foldlM _ _ _ _
    (fun world after => Rewires world after ∧ after.failed = world.failed) ?_ ?_ ?_ _ isSetUp
  · exact fun world => ⟨Rewires.refl world, rfl⟩
  · rintro first second third ⟨one, sameSecond⟩ ⟨two, sameThird⟩
    exact ⟨one.trans two, sameThird.trans sameSecond⟩
  · intro world number after isFirst
    exact ⟨rewires_configureClass isFirst, (marks_configureClass isFirst).1⟩

theorem configured_configureEach {numbers : List Nat}
    (isSetUp : numbers.foldlM (configureClass registry) world = some after) :
    after.configured = world.configured ++ numbers := by
  induction numbers generalizing world with
  | nil =>
      obtain rfl := Option.some.inj isSetUp
      exact (List.append_nil _).symm
  | cons number rest inductionHypothesis =>
      rw [List.foldlM_cons] at isSetUp
      obtain ⟨between, isFirst, isRest⟩ := Option.bind_eq_some_iff.mp isSetUp
      rw [inductionHypothesis isRest, (marks_configureClass isFirst).2, List.append_assoc,
        List.singleton_append]

/-- The set-up of classes that ask for nothing changes no class. -/
theorem configureEach_of_asksNothing {numbers : List Nat}
    (silent : ∀ number ∈ numbers, AsksNothing world number) :
    numbers.foldlM (configureClass registry) world =
      some { world with configured := world.configured ++ numbers } := by
  induction numbers generalizing world with
  | nil => exact congrArg (fun configured => some { world with configured }) (List.append_nil _).symm
  | cons number rest inductionHypothesis =>
      rw [List.foldlM_cons, configureClass_of_asksNothing (silent number List.mem_cons_self)]
      have others := @inductionHypothesis { world with configured := world.configured ++ [number] }
        fun other member => silent other (List.mem_cons_of_mem _ member)
      simp only [List.append_assoc, List.singleton_append] at others
      exact others

theorem rewires_configureAll? (isSetUp : world.configureAll? registry = some after) :
    Rewires world after ∧ after.failed = world.failed := by
  rw [configureAll?_eq] at isSetUp
  split at isSetUp
  · exact rewires_configureEach isSetUp
  · exact absurd isSetUp (by simp)

theorem rewires_configure (world : World) (registry : Nat) :
    Rewires world (world.configure registry).1 := by
  unfold configure
  split
  · exact Rewires.refl world
  · split
    · next isSetUp => exact (rewires_configureAll? isSetUp).1
    · exact ⟨rfl, (Rewires.refl world).classes⟩

/-! ## Worlds that are ahead -/

/-- In the first world more registries are lost and more classes are set up; those set up there alone
ask for nothing. Otherwise the worlds are alike. -/
structure Ahead (world other : World) : Prop where
  «alike» : Alike world other
  lost : ∀ registry ∈ other.failed, registry ∈ world.failed
  setUp : ∀ number ∈ other.configured, number ∈ world.configured
  silent : ∀ number ∈ world.configured, number ∈ other.configured ∨ AsksNothing world number

/-- Registries that are lost in the first world alone cannot be set up. -/
def Settled (world other : World) : Prop :=
  ∀ registry ∈ world.failed, registry ∈ other.failed ∨ world.isSatisfied registry = false

theorem Ahead.refl (world : World) : Ahead world world :=
  ⟨Alike.refl world, fun _ member => member, fun _ member => member, fun _ member => .inl member⟩

theorem Alike.within (alike : Alike world other) : other = world.within other := by
  unfold World.within
  rw [← alike.classes]

theorem Alike.isSatisfied (alike : Alike world other) (registry : Nat) :
    other.isSatisfied registry = world.isSatisfied registry := by
  rw [alike.within]
  rfl

theorem Alike.asksNothing (alike : Alike world other) (silent : AsksNothing world number) :
    AsksNothing other number := by
  rw [alike.within]
  exact silent

/-- Where packages are looked for does not matter. -/
theorem Ahead.searchPath (ahead : Ahead world other) (path otherPath : List Path) :
    Ahead { world with searchPath := path } { other with searchPath := otherPath } :=
  ⟨⟨ahead.alike.described, ahead.alike.classes, ahead.alike.modules⟩, ahead.lost, ahead.setUp,
    ahead.silent⟩

/-! ### Marks -/

/-- A registry may be lost in the first world alone. -/
theorem Ahead.loseFirst (ahead : Ahead world other) (registry : Nat) :
    Ahead { world with failed := world.failed ++ [registry] } other :=
  ⟨⟨ahead.alike.described, ahead.alike.classes, ahead.alike.modules⟩,
    fun lost member => List.mem_append_left _ (ahead.lost lost member), ahead.setUp, ahead.silent⟩

/-- The second world loses a registry that is lost in the first one. -/
theorem Ahead.loseSecond (ahead : Ahead world other) (isLost : registry ∈ world.failed) :
    Ahead world { other with failed := other.failed ++ [registry] } := by
  refine ⟨⟨ahead.alike.described, ahead.alike.classes, ahead.alike.modules⟩, ?_, ahead.setUp,
    ahead.silent⟩
  intro lost member
  rcases List.mem_append.mp member with old | new
  · exact ahead.lost lost old
  · rw [List.mem_singleton.mp new]
    exact isLost

theorem Settled.loseSecond (settled : Settled world other) (registry : Nat) :
    Settled world { other with failed := other.failed ++ [registry] } :=
  fun lost member => (settled lost member).imp_left fun old => List.mem_append_left _ old

theorem Settled.loseBoth (settled : Settled world other) (registry : Nat) :
    Settled { world with failed := world.failed ++ [registry] }
      { other with failed := other.failed ++ [registry] } := by
  intro lost member
  rcases List.mem_append.mp member with old | new
  · exact (settled lost old).imp_left fun old => List.mem_append_left _ old
  · exact .inl (List.mem_append_right _ new)

/-- Classes that ask for nothing may be set up in the first world alone. -/
theorem Ahead.markFirst (ahead : Ahead world other) {numbers : List Nat}
    (silent : ∀ number ∈ numbers, AsksNothing world number) :
    Ahead { world with configured := world.configured ++ numbers } other := by
  refine ⟨⟨ahead.alike.described, ahead.alike.classes, ahead.alike.modules⟩, ahead.lost, ?_, ?_⟩
  · intro known member
    exact List.mem_append_left _ (ahead.setUp known member)
  · intro known member
    rcases List.mem_append.mp member with old | new
    · exact ahead.silent known old
    · exact .inr (silent known new)

/-- The second world catches up with a class that is set up in the first one. -/
theorem Ahead.markSecond (ahead : Ahead world other) (isSetUp : number ∈ world.configured) :
    Ahead world { other with configured := other.configured ++ [number] } := by
  refine ⟨⟨ahead.alike.described, ahead.alike.classes, ahead.alike.modules⟩, ahead.lost, ?_, ?_⟩
  · intro known member
    rcases List.mem_append.mp member with old | new
    · exact ahead.setUp known old
    · rw [List.mem_singleton.mp new]
      exact isSetUp
  · intro known member
    exact (ahead.silent known member).imp_left fun old => List.mem_append_left _ old

/-! ### Registries -/

/-- A class is set up in both worlds, or it fails in both. -/
theorem Ahead.configureClass (ahead : Ahead world other) (registry number : Nat) :
    (World.configureClass registry world number = none ∧
        World.configureClass registry other number = none) ∨
      ∃ after otherAfter, World.configureClass registry world number = some after ∧
        World.configureClass registry other number = some otherAfter ∧ Ahead after otherAfter := by
  have both : World.configureClass registry other number =
      (World.configureClass registry world number).map fun after =>
        after.within { other with configured := other.configured ++ [number] } := by
    conv_lhs => rw [ahead.alike.within]
    exact configureClass_within
  cases isSetUp : World.configureClass registry world number with
  | none =>
      rw [isSetUp] at both
      exact .inl ⟨rfl, both⟩
  | some after =>
      rw [isSetUp] at both
      have rewires := rewires_configureClass isSetUp
      obtain ⟨sameFailed, marked⟩ := marks_configureClass isSetUp
      refine .inr ⟨after, _, rfl, both, ⟨?_, rfl, ?_⟩, ?_, ?_, ?_⟩
      · rw [rewires.rest]
        exact ahead.alike.described
      · rw [rewires.rest]
        exact ahead.alike.modules
      · rw [sameFailed]
        exact ahead.lost
      · intro known member
        rw [marked]
        exact List.mem_append.mpr ((List.mem_append.mp member).imp_left (ahead.setUp known))
      · intro known member
        rw [marked] at member
        rcases List.mem_append.mp member with old | new
        · exact (ahead.silent known old).imp (List.mem_append_left _) rewires.asksNothing
        · exact .inl (List.mem_append_right _ new)

/-- Both worlds have the classes set up that are not set up yet, or it fails in both. -/
theorem Ahead.configureEach {numbers done otherDone : List Nat} (ahead : Ahead world other)
    (within : ∀ number ∈ done, number ∈ world.configured)
    (fewer : ∀ number ∈ otherDone, number ∈ done)
    (silent : ∀ number ∈ done, number ∈ otherDone ∨ AsksNothing world number) :
    ((numbers.filter fun number => !done.contains number).foldlM (World.configureClass registry)
          world = none ∧
        (numbers.filter fun number => !otherDone.contains number).foldlM
          (World.configureClass registry) other = none) ∨
      ∃ after otherAfter,
        (numbers.filter fun number => !done.contains number).foldlM
            (World.configureClass registry) world = some after ∧
          (numbers.filter fun number => !otherDone.contains number).foldlM
            (World.configureClass registry) other = some otherAfter ∧
          Ahead after otherAfter := by
  induction numbers generalizing world other with
  | nil => exact .inr ⟨world, other, rfl, rfl, ahead⟩
  | cons number rest inductionHypothesis =>
      by_cases isDone : number ∈ done
      · rw [List.filter_cons_of_neg (by simpa using isDone)]
        by_cases otherIsDone : number ∈ otherDone
        · rw [List.filter_cons_of_neg (by simpa using otherIsDone)]
          exact inductionHypothesis ahead within silent
        · -- The class asks for nothing, so the second world only catches up.
          rw [List.filter_cons_of_pos (by simpa using otherIsDone), List.foldlM_cons]
          have asksNothing := (silent number isDone).resolve_left otherIsDone
          rw [configureClass_of_asksNothing (ahead.alike.asksNothing asksNothing)]
          exact inductionHypothesis (ahead.markSecond (within number isDone)) within silent
      · have otherIsOpen : number ∉ otherDone := fun member => isDone (fewer number member)
        rw [List.filter_cons_of_pos (by simpa using isDone),
          List.filter_cons_of_pos (by simpa using otherIsOpen), List.foldlM_cons,
          List.foldlM_cons]
        rcases ahead.configureClass registry number with ⟨fails, otherFails⟩ |
          ⟨after, otherAfter, isSetUp, otherIsSetUp, stays⟩
        · rw [fails, otherFails]
          exact .inl ⟨rfl, rfl⟩
        · rw [isSetUp, otherIsSetUp]
          refine inductionHypothesis stays ?_ ?_
          · intro known member
            rw [(marks_configureClass isSetUp).2]
            exact List.mem_append_left _ (within known member)
          · intro known member
            exact (silent known member).imp_right (rewires_configureClass isSetUp).asksNothing

theorem Ahead.configureAll? (ahead : Ahead world other) (registry : Nat) :
    (world.configureAll? registry = none ∧ other.configureAll? registry = none) ∨
      ∃ after otherAfter, world.configureAll? registry = some after ∧
        other.configureAll? registry = some otherAfter ∧ Ahead after otherAfter := by
  have sameClasses : other.mappedIn registry = world.mappedIn registry := by
    rw [ahead.alike.within]
    rfl
  rw [configureAll?_eq, configureAll?_eq, sameClasses, ahead.alike.isSatisfied]
  split
  · exact ahead.configureEach (fun _ member => member) ahead.setUp ahead.silent
  · exact .inl ⟨rfl, rfl⟩

/-- A world stays ahead by a set-up that reaches only classes that ask for nothing. -/
theorem Ahead.configure_left (ahead : Ahead world other)
    (quiet : ∀ number ∈ (world.configure registry).1.configured,
      number ∈ world.configured ∨ AsksNothing world number) :
    Ahead (world.configure registry).1 other := by
  unfold World.configure at quiet ⊢
  split at quiet
  · next isLost =>
      rw [if_pos isLost]
      exact ahead
  · next isKept =>
      rw [if_neg isKept]
      cases isSetUp : world.configureAll? registry with
      | none => exact ahead.loseFirst registry
      | some after =>
          rw [isSetUp] at quiet
          simp only at quiet ⊢
          rw [configureAll?_eq] at isSetUp
          split at isSetUp
          · have grown := configured_configureEach isSetUp
            have silent : ∀ number ∈ ((world.mappedIn registry).map Prod.snd).filter fun number =>
                !world.configured.contains number, AsksNothing world number := by
              intro number member
              have isOpen : number ∉ world.configured := by
                simpa using (List.mem_filter.mp member).2
              apply (quiet number ?_).resolve_left isOpen
              rw [grown]
              exact List.mem_append_right _ member
            rw [configureEach_of_asksNothing silent] at isSetUp
            obtain rfl := Option.some.inj isSetUp
            exact ahead.markFirst silent
          · exact absurd isSetUp (by simp)

/-- A registry is set up in both worlds or in none. -/
theorem Ahead.configure (ahead : Ahead world other) (settled : Settled world other)
    (registry : Nat) :
    (world.configure registry).2 = (other.configure registry).2 ∧
      Ahead (world.configure registry).1 (other.configure registry).1 ∧
      Settled (world.configure registry).1 (other.configure registry).1 := by
  unfold World.configure
  by_cases isLost : registry ∈ world.failed
  · rw [if_pos (by simpa using isLost)]
    by_cases otherIsLost : registry ∈ other.failed
    · rw [if_pos (by simpa using otherIsLost)]
      exact ⟨rfl, ahead, settled⟩
    · rw [if_neg (by simpa using otherIsLost)]
      have unsatisfied := (settled registry isLost).resolve_left otherIsLost
      have fails : other.configureAll? registry = none := by
        rw [configureAll?_eq, ahead.alike.isSatisfied, unsatisfied]
        rfl
      rw [fails]
      exact ⟨rfl, ahead.loseSecond isLost, settled.loseSecond registry⟩
  · have otherIsKept : registry ∉ other.failed := fun member => isLost (ahead.lost registry member)
    rw [if_neg (by simpa using isLost), if_neg (by simpa using otherIsKept)]
    rcases ahead.configureAll? registry with ⟨fails, otherFails⟩ |
      ⟨after, otherAfter, isSetUp, otherIsSetUp, stays⟩
    · rw [fails, otherFails]
      exact ⟨rfl, (ahead.loseFirst registry).loseSecond (List.mem_append_right _ (by simp)),
        settled.loseBoth registry⟩
    · rw [isSetUp, otherIsSetUp]
      obtain ⟨rewires, sameFailed⟩ := rewires_configureAll? isSetUp
      obtain ⟨-, otherSameFailed⟩ := rewires_configureAll? otherIsSetUp
      refine ⟨rfl, stays, ?_⟩
      intro lost member
      simp only [sameFailed] at member
      rcases settled lost member with already | unsatisfied
      · exact .inl (otherSameFailed ▸ already)
      · exact .inr (rewires.isSatisfied unsatisfied)

/-! ## Imports -/

theorem asksNothing_importModule (silent : AsksNothing world number) (name : Text) :
    AsksNothing (Catalog.importModule world name).1 number := by
  obtain ⟨object, found, asks⟩ := silent
  exact ⟨object, Catalog.class?_importModule found name, asks⟩

/-- A world stays ahead by an import. The import may have been begun already in the first world, as
long as it leads to the same modules and classes. -/
theorem Ahead.importModule (ahead : Ahead world other) {begun : World} {name : Text}
    (marks : world.failed = begun.failed ∧ world.configured = begun.configured)
    (absorbed : Alike (Catalog.importModule world name).1 (Catalog.importModule begun name).1) :
    (Catalog.importModule other name).2 = (Catalog.importModule world name).2 ∧
      Ahead (Catalog.importModule begun name).1 (Catalog.importModule other name).1 := by
  obtain ⟨sameResult, stays⟩ := Catalog.alike_importModule ahead.alike name
  obtain ⟨sameFailed, sameConfigured⟩ := Catalog.marks_importModule begun name
  obtain ⟨otherFailed, otherConfigured⟩ := Catalog.marks_importModule other name
  refine ⟨sameResult, absorbed.symm.trans stays, ?_, ?_, ?_⟩
  · rw [sameFailed, otherFailed, ← marks.1]
    exact ahead.lost
  · rw [sameConfigured, otherConfigured, ← marks.2]
    exact ahead.setUp
  · intro number member
    rw [sameConfigured, ← marks.2] at member
    rw [otherConfigured]
    rcases ahead.silent number member with old | asksNothing
    · exact .inl old
    · exact .inr (absorbed.asksNothing (asksNothing_importModule asksNothing name))

/-! ## Instances -/

/-- Both worlds make an instance, or fail for the same reason. -/
theorem Ahead.instantiate (ahead : Ahead world other) (settled : Settled world other)
    (object : ClassObject) :
    (world.instantiate object).2 = (other.instantiate object).2 ∧
      Ahead (world.instantiate object).1 (other.instantiate object).1 ∧
      Settled (world.instantiate object).1 (other.instantiate object).1 := by
  have sameConstructor : other.constructorOf object = world.constructorOf object := by
    rw [ahead.alike.within]
    rfl
  unfold World.instantiate
  rw [sameConstructor]
  simp only
  split
  · exact ⟨rfl, ahead, settled⟩
  · cases object.registry with
    | none =>
        simp only [Bool.not_true, Bool.false_eq_true, if_false]
        split <;> exact ⟨rfl, ahead, settled⟩
    | some registry =>
        cases object.isMapped with
        | false =>
            simp only [Bool.false_eq_true, if_false, Bool.not_true]
            split <;> exact ⟨rfl, ahead, settled⟩
        | true =>
            obtain ⟨sameResult, stays, staysSettled⟩ := ahead.configure settled registry
            simp only [if_true, ← sameResult]
            split
            · exact ⟨rfl, stays, staysSettled⟩
            · split <;> exact ⟨rfl, stays, staysSettled⟩

/-- Only the set-up of a registry can change the world. -/
theorem instantiate_cases (world : World) (object : ClassObject) :
    (world.instantiate object).1 = world ∨
      ∃ registry, (world.instantiate object).1 = (world.configure registry).1 := by
  unfold World.instantiate
  simp only
  split
  · exact .inl rfl
  · cases object.registry with
    | none =>
        left
        simp only [Bool.not_true, Bool.false_eq_true, if_false]
        split <;> rfl
    | some registry =>
        cases object.isMapped with
        | false =>
            left
            simp only [Bool.false_eq_true, if_false, Bool.not_true]
            split <;> rfl
        | true =>
            right
            refine ⟨registry, ?_⟩
            simp only [if_true]
            split
            · rfl
            · split <;> rfl

theorem rewires_instantiate (world : World) (object : ClassObject) :
    Rewires world (world.instantiate object).1 := by
  rcases instantiate_cases world object with same | ⟨registry, isSetUp⟩
  · rw [same]
    exact Rewires.refl world
  · rw [isSetUp]
    exact rewires_configure world registry

theorem Ahead.instantiate_left (ahead : Ahead world other) {object : ClassObject}
    (quiet : ∀ number ∈ (world.instantiate object).1.configured,
      number ∈ world.configured ∨ AsksNothing world number) :
    Ahead (world.instantiate object).1 other := by
  rcases instantiate_cases world object with same | ⟨registry, isSetUp⟩
  · rw [same]
    exact ahead
  · rw [isSetUp] at quiet ⊢
    exact ahead.configure_left quiet

/-! ## Relationships -/

section Reading

variable (alike : Alike world other)
include alike

theorem Alike.find? (object : ClassObject) (name : Text) :
    other.find? object name = world.find? object name := by
  rw [alike.within]
  rfl

theorem Alike.readResult {read : Vantage → ClassObject → Text → Option Reading} (site : Text)
    (object : ClassObject) (result : Result) :
    other.readResult read site object result = world.readResult read site object result := by
  cases result with
  | ofClass className name => simp only [World.readResult, alike.lookup?, alike.class?]
  | _ => rfl

theorem Alike.readMember {read : Vantage → ClassObject → Text → Option Reading} (vantage : Vantage)
    (site : Text) (object : ClassObject) (member : Member) :
    other.readMember read vantage site object member =
      world.readMember read vantage site object member := by
  cases member with
  | hybrid result => exact alike.readResult site object result
  | computed result =>
      cases vantage with
      | fromClass => rfl
      | fromInstance => exact alike.readResult site object result
  | _ => rfl

theorem Alike.readName (depth : Nat) : other.readName depth = world.readName depth := by
  induction depth with
  | zero => rfl
  | succ depth inductionHypothesis =>
      funext vantage object name
      simp only [World.readName, inductionHypothesis, alike.find?, alike.readMember]

theorem Alike.look (object : ClassObject) (access : Detection.Access) (name : Text) :
    other.look object access name = world.look object access name := by
  have sameDepth : other.readingDepth = world.readingDepth := by
    rw [alike.within]
    rfl
  unfold World.look
  rw [sameDepth, alike.readName, alike.find?]
  cases access with
  | read => rfl
  | call =>
      simp only
      split
      · exact alike.readResult _ _ _
      · rfl

end Reading

/-- What was read is seen at once, or by the set-up of a registry. -/
theorem examine_cases (reading : Option Reading) :
    (∃ outcome, ∀ world, examine world reading = (world, outcome)) ∨
      ∃ registry seen, ∀ world, examine world reading =
        ((world.configure registry).1,
          if (world.configure registry).2 then seen else Detection.Outcome.failed) := by
  cases reading with
  | none => exact .inl ⟨.failed, fun _ => rfl⟩
  | some found =>
      cases found with
      | plain => exact .inl ⟨.nothing, fun _ => rfl⟩
      | column => exact .inl ⟨.nothing, fun _ => rfl⟩
      | unattached => exact .inl ⟨.failed, fun _ => rfl⟩
      | relationship registry relationship =>
          cases registry with
          | none => exact .inl ⟨_, fun _ => rfl⟩
          | some registry => exact .inr ⟨registry, _, fun _ => rfl⟩
      | property registry relationship =>
          cases registry with
          | none => exact .inl ⟨_, fun _ => rfl⟩
          | some registry => exact .inr ⟨registry, _, fun _ => rfl⟩

theorem Ahead.examine (ahead : Ahead world other) (settled : Settled world other)
    (reading : Option Reading) :
    (world.examine reading).2 = (other.examine reading).2 ∧
      Ahead (world.examine reading).1 (other.examine reading).1 ∧
      Settled (world.examine reading).1 (other.examine reading).1 := by
  rcases examine_cases reading with ⟨outcome, seen⟩ | ⟨registry, outcome, seen⟩
  · rw [seen world, seen other]
    exact ⟨rfl, ahead, settled⟩
  · obtain ⟨sameResult, stays, staysSettled⟩ := ahead.configure settled registry
    rw [seen world, seen other, sameResult]
    exact ⟨rfl, stays, staysSettled⟩

theorem rewires_examine (world : World) (reading : Option Reading) :
    Rewires world (world.examine reading).1 := by
  rcases examine_cases reading with ⟨outcome, seen⟩ | ⟨registry, outcome, seen⟩
  · rw [seen world]
    exact Rewires.refl world
  · rw [seen world]
    exact rewires_configure world registry

/-- How the detection looks at a member of a class. -/
def seeMember (object : ClassObject) (access : Detection.Access) (name : Text) :
    StateM World Detection.Outcome := do
  let world ← get
  let (after, outcome) := world.examine (world.look object access name)
  set after
  return outcome

theorem run_seeMember (object : ClassObject) (access : Detection.Access) (name : Text)
    (world : World) :
    (seeMember object access name).run world =
      ((world.examine (world.look object access name)).2,
        (world.examine (world.look object access name)).1) :=
  rfl

/-- Both worlds show the same relationships. -/
theorem Ahead.detect (ahead : Ahead world other) (settled : Settled world other)
    (excluded : List Text) (object : ClassObject) (members : List (Text × Detection.Form)) :
    ((Detection.detect (seeMember object) excluded members).run world).1 =
        ((Detection.detect (seeMember object) excluded members).run other).1 ∧
      Ahead ((Detection.detect (seeMember object) excluded members).run world).2
        ((Detection.detect (seeMember object) excluded members).run other).2 := by
  induction members generalizing world other with
  | nil => exact ⟨rfl, ahead⟩
  | cons member rest inductionHypothesis =>
      have first : ((Detection.detectMember (seeMember object) excluded member).run world).1 =
            ((Detection.detectMember (seeMember object) excluded member).run other).1 ∧
          Ahead ((Detection.detectMember (seeMember object) excluded member).run world).2
            ((Detection.detectMember (seeMember object) excluded member).run other).2 ∧
          Settled ((Detection.detectMember (seeMember object) excluded member).run world).2
            ((Detection.detectMember (seeMember object) excluded member).run other).2 := by
        rw [Detection.run_detectMember, Detection.run_detectMember]
        cases Detection.access? excluded member with
        | none => exact ⟨rfl, ahead, settled⟩
        | some access =>
            obtain ⟨sameOutcome, stays, staysSettled⟩ :=
              ahead.examine settled (world.look object access member.1)
            simp only [run_seeMember, ahead.alike.look, sameOutcome]
            exact ⟨trivial, stays, staysSettled⟩
      obtain ⟨sameFirst, stays, staysSettled⟩ := first
      obtain ⟨sameRest, ends⟩ := inductionHypothesis stays staysSettled
      rw [Detection.run_detect_cons, Detection.run_detect_cons]
      exact ⟨congrArg₂ Detection.Findings.append sameFirst sameRest, ends⟩

theorem rewires_detect (world : World) (excluded : List Text) (object : ClassObject)
    (members : List (Text × Detection.Form)) :
    Rewires world ((Detection.detect (seeMember object) excluded members).run world).2 := by
  induction members generalizing world with
  | nil => exact Rewires.refl world
  | cons member rest inductionHypothesis =>
      have first : Rewires world
          ((Detection.detectMember (seeMember object) excluded member).run world).2 := by
        rw [Detection.run_detectMember]
        cases Detection.access? excluded member with
        | none => exact Rewires.refl world
        | some access => exact rewires_examine world _
      rw [Detection.run_detect_cons]
      exact first.trans (inductionHypothesis _)

end SchemaDoc.Program.World
