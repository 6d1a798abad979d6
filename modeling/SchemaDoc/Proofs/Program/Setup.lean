import Mathlib.Data.List.Forall2
import Mathlib.Data.List.Sigma
import SchemaDoc.Program.Registry
import SchemaDoc.Proofs.Program.Import

/-!
Contract: what the set-up of a registry changes.

The set-up adds relationships to classes and takes none away (`Rewires`); the names, modules and
tables of classes stay. It looks at the marks of a world, the lost registries and the classes that
are set up, only to leave out what is done already.
-/

namespace SchemaDoc.Program.World

variable {world after : World} {number : Nat}

/-! ## Classes that get relationships -/

/-- The second class is the first one with relationships added that ask for nothing in return. -/
structure Rewired (object later : ClassObject) : Prop where
  same : later = { object with attributes := later.attributes }
  keeps : ∀ entry ∈ relationshipsOf object, entry ∈ relationshipsOf later
  adds : ∀ entry ∈ relationshipsOf later,
    entry ∈ relationshipsOf object ∨ entry.2.backReference = none

section Fields

variable {object later : ClassObject} (rewired : Rewired object later)
include rewired

theorem Rewired.definition : later.definition = object.definition := by
  rw [rewired.same]

theorem Rewired.registry : later.registry = object.registry := by
  rw [rewired.same]

theorem Rewired.isMapped : later.isMapped = object.isMapped := by
  rw [rewired.same]
  rfl

theorem Rewired.home : later.home = object.home := by
  rw [rewired.same]
  rfl

theorem Rewired.fullName : later.fullName = object.fullName := by
  rw [rewired.same]
  rfl

end Fields

theorem Rewired.refl (object : ClassObject) : Rewired object object :=
  ⟨rfl, fun _ member => member, fun _ member => .inl member⟩

theorem Rewired.trans {first second third : ClassObject} (one : Rewired first second)
    (two : Rewired second third) : Rewired first third := by
  refine ⟨?_, fun entry member => two.keeps entry (one.keeps entry member), ?_⟩
  · rw [two.same, one.same]
  · intro entry member
    rcases two.adds entry member with old | silent
    · exact one.adds entry old
    · exact .inr silent

/-- The second world is the first one with relationships added to its classes, and with marks of its
own. -/
structure Rewires (world after : World) : Prop where
  rest : after = { world with
    classes := after.classes, failed := after.failed, configured := after.configured }
  classes : List.Forall₂ Rewired world.classes after.classes

theorem forall₂_trans {classes others last : List ClassObject}
    (one : List.Forall₂ Rewired classes others) (two : List.Forall₂ Rewired others last) :
    List.Forall₂ Rewired classes last := by
  induction one generalizing last with
  | nil =>
      cases two
      exact .nil
  | cons first _ inductionHypothesis =>
      cases two with
      | cons second rest => exact .cons (first.trans second) (inductionHypothesis rest)

theorem forall₂_zipIdx {classes others : List ClassObject}
    (related : List.Forall₂ Rewired classes others) (start : Nat) :
    List.Forall₂ (fun entry other => Rewired entry.1 other.1 ∧ entry.2 = other.2)
      (classes.zipIdx start) (others.zipIdx start) := by
  induction related generalizing start with
  | nil => exact .nil
  | cons first _ inductionHypothesis =>
      rw [List.zipIdx_cons, List.zipIdx_cons]
      exact .cons ⟨first, rfl⟩ (inductionHypothesis (start + 1))

theorem forall₂_modify {classes : List ClassObject} {change : ClassObject → ClassObject}
    (changes : ∀ object, classes[number]? = some object → Rewired object (change object)) :
    List.Forall₂ Rewired classes (classes.modify number change) := by
  induction classes generalizing number with
  | nil => simp
  | cons first rest inductionHypothesis =>
      have unchanged : List.Forall₂ Rewired rest rest :=
        List.forall₂_same.mpr fun object _ => Rewired.refl object
      cases number with
      | zero => exact .cons (changes first rfl) unchanged
      | succ number => exact .cons (Rewired.refl first) (inductionHypothesis changes)

namespace Rewires

theorem refl (world : World) : Rewires world world :=
  ⟨rfl, List.forall₂_same.mpr fun object _ => Rewired.refl object⟩

theorem trans {first second third : World} (one : Rewires first second)
    (two : Rewires second third) : Rewires first third :=
  ⟨by rw [two.rest, one.rest], forall₂_trans one.classes two.classes⟩

variable (rewires : Rewires world after)
include rewires

theorem class?_eq_some {object : ClassObject} (found : world.class? number = some object) :
    ∃ later, after.class? number = some later ∧ Rewired object later := by
  obtain ⟨sameLength, pointwise⟩ := List.forall₂_iff_get.mp rewires.classes
  obtain ⟨inside, rfl⟩ := List.getElem?_eq_some_iff.mp found
  have insideAfter : number < after.classes.length := sameLength ▸ inside
  exact ⟨after.classes[number], List.getElem?_eq_getElem insideAfter,
    pointwise number inside insideAfter⟩

theorem mappedIn (registry : Nat) :
    List.Forall₂ (fun entry other => Rewired entry.1 other.1 ∧ entry.2 = other.2)
      (world.mappedIn registry) (after.mappedIn registry) := by
  apply List.rel_filter _ (forall₂_zipIdx rewires.classes 0)
  rintro entry other ⟨rewired, -⟩
  simp only [rewired.registry, rewired.isMapped]

theorem named (registry : Nat) (name : Text) :
    after.named registry name = world.named registry name := by
  have filtered : List.Forall₂ (fun entry other => Rewired entry.1 other.1 ∧ entry.2 = other.2)
      ((world.mappedIn registry).filter fun entry => entry.1.definition.name = name)
      ((after.mappedIn registry).filter fun entry => entry.1.definition.name = name) := by
    apply List.rel_filter _ (rewires.mappedIn registry)
    rintro entry other ⟨rewired, -⟩
    simp only [rewired.definition]
  have numbers : List.Forall₂ (· = ·) (world.named registry name) (after.named registry name) := by
    apply List.forall₂_map_left_iff.mpr
    apply List.forall₂_map_right_iff.mpr
    exact filtered.imp fun entry other same => same.2
  exact (List.forall₂_eq_eq_eq ▸ numbers).symm

theorem isSound (registry : Nat) (relationship : MappedRelationship) :
    after.isSound registry relationship = world.isSound registry relationship := by
  unfold World.isSound
  rw [rewires.named]

end Rewires

/-! ## Relationships that are added -/

theorem mem_relationshipsOf {object : ClassObject} {name : Text}
    {relationship : MappedRelationship} :
    (name, relationship) ∈ relationshipsOf object ↔
      (name, .relationship relationship) ∈ object.attributes := by
  unfold relationshipsOf
  rw [List.mem_filterMap]
  constructor
  · rintro ⟨⟨other, present⟩, member, found⟩
    cases present with
    | member _ => exact absurd found (by simp)
    | relationship there =>
        obtain ⟨rfl, rfl⟩ := Prod.mk.inj (Option.some.inj found)
        exact member
  · intro member
    exact ⟨_, member, rfl⟩

theorem mem_assign {α : Type} {name other : Text} {value present : α} {entries : List (Text × α)}
    (member : (other, present) ∈ assign name value entries) :
    (other, present) = (name, value) ∨ (other, present) ∈ entries := by
  induction entries with
  | nil => exact .inl (List.mem_singleton.mp member)
  | cons entry rest inductionHypothesis =>
      obtain ⟨old, there⟩ := entry
      unfold assign at member
      split at member
      · rcases List.mem_cons.mp member with new | behind
        · exact .inl new
        · exact .inr (List.mem_cons_of_mem _ behind)
      · rcases List.mem_cons.mp member with same | behind
        · exact .inr (same ▸ List.mem_cons_self)
        · rcases inductionHypothesis behind with new | old
          · exact .inl new
          · exact .inr (List.mem_cons_of_mem _ old)

/-- An entry of another name keeps its place. -/
theorem mem_assign_of_ne {α : Type} {name other : Text} {value present : α}
    {entries : List (Text × α)} (member : (other, present) ∈ entries) (differ : other ≠ name) :
    (other, present) ∈ assign name value entries := by
  induction entries with
  | nil => exact absurd member (by simp)
  | cons entry rest inductionHypothesis =>
      obtain ⟨old, there⟩ := entry
      unfold assign
      rcases List.mem_cons.mp member with same | behind
      · obtain ⟨rfl, rfl⟩ := Prod.mk.inj same
        rw [if_neg differ]
        exact List.mem_cons_self
      · split
        · exact List.mem_cons_of_mem _ behind
        · exact List.mem_cons_of_mem _ (inductionHypothesis behind)

theorem rewired_assign {object : ClassObject} {name : Text} {relationship : MappedRelationship}
    (silent : relationship.backReference = none)
    (free : ∀ entry ∈ object.attributes, entry.1 = name → isMappedAttribute entry.2 = false) :
    Rewired object
      { object with attributes := assign name (.relationship relationship) object.attributes } := by
  refine ⟨rfl, ?_, ?_⟩
  · rintro ⟨other, there⟩ member
    rw [mem_relationshipsOf] at member ⊢
    apply mem_assign_of_ne member
    rintro rfl
    exact absurd (free _ member rfl) (by simp [isMappedAttribute])
  · rintro ⟨other, there⟩ member
    rw [mem_relationshipsOf] at member ⊢
    rcases mem_assign member with new | old
    · obtain ⟨-, same⟩ := Prod.mk.inj new
      obtain rfl := Attribute.relationship.inj same
      exact .inr silent
    · exact .inl old

/-- Changes to different classes, each of which gets a relationship whose name is free. -/
theorem rewires_updateAll {entries : List (ClassObject × Nat)}
    {change : ClassObject × Nat → ClassObject → ClassObject}
    (distinct : (entries.map Prod.snd).Nodup)
    (current : ∀ entry ∈ entries, world.class? entry.2 = some entry.1)
    (changes : ∀ entry ∈ entries, Rewired entry.1 (change entry entry.1)) :
    Rewires world
      (entries.foldl (fun world entry => world.updateClass entry.2 (change entry)) world) := by
  induction entries generalizing world with
  | nil => exact Rewires.refl world
  | cons entry rest inductionHypothesis =>
      have first : Rewires world (world.updateClass entry.2 (change entry)) := by
        refine ⟨rfl, forall₂_modify ?_⟩
        intro object found
        obtain rfl := Option.some.inj ((current entry List.mem_cons_self).symm.trans found)
        exact changes entry List.mem_cons_self
      rw [List.map_cons, List.nodup_cons] at distinct
      refine first.trans (inductionHypothesis distinct.2 ?_ ?_)
      · intro other member
        have elsewhere : entry.2 ≠ other.2 := by
          rintro same
          exact distinct.1 (same ▸ List.mem_map_of_mem member)
        show (world.classes.modify entry.2 (change entry))[other.2]? = some other.1
        rw [List.getElem?_modify]
        simp only [if_neg elsewhere, Option.map_eq_map, Option.map_id_fun', id]
        exact current other (List.mem_cons_of_mem _ member)
      · intro other member
        exact changes other (List.mem_cons_of_mem _ member)

theorem mem_numbered {entry : ClassObject × Nat} :
    entry ∈ world.numbered ↔ world.class? entry.2 = some entry.1 :=
  List.mem_zipIdx_iff_getElem?

theorem rewires_addRelationship {name : Text} {relationship : MappedRelationship}
    (silent : relationship.backReference = none) (free : world.isFree number name) :
    Rewires world (world.addRelationship number name relationship) := by
  have distinct : ((world.numbered.filter fun entry =>
      entry.1.isMapped && world.derives entry.2 number).map Prod.snd).Nodup :=
    (List.nodup_zipIdx_map_snd world.classes).sublist (List.filter_sublist.map _)
  apply rewires_updateAll distinct
  · intro entry member
    exact mem_numbered.mp (List.mem_filter.mp member).1
  · intro entry member
    obtain ⟨isEntry, derived⟩ := List.mem_filter.mp member
    refine rewired_assign silent ?_
    intro held inside sameName
    have inFamily : entry.2 ∈ world.family number := by
      apply List.mem_map_of_mem
      apply List.mem_filter.mpr
      rw [Bool.and_eq_true] at derived
      exact ⟨isEntry, by simp [derived.1, derived.2]⟩
    have isFree := List.all_eq_true.mp free entry.2 inFamily
    rw [mem_numbered.mp isEntry] at isFree
    simp only [Bool.not_eq_true', List.any_eq_false, Bool.and_eq_true, decide_eq_true_eq,
      not_and, Bool.not_eq_true] at isFree
    exact isFree held inside sameName

theorem rewires_addBackReference {registry : Nat} {owner : Text}
    {relationship : MappedRelationship}
    (added : addBackReference registry owner world relationship = some after) :
    Rewires world after := by
  unfold addBackReference at added
  split at added
  · obtain rfl := Option.some.inj added
    exact Rewires.refl world
  · split at added
    · split at added
      · next free =>
          obtain rfl := Option.some.inj added
          exact rewires_addRelationship rfl free
      · exact absurd added (by simp)
    · exact absurd added (by simp)

/-! ## Marks -/

/-- The classes of the first world within the rest of the second one. -/
def within (world frame : World) : World :=
  { frame with classes := world.classes }

section Marks

variable {registry : Nat} {frame : World}

theorem within_self (world : World) : world.within world = world :=
  rfl

theorem addRelationship_within (name : Text) (relationship : MappedRelationship) :
    (world.within frame).addRelationship number name relationship =
      (world.addRelationship number name relationship).within frame := by
  unfold addRelationship
  have sameEntries : (world.within frame).numbered.filter (fun entry =>
      entry.1.isMapped && (world.within frame).derives entry.2 number) =
        world.numbered.filter fun entry => entry.1.isMapped && world.derives entry.2 number := rfl
  rw [sameEntries]
  exact List.foldl_hom (fun world : World => world.within frame) fun _ _ => rfl

theorem addBackReference_within (owner : Text) (relationship : MappedRelationship) :
    addBackReference registry owner (world.within frame) relationship =
      (addBackReference registry owner world relationship).map fun after => after.within frame := by
  unfold addBackReference
  cases relationship.backReference with
  | none => rfl
  | some wanted =>
      obtain ⟨name, isCollection⟩ := wanted
      have sameTargets : (world.within frame).named registry relationship.target =
          world.named registry relationship.target := rfl
      have sameFree (target : Nat) :
          (world.within frame).isFree target name = world.isFree target name := rfl
      simp only [sameTargets, sameFree, addRelationship_within]
      split
      · split <;> rfl
      · rfl

theorem foldlM_addBackReference_within (owner : Text)
    (entries : List (Text × MappedRelationship)) :
    entries.foldlM (fun world entry => addBackReference registry owner world entry.2)
        (world.within frame) =
      (entries.foldlM (fun world entry => addBackReference registry owner world entry.2)
        world).map fun after => after.within frame := by
  induction entries generalizing world with
  | nil => rfl
  | cons entry rest inductionHypothesis =>
      rw [List.foldlM_cons, List.foldlM_cons, addBackReference_within]
      cases addBackReference registry owner world entry.2 with
      | none => rfl
      | some after => exact inductionHypothesis

/-- What relates the worlds before and behind each step relates those before and behind a run. -/
theorem related_foldlM {α : Type} {step : World → α → Option World}
    {related : World → World → Prop} (refl : ∀ world, related world world)
    (trans : ∀ {first second third}, related first second → related second third →
      related first third)
    (each : ∀ {world entry after}, step world entry = some after → related world after)
    {entries : List α} (isRun : entries.foldlM step world = some after) : related world after := by
  induction entries generalizing world with
  | nil =>
      obtain rfl := Option.some.inj isRun
      exact refl world
  | cons entry rest inductionHypothesis =>
      rw [List.foldlM_cons] at isRun
      obtain ⟨between, isFirst, isRest⟩ := Option.bind_eq_some_iff.mp isRun
      exact trans (each isFirst) (inductionHypothesis isRest)

theorem rewires_foldlM {owner : Text} {entries : List (Text × MappedRelationship)}
    (added : entries.foldlM (fun world entry => addBackReference registry owner world entry.2)
      world = some after) : Rewires world after :=
  related_foldlM Rewires.refl Rewires.trans rewires_addBackReference added

/-! ### Classes -/

/-- The set-up of a class changes the classes as if nothing else were there, and marks the class. -/
theorem configureClass_within :
    configureClass registry (world.within frame) number =
      (configureClass registry world number).map fun after =>
        after.within { frame with configured := frame.configured ++ [number] } := by
  unfold configureClass
  have sameClass : (world.within frame).class? number = world.class? number := rfl
  rw [sameClass]
  cases world.class? number with
  | none => rfl
  | some object =>
      simp only [Option.bind_eq_bind, Option.bind_some, foldlM_addBackReference_within]
      cases ((relationshipsOf object).filter fun entry => !entry.2.isInherited).foldlM
        (fun world entry => addBackReference registry object.definition.name world entry.2) world
      <;> rfl

/-- The set-up of a class marks it and changes no other mark. -/
theorem marks_configureClass (isSetUp : configureClass registry world number = some after) :
    after.failed = world.failed ∧ after.configured = world.configured ++ [number] := by
  have again := @configureClass_within world number registry world
  rw [within_self, isSetUp, Option.map_some, Option.some.injEq] at again
  rw [again]
  exact ⟨rfl, rfl⟩

theorem rewires_configureClass (isSetUp : configureClass registry world number = some after) :
    Rewires world after := by
  unfold configureClass at isSetUp
  cases found : world.class? number with
  | none =>
      rw [found] at isSetUp
      exact absurd isSetUp (by simp)
  | some object =>
      rw [found] at isSetUp
      simp only [Option.bind_eq_bind, Option.bind_some] at isSetUp
      cases added : ((relationshipsOf object).filter fun entry => !entry.2.isInherited).foldlM
          (fun world entry => addBackReference registry object.definition.name world entry.2)
          world with
      | none =>
          rw [added] at isSetUp
          exact absurd isSetUp (by simp)
      | some between =>
          rw [added] at isSetUp
          obtain rfl := Option.some.inj isSetUp
          obtain ⟨rest, classes⟩ := rewires_foldlM added
          exact ⟨by rw [rest], classes⟩

end Marks

/-! ## Classes that ask for nothing -/

/-- No relationship of the class's own asks for one in return. -/
def AsksNothing (world : World) (number : Nat) : Prop :=
  ∃ object, world.class? number = some object ∧
    ∀ entry ∈ relationshipsOf object, entry.2.isInherited = false → entry.2.backReference = none

theorem asksNothing_iff : AsksNothing world number ↔ (world.class? number).any fun object =>
    (relationshipsOf object).all fun entry => entry.2.isInherited || entry.2.backReference.isNone := by
  unfold AsksNothing
  cases world.class? number with
  | none => simp
  | some object =>
      simp only [Option.some.injEq, exists_eq_left', Option.any_some, List.all_eq_true,
        Bool.or_eq_true, Option.isNone_iff_eq_none]
      apply forall₂_congr
      intro entry _
      cases entry.2.isInherited <;> simp

instance (world : World) (number : Nat) : Decidable (AsksNothing world number) :=
  decidable_of_iff _ asksNothing_iff.symm

theorem Rewires.asksNothing (rewires : Rewires world after) (silent : AsksNothing world number) :
    AsksNothing after number := by
  obtain ⟨object, found, asks⟩ := silent
  obtain ⟨later, isLater, rewired⟩ := rewires.class?_eq_some found
  refine ⟨later, isLater, fun entry member own => ?_⟩
  rcases rewired.adds entry member with old | none
  · exact asks entry old own
  · exact none

/-- The set-up of a class that asks for nothing marks it, and that is all. -/
theorem configureClass_of_asksNothing {registry : Nat} (silent : AsksNothing world number) :
    configureClass registry world number =
      some { world with configured := world.configured ++ [number] } := by
  obtain ⟨object, found, asks⟩ := silent
  have addsNothing : ∀ entries : List (Text × MappedRelationship),
      (∀ entry ∈ entries, entry.2.backReference = none) →
        entries.foldlM (fun world entry =>
          addBackReference registry object.definition.name world entry.2) world = some world := by
    intro entries none
    induction entries with
    | nil => rfl
    | cons entry rest inductionHypothesis =>
        rw [List.foldlM_cons]
        have first : addBackReference registry object.definition.name world entry.2 =
            some world := by
          unfold addBackReference
          rw [none entry List.mem_cons_self]
        rw [first]
        exact inductionHypothesis fun other member => none other (List.mem_cons_of_mem _ member)
  unfold configureClass
  rw [found]
  simp only [Option.bind_eq_bind, Option.bind_some]
  rw [addsNothing]
  · rfl
  · intro entry member
    obtain ⟨isEntry, own⟩ := List.mem_filter.mp member
    exact asks entry isEntry (by simpa using own)

/-! ## Classes that stay -/

/-- Every class of the first world is in the second one, under its number and its name. -/
def Keeps (world after : World) : Prop :=
  ∀ number object, world.class? number = some object →
    ∃ later, after.class? number = some later ∧ later.home = object.home ∧
      later.fullName = object.fullName

theorem Keeps.refl (world : World) : Keeps world world :=
  fun _ object found => ⟨object, found, rfl, rfl⟩

theorem Keeps.trans {first second third : World} (one : Keeps first second)
    (two : Keeps second third) : Keeps first third := by
  intro number object found
  obtain ⟨later, isLater, sameHome, sameName⟩ := one number object found
  obtain ⟨last, isLast, lastHome, lastName⟩ := two number later isLater
  exact ⟨last, isLast, lastHome.trans sameHome, lastName.trans sameName⟩

theorem Rewires.keeps (rewires : Rewires world after) : Keeps world after := by
  intro number object found
  obtain ⟨later, isLater, rewired⟩ := rewires.class?_eq_some found
  exact ⟨later, isLater, rewired.home, rewired.fullName⟩

theorem keeps_importModule (world : World) (name : Text) :
    Keeps world (Catalog.importModule world name).1 :=
  fun _ object found => ⟨object, Catalog.class?_importModule found name, rfl, rfl⟩

end SchemaDoc.Program.World
