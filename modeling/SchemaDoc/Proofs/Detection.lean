import Mathlib.Data.List.Nodup
import SchemaDoc.Detection

/-!
Contract: detection looks at each member for itself.

The looks are made one after the other and may have effects. As long as no effect reaches what a member
shows, the findings are those about the members one by one, and each member that is looked at is looked at
once (`run_detect`).

Main statement: `detect_perMember`, about classes that are given by their members.
-/

namespace SchemaDoc.Detection

/-! ## Findings about several members -/

/-- The findings of a list, put together in its order. -/
def Findings.concat (findings : List Findings) : Findings :=
  findings.foldr Findings.append Findings.none

/-- A part that is put together with the findings is put together in their order. -/
theorem Findings.concat_part {α : Type} {part : Findings → List α} (empty : part none = [])
    (append : ∀ first rest, part (first.append rest) = part first ++ part rest)
    (findings : List Findings) : part (concat findings) = findings.flatMap part := by
  induction findings with
  | nil => exact empty
  | cons first rest inductionHypothesis =>
      rw [List.flatMap_cons, ← inductionHypothesis]
      exact append first (concat rest)

theorem Findings.relations_concat (findings : List Findings) :
    (concat findings).relations = findings.flatMap Findings.relations :=
  concat_part rfl (fun _ _ => rfl) findings

theorem Findings.failed_concat (findings : List Findings) :
    (concat findings).failed = findings.flatMap Findings.failed :=
  concat_part rfl (fun _ _ => rfl) findings

theorem Findings.ofOutcome_named (name : Text) (outcome : Outcome) :
    (∀ relation ∈ (ofOutcome name outcome).relations, relation.name = name) ∧
      ∀ failed ∈ (ofOutcome name outcome).failed, failed = name := by
  cases outcome <;> simp [ofOutcome, none]

theorem Findings.mem_relations_ofOutcome_iff {name : Text} {outcome : Outcome} {relation : Relation} :
    relation ∈ (ofOutcome name outcome).relations ↔
      name = relation.name ∧ outcome = .relation relation.related relation.multiplicity := by
  obtain ⟨relationName, related, multiplicity⟩ := relation
  cases outcome with
  | relation otherRelated otherMultiplicity =>
      simp [ofOutcome, eq_comm]
  | nothing | failed => simp [ofOutcome, none]

/-! ## Ways of looking at a member -/

theorem access?_of_mem {excluded : List Text} {member : Text × Form} (isExcluded : member.1 ∈ excluded) :
    access? excluded member = none := by
  rw [access?, if_pos]
  simp [isPassedOver, isExcluded]

theorem access?_of_not_mem {excluded : List Text} {member : Text × Form}
    (isFree : member.1 ∉ excluded) : access? excluded member = access? [] member := by
  simp [access?, isPassedOver, isFree]

theorem isPassedOver_eq_false_iff {excluded : List Text} {name : Text} :
    isPassedOver excluded name = false ↔
      name ∉ frameworkNames ∧ name ∉ excluded ∧ name.head? ≠ some '_' := by
  simp [isPassedOver, and_assoc]

theorem takesInstanceOnly_iff {signature : Signature} :
    signature.takesInstanceOnly = true ↔
      signature = some [.positional] ∨ signature = some [.positionalOnly] := by
  unfold Signature.takesInstanceOnly
  split <;> simp_all

/-- Only functions are called, and of these only the ones that are not abstract and take one positional
parameter. -/
theorem Form.access?_eq_call_iff {form : Form} :
    form.access? = some .call ↔
      form = .function false (some [.positional]) ∨ form = .function false (some [.positionalOnly]) := by
  cases form with
  | unbound => simp [access?]
  | function isAbstract signature =>
      cases isAbstract <;> simp [access?, takesInstanceOnly_iff, or_iff_not_imp_left]
  | value isAbstract =>
      cases isAbstract <;> simp [access?]

theorem Form.access?_eq_read_iff {form : Form} : form.access? = some .read ↔ form = .value false := by
  cases form with
  | unbound => simp [access?]
  | function isAbstract signature => simp [access?]
  | value isAbstract =>
      cases isAbstract <;> simp [access?]

/-- A member is looked at in the way of its kind unless its name is passed over. -/
theorem access?_eq_some_iff {excluded : List Text} {member : Text × Form} {access : Access} :
    access? excluded member = some access ↔
      (member.1 ∉ frameworkNames ∧ member.1 ∉ excluded ∧ member.1.head? ≠ some '_') ∧
        member.2.access? = some access := by
  rw [← isPassedOver_eq_false_iff, access?]
  cases isPassedOver excluded member.1 <;> simp

/-! ## Members with what they show -/

/-- A member as a class declares it, with what it shows when it is called and when it is read. -/
structure Declared where
  name : Text
  form : Form
  shows : Access → Outcome

namespace Declared

def entry (member : Declared) : Text × Form :=
  (member.name, member.form)

/-- What is found about the member. -/
def findings (excluded : List Text) (member : Declared) : Findings :=
  match access? excluded member.entry with
  | some access => .ofOutcome member.name (member.shows access)
  | none => .none

/-- The look that is made at the member, if it is looked at. -/
def look? (excluded : List Text) (member : Declared) : Option (Access × Text) :=
  (access? excluded member.entry).map fun access => (access, member.name)

/-- The member raises or is no relationship, if it is looked at. -/
def ShowsNone (excluded : List Text) (member : Declared) : Prop :=
  ∀ access, access? excluded member.entry = some access →
    member.shows access = .failed ∨ member.shows access = .nothing

/-- The member is a function that is public, not excluded and not abstract, and takes one positional
parameter. -/
def IsCalled (excluded : List Text) (member : Declared) : Prop :=
  member.name ∉ frameworkNames ∧ member.name ∉ excluded ∧ member.name.head? ≠ some '_' ∧
    (member.form = .function false (some [.positional]) ∨
      member.form = .function false (some [.positionalOnly]))

/-- The member is public, not excluded and not abstract, and is neither a function nor bound to the class. -/
def IsRead (excluded : List Text) (member : Declared) : Prop :=
  member.name ∉ frameworkNames ∧ member.name ∉ excluded ∧ member.name.head? ≠ some '_' ∧
    member.form = .value false

/-- The call of the member, or the reading of it, has the outcome. -/
def Yields (excluded : List Text) (member : Declared) (outcome : Outcome) : Prop :=
  member.IsCalled excluded ∧ member.shows .call = outcome ∨
    member.IsRead excluded ∧ member.shows .read = outcome

variable {excluded : List Text} {member : Declared}

/-- What is found about the member bears its name. -/
theorem findings_named (excluded : List Text) (member : Declared) :
    (∀ relation ∈ (member.findings excluded).relations, relation.name = member.name) ∧
      ∀ name ∈ (member.findings excluded).failed, name = member.name := by
  unfold findings
  split
  · exact Findings.ofOutcome_named member.name _
  · exact ⟨fun _ found => absurd found List.not_mem_nil, fun _ found => absurd found List.not_mem_nil⟩

theorem name_of_look? {made : Access × Text} (isMade : member.look? excluded = some made) :
    made.2 = member.name := by
  obtain ⟨access, -, rfl⟩ := Option.map_eq_some_iff.mp isMade
  rfl

/-- An exclusion takes the relationship of an excluded member away and leaves the others. -/
theorem relations_findings (excluded : List Text) (member : Declared) :
    (member.findings excluded).relations =
      (member.findings []).relations.filter (·.name ∉ excluded) := by
  by_cases isExcluded : member.name ∈ excluded
  · have none : (member.findings excluded).relations = [] := by
      rw [findings, access?_of_mem isExcluded]
      rfl
    rw [none, eq_comm, List.filter_eq_nil_iff]
    intro relation found
    simp [(member.findings_named []).1 relation found, isExcluded]
  · have same : member.findings excluded = member.findings [] := by
      rw [findings, access?_of_not_mem isExcluded]
      rfl
    rw [same, eq_comm, List.filter_eq_self]
    intro relation found
    simpa [(member.findings_named []).1 relation found] using isExcluded

theorem relations_eq_nil (showsNone : member.ShowsNone excluded) :
    (member.findings excluded).relations = [] := by
  unfold findings
  split
  · next access isLooked =>
      rcases showsNone access isLooked with failed | nothing
      · rw [failed]
        rfl
      · rw [nothing]
        rfl
  · rfl

theorem access?_eq_call_iff : access? excluded member.entry = some .call ↔ member.IsCalled excluded := by
  rw [access?_eq_some_iff, Form.access?_eq_call_iff, and_assoc, and_assoc]
  rfl

theorem access?_eq_read_iff : access? excluded member.entry = some .read ↔ member.IsRead excluded := by
  rw [access?_eq_some_iff, Form.access?_eq_read_iff, and_assoc, and_assoc]
  rfl

theorem yields_iff {outcome : Outcome} : member.Yields excluded outcome ↔
    ∃ access, access? excluded member.entry = some access ∧ member.shows access = outcome := by
  rw [Yields, ← access?_eq_call_iff, ← access?_eq_read_iff]
  constructor
  · rintro (⟨isCall, shown⟩ | ⟨isRead, shown⟩)
    · exact ⟨.call, isCall, shown⟩
    · exact ⟨.read, isRead, shown⟩
  · rintro ⟨access, isLooked, shown⟩
    cases access with
    | call => exact .inl ⟨isLooked, shown⟩
    | read => exact .inr ⟨isLooked, shown⟩

/-- A relationship is found about the member exactly when the look at it shows that relationship. -/
theorem mem_relations_findings_iff {relation : Relation} :
    relation ∈ (member.findings excluded).relations ↔ member.name = relation.name ∧
      member.Yields excluded (.relation relation.related relation.multiplicity) := by
  rw [yields_iff, findings]
  cases access? excluded member.entry with
  | none => simp [Findings.none]
  | some access => simp [Findings.mem_relations_ofOutcome_iff]

theorem look?_eq_call_iff {name : Text} :
    member.look? excluded = some (.call, name) ↔ member.name = name ∧ member.IsCalled excluded := by
  rw [look?, Option.map_eq_some_iff]
  constructor
  · rintro ⟨access, isLooked, made⟩
    obtain ⟨rfl, rfl⟩ := Prod.mk.inj made
    exact ⟨rfl, access?_eq_call_iff.mp isLooked⟩
  · rintro ⟨rfl, isCalled⟩
    exact ⟨.call, access?_eq_call_iff.mpr isCalled, rfl⟩

end Declared

/-! ## One look after the other -/

section Runs

variable {σ : Type}

theorem run_detect_cons (look : Access → Text → StateM σ Outcome) (excluded : List Text)
    (member : Text × Form) (rest : List (Text × Form)) (state : σ) :
    (detect look excluded (member :: rest)).run state =
      let (first, between) := (detectMember look excluded member).run state
      let (others, after) := (detect look excluded rest).run between
      (first.append others, after) :=
  rfl

theorem run_detectMember (look : Access → Text → StateM σ Outcome) (excluded : List Text)
    (member : Text × Form) (state : σ) :
    (detectMember look excluded member).run state =
      match access? excluded member with
      | some access =>
        let (outcome, after) := (look access member.1).run state
        (Findings.ofOutcome member.1 outcome, after)
      | none => (Findings.none, state) := by
  unfold detectMember
  cases access? excluded member <;> rfl

/-- In the states that `reached` holds of, each of the members shows its own, and a look has the effect
`effect`. -/
structure ShowOwn (look : Access → Text → StateM σ Outcome) (members : List Declared)
    (effect : Access → Text → σ → σ) (reached : σ → Prop) : Prop where
  run : ∀ member ∈ members, ∀ access state, reached state →
    (look access member.name).run state = (member.shows access, effect access member.name state)
  stays : ∀ access name state, reached state → reached (effect access name state)

variable {look : Access → Text → StateM σ Outcome} {members : List Declared}
  {effect : Access → Text → σ → σ} {reached : σ → Prop}

/-- The findings are those about the members one by one, and the state has the effects of one look at each
member that is looked at. -/
theorem run_detect (own : ShowOwn look members effect reached) (excluded : List Text) {state : σ}
    (isReached : reached state) :
    (detect look excluded (members.map Declared.entry)).run state =
      (.concat (members.map (Declared.findings excluded)),
        (members.filterMap (Declared.look? excluded)).foldl
          (fun state made => effect made.1 made.2 state) state) := by
  -- Each look leaves a state that is reached, in which the members behind it still show their own.
  induction members generalizing state with
  | nil => rfl
  | cons member rest inductionHypothesis =>
      have restOwn : ShowOwn look rest effect reached :=
        ⟨fun other isOther => own.run other (List.mem_cons_of_mem member isOther), own.stays⟩
      rw [List.map_cons, run_detect_cons, run_detectMember, List.map_cons, List.filterMap_cons,
        Declared.findings, Declared.look?]
      cases access? excluded member.entry with
      | none =>
          dsimp only [Option.map_none]
          rw [inductionHypothesis restOwn isReached]
          rfl
      | some access =>
          have shown := own.run member List.mem_cons_self access state isReached
          change (look access member.entry.1).run state = _ at shown
          dsimp only [Option.map_some]
          rw [shown]
          dsimp only
          rw [inductionHypothesis restOwn (own.stays access member.name state isReached)]
          rfl

end Runs

/-! ## Classes given by their members -/

/-- The members of a class in the order of their declaration. -/
structure ClassBody where
  members : List Declared
  distinct : (members.map Declared.name).Nodup

namespace ClassBody

/-- The class of one member. -/
def single (member : Declared) : ClassBody :=
  ⟨[member], List.nodup_singleton _⟩

/-- What the member of a name shows; a name that is not declared cannot be looked at. -/
def shown (body : ClassBody) (access : Access) (name : Text) : Outcome :=
  ((body.members.find? (·.name = name)).map (·.shows access)).getD .failed

/-- A look at a member, which is noted. -/
def look (body : ClassBody) (access : Access) (name : Text) : StateM (List (Access × Text)) Outcome := do
  modify (· ++ [(access, name)])
  return body.shown access name

/-- The findings about the members, and the looks that were made. -/
def detect (body : ClassBody) (excluded : List Text) : Findings × List (Access × Text) :=
  (Detection.detect body.look excluded (body.members.map Declared.entry)).run []

def relations (body : ClassBody) (excluded : List Text) : List Relation :=
  (body.detect excluded).1.relations

def failed (body : ClassBody) (excluded : List Text) : List Text :=
  (body.detect excluded).1.failed

def looks (body : ClassBody) (excluded : List Text) : List (Access × Text) :=
  (body.detect excluded).2

variable {body : ClassBody} {member : Declared}

theorem shown_of_mem (isMember : member ∈ body.members) (access : Access) :
    body.shown access member.name = member.shows access := by
  have found : body.members.find? (·.name = member.name) = some member := by
    cases isFirst : body.members.find? (·.name = member.name) with
    | none => exact absurd (decide_eq_true rfl) (List.find?_eq_none.mp isFirst member isMember)
    | some other =>
        have sameName : other.name = member.name := by simpa using List.find?_some isFirst
        rw [List.inj_on_of_nodup_map body.distinct (List.mem_of_find?_eq_some isFirst) isMember sameName]
  rw [shown, found]
  rfl

theorem showOwn_look (body : ClassBody) :
    ShowOwn body.look body.members (fun access name made => made ++ [(access, name)]) fun _ => True where
  run member isMember access made _ := by
    rw [← shown_of_mem isMember access]
    rfl
  stays _ _ _ _ := trivial

theorem foldl_noted (made : List (Access × Text)) :
    made.foldl (fun noted look => noted ++ [(look.1, look.2)]) [] = made := by
  rw [List.foldl_append_eq_append, List.nil_append, ← List.flatMap_def]
  exact List.flatMap_singleton' made

theorem detect_eq (body : ClassBody) (excluded : List Text) :
    body.detect excluded =
      (.concat (body.members.map (Declared.findings excluded)),
        body.members.filterMap (Declared.look? excluded)) := by
  rw [detect, run_detect body.showOwn_look excluded trivial, foldl_noted]

theorem relations_eq (body : ClassBody) (excluded : List Text) :
    body.relations excluded = body.members.flatMap fun member => (member.findings excluded).relations := by
  rw [relations, detect_eq, Findings.relations_concat, List.flatMap_map]

theorem failed_eq (body : ClassBody) (excluded : List Text) :
    body.failed excluded = body.members.flatMap fun member => (member.findings excluded).failed := by
  rw [failed, detect_eq, Findings.failed_concat, List.flatMap_map]

theorem looks_eq (body : ClassBody) (excluded : List Text) :
    body.looks excluded = body.members.filterMap (Declared.look? excluded) := by
  rw [looks, detect_eq]

theorem relations_excluded (body : ClassBody) (excluded : List Text) :
    body.relations excluded = (body.relations []).filter (·.name ∉ excluded) := by
  rw [relations_eq, relations_eq, List.filter_flatMap]
  exact List.flatMap_congr fun member _ => member.relations_findings excluded

theorem relations_single (member : Declared) (excluded : List Text) :
    (single member).relations excluded = (member.findings excluded).relations := by
  rw [relations_eq]
  exact List.append_nil _

/-- No member is looked at twice. -/
theorem nodup_looks (body : ClassBody) (excluded : List Text) : (body.looks excluded).Nodup := by
  rw [looks_eq, List.Nodup, List.pairwise_filterMap]
  refine (List.pairwise_map.mp body.distinct).imp ?_
  intro one other differ first isFirst second isSecond same
  apply differ
  rw [← Declared.name_of_look? isFirst, ← Declared.name_of_look? isSecond, same]

theorem call_mem_looks_iff (body : ClassBody) (excluded : List Text) (name : Text) :
    (.call, name) ∈ body.looks excluded ↔
      ∃ member ∈ body.members, member.name = name ∧ member.IsCalled excluded := by
  rw [looks_eq, List.mem_filterMap]
  apply exists_congr
  intro member
  rw [Declared.look?_eq_call_iff]

theorem mem_relations_iff (body : ClassBody) (excluded : List Text) (relation : Relation) :
    relation ∈ body.relations excluded ↔ ∃ member ∈ body.members, member.name = relation.name ∧
      member.Yields excluded (.relation relation.related relation.multiplicity) := by
  rw [relations_eq, List.mem_flatMap]
  apply exists_congr
  intro member
  rw [Declared.mem_relations_findings_iff]

/-- What belongs to the other members stays, in its order, when a member is taken away. -/
theorem flatMap_without {β : Type} {own : Declared → List β} {nameOf : β → Text}
    (named : ∀ member, ∀ item ∈ own member, nameOf item = member.name) {front back : List Declared}
    (split : body.members = front ++ member :: back) :
    (front ++ back).flatMap own = (body.members.flatMap own).filter (nameOf · ≠ member.name) := by
  have alone : member.name ∉ (front ++ back).map Declared.name := by
    have distinct := body.distinct
    rw [split, List.map_append, List.map_cons, List.nodup_middle, List.nodup_cons,
      ← List.map_append] at distinct
    exact distinct.1
  have dropped : (own member).filter (nameOf · ≠ member.name) = [] := by
    rw [List.filter_eq_nil_iff]
    intro item isOwn
    simp [named member item isOwn]
  have kept : ∀ other ∈ front ++ back, (own other).filter (nameOf · ≠ member.name) = own other := by
    intro other isOther
    rw [List.filter_eq_self]
    intro item isOwn
    rw [named other item isOwn]
    exact decide_eq_true fun same => alone (same ▸ List.mem_map_of_mem isOther)
  calc (front ++ back).flatMap own
      = (front ++ back).flatMap fun other => (own other).filter (nameOf · ≠ member.name) :=
        List.flatMap_congr fun other isOther => (kept other isOther).symm
    _ = (front ++ member :: back).flatMap fun other => (own other).filter (nameOf · ≠ member.name) := by
        rw [List.flatMap_append, List.flatMap_append, List.flatMap_cons, dropped, List.nil_append]
    _ = (body.members.flatMap own).filter (nameOf · ≠ member.name) := by
        rw [split, List.filter_flatMap]

end ClassBody

/-- An exclusion takes away the relationships of the excluded names alone, and the relationships are those
of the members taken one at a time. A member that raises or is no relationship has no influence on what
is found about the others or on the looks at them. Called is each public function that is neither excluded
nor abstract and takes one positional parameter, exactly once, and nothing else. A relationship is found
exactly when a member of its name shows it, called or read. -/
theorem detect_perMember (body : ClassBody) (excluded : List Text) :
    body.relations excluded = (body.relations []).filter (·.name ∉ excluded) ∧
      body.relations excluded =
        body.members.flatMap (fun member => (ClassBody.single member).relations excluded) ∧
      (∀ (fewer : ClassBody) (front back : List Declared) (member : Declared),
        body.members = front ++ member :: back → fewer.members = front ++ back →
          member.ShowsNone excluded →
            fewer.relations excluded = body.relations excluded ∧
              fewer.failed excluded = (body.failed excluded).filter (· ≠ member.name) ∧
              fewer.looks excluded = (body.looks excluded).filter (·.2 ≠ member.name)) ∧
      (body.looks excluded).Nodup ∧
      (∀ name, (.call, name) ∈ body.looks excluded ↔
        ∃ member ∈ body.members, member.name = name ∧ member.IsCalled excluded) ∧
      ∀ relation, relation ∈ body.relations excluded ↔
        ∃ member ∈ body.members, member.name = relation.name ∧
          member.Yields excluded (.relation relation.related relation.multiplicity) := by
  refine ⟨body.relations_excluded excluded, ?_, ?_, body.nodup_looks excluded,
    body.call_mem_looks_iff excluded, body.mem_relations_iff excluded⟩
  · rw [body.relations_eq]
    exact List.flatMap_congr fun member _ => (ClassBody.relations_single member excluded).symm
  · intro fewer front back member split others showsNone
    refine ⟨?_, ?_, ?_⟩
    · rw [ClassBody.relations_eq, ClassBody.relations_eq, others, split, List.flatMap_append,
        List.flatMap_append, List.flatMap_cons, Declared.relations_eq_nil showsNone, List.nil_append]
    · rw [ClassBody.failed_eq, ClassBody.failed_eq, others]
      exact ClassBody.flatMap_without (fun member => (member.findings_named excluded).2) split
    · rw [ClassBody.looks_eq, ClassBody.looks_eq, others, List.filterMap_eq_flatMap_toList,
        List.filterMap_eq_flatMap_toList]
      refine ClassBody.flatMap_without (fun member made isMade => ?_) split
      exact Declared.name_of_look? (Option.mem_toList.mp isMade)

/-! ## A class with a member that fails -/

def identifier : Declared := ⟨"id".toList, .value false, fun _ => .nothing⟩

def books : Declared := ⟨"books".toList, .value false, fun _ => .relation "Book".toList .many⟩

/-- A method that raises when it is called. -/
def nickname : Declared := ⟨"nickname".toList, .function false (some [.positional]), fun _ => .failed⟩

/-- A method that gives the relationship of another member. -/
def shelf : Declared :=
  ⟨"shelf".toList, .function false (some [.positional]), fun _ => .relation "Book".toList .many⟩

def booksSince : Declared :=
  ⟨"books_since".toList, .function false (some [.positional, .positional]), fun _ => .failed⟩

def author : ClassBody :=
  ⟨[identifier, books, nickname, shelf, booksSince], by decide⟩

/-- The class without the method that raises. -/
def plainAuthor : ClassBody :=
  ⟨[identifier, books, shelf, booksSince], by decide⟩

theorem detect_perMember_author :
    author.members = [identifier, books] ++ nickname :: [shelf, booksSince] ∧
      plainAuthor.members = [identifier, books] ++ [shelf, booksSince] ∧
      nickname.ShowsNone ["books".toList] ∧
      plainAuthor.relations ["books".toList] = author.relations ["books".toList] ∧
      author.relations ["books".toList] = (author.relations []).filter (·.name ∉ ["books".toList]) ∧
      (.call, "shelf".toList) ∈ author.looks ["books".toList] ∧
      ⟨"shelf".toList, "Book".toList, .many⟩ ∈ author.relations ["books".toList] := by
  obtain ⟨isFilter, -, alone, -, isCalled, isFound⟩ := detect_perMember author ["books".toList]
  have showsNone : nickname.ShowsNone ["books".toList] := fun _ _ => .inl rfl
  obtain ⟨same, -, -⟩ :=
    alone plainAuthor [identifier, books] [shelf, booksSince] nickname rfl rfl showsNone
  have called : shelf.IsCalled ["books".toList] :=
    ⟨by decide, by decide, by decide, .inl rfl⟩
  exact ⟨rfl, rfl, showsNone, same, isFilter,
    (isCalled _).mpr ⟨shelf, by simp [author], rfl, called⟩,
    (isFound _).mpr ⟨shelf, by simp [author], rfl, .inl ⟨called, rfl⟩⟩⟩

end SchemaDoc.Detection
