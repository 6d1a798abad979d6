import SchemaDoc.Source.Lookup

/-!
Contract: the class statements of a file and the search for one of them.

All class statements of a tree have a qualified name (`statementsClasses`): enclosing classes and
functions count, other statements add nothing to it. The search is described without its code by the
path that it goes down (`LeadsTo`) and by the levels of the tree (`IsFirstByLevel`): it takes the end of
the path, and the first class by level where there is no path (`SourceFile.find?_eq_some_iff`).
-/

namespace SchemaDoc.Source

/-! ## Qualified names -/

/-- What stands in a scope is named below it. -/
def nameBelow (scope : Text) (entry : Text × ClassStatement) : Text × ClassStatement :=
  (scope ++ '.' :: entry.1, entry.2)

/-- The scope that the body of a function is. -/
def localScope (function : Text) : Text :=
  function ++ ".<locals>".toList

mutual

/-- The class statements in a statement with their qualified names, in the order of the text. -/
def Stmt.classes : Stmt → List (Text × ClassStatement)
  | .simple _ => []
  | .classDef head body =>
    (head.name, ⟨head, body⟩) :: (statementsClasses body).map (nameBelow head.name)
  | .function head body => (statementsClasses body).map (nameBelow (localScope head.name))
  | .compound _ branches => branchesClasses branches

/-- The class statements in statements. -/
def statementsClasses : List Stmt → List (Text × ClassStatement)
  | [] => []
  | statement :: rest => statement.classes ++ statementsClasses rest

/-- The class statements in a branch. -/
def Branch.classes : Branch → List (Text × ClassStatement)
  | .mk _ body => statementsClasses body

/-- The class statements in branches. -/
def branchesClasses : List Branch → List (Text × ClassStatement)
  | [] => []
  | branch :: rest => branch.classes ++ branchesClasses rest

end

/-- The class statements of a file with their qualified names. -/
def SourceFile.classes (file : SourceFile) : List (Text × ClassStatement) :=
  statementsClasses file.statements

theorem statementsClasses_eq_flatMap (body : List Stmt) :
    statementsClasses body = body.flatMap Stmt.classes := by
  induction body with
  | nil => rfl
  | cons statement rest inductionHypothesis =>
      rw [statementsClasses, inductionHypothesis, List.flatMap_cons]

theorem branchesClasses_eq_flatMap (branches : List Branch) :
    branchesClasses branches = branches.flatMap Branch.classes := by
  induction branches with
  | nil => rfl
  | cons branch rest inductionHypothesis =>
      rw [branchesClasses, inductionHypothesis, List.flatMap_cons]

theorem mem_statementsClasses {body : List Stmt} {entry : Text × ClassStatement} :
    entry ∈ statementsClasses body ↔ ∃ statement ∈ body, entry ∈ statement.classes := by
  rw [statementsClasses_eq_flatMap, List.mem_flatMap]

/-! ## The first class of a name -/

/-- The class statement is one of the nodes, and no other one of its name stands in front of it. -/
def IsFirst (nodes : List Node) (found : ClassStatement) : Prop :=
  ∃ before after, nodes = before ++ .statement (.classDef found.head found.body) :: after ∧
    ∀ head body, .statement (.classDef head body) ∈ before → head.name ≠ found.head.name

theorem Node.named?_eq_some_iff {name : Text} {node : Node} {found : ClassStatement} :
    node.named? name = some found ↔
      node = .statement (.classDef found.head found.body) ∧ found.head.name = name := by
  unfold named?
  constructor
  · intro isNamed
    split at isNamed
    · split at isNamed
      · next same =>
          obtain rfl := Option.some.inj isNamed
          exact ⟨rfl, same⟩
      · exact absurd isNamed (by simp)
    · exact absurd isNamed (by simp)
  · rintro ⟨rfl, rfl⟩
    exact if_pos rfl

theorem Node.named?_eq_none_iff {name : Text} {node : Node} :
    node.named? name = none ↔
      ∀ head body, node = .statement (.classDef head body) → head.name ≠ name := by
  constructor
  · rintro isOther head body rfl same
    rw [Node.named?_eq_some_iff.mpr (⟨rfl, same⟩ : _ ∧ (ClassStatement.mk head body).head.name = name)]
      at isOther
    exact absurd isOther (by simp)
  · intro isOther
    cases isNamed : node.named? name with
    | none => rfl
    | some found =>
        obtain ⟨rfl, same⟩ := Node.named?_eq_some_iff.mp isNamed
        exact absurd same (isOther found.head found.body rfl)

theorem findSome?_named_eq_some_iff {name : Text} {nodes : List Node} {found : ClassStatement} :
    nodes.findSome? (·.named? name) = some found ↔ found.head.name = name ∧ IsFirst nodes found := by
  rw [List.findSome?_eq_some_iff]
  simp only [Node.named?_eq_some_iff, Node.named?_eq_none_iff]
  constructor
  · rintro ⟨before, node, after, rfl, ⟨rfl, rfl⟩, areOthers⟩
    exact ⟨rfl, before, after, rfl, fun head body member => areOthers _ member head body rfl⟩
  · rintro ⟨rfl, before, after, rfl, areOthers⟩
    refine ⟨before, _, after, rfl, ⟨rfl, rfl⟩, ?_⟩
    rintro other member head body rfl
    exact areOthers head body member

theorem findSome?_named_eq_none_iff {name : Text} {nodes : List Node} :
    nodes.findSome? (·.named? name) = none ↔
      ∀ head body, .statement (.classDef head body) ∈ nodes → head.name ≠ name := by
  rw [List.findSome?_eq_none_iff]
  simp only [Node.named?_eq_none_iff]
  constructor
  · intro areOthers head body member
    exact areOthers _ member head body rfl
  · rintro areOthers node member head body rfl
    exact areOthers head body member

/-! ## The path of a name -/

/-- Each name of the path is that of a class in the body of the one before, the first one of that
name; the last one is the class statement. -/
inductive LeadsTo : List Text → List Stmt → ClassStatement → Prop
  | last {body : List Stmt} {found : ClassStatement} :
      IsFirst (body.map .statement) found → LeadsTo [found.head.name] body found
  | step {body : List Stmt} {outer found : ClassStatement} {path : List Text} :
      IsFirst (body.map .statement) outer → LeadsTo path outer.body found →
      LeadsTo (outer.head.name :: path) body found

theorem ClassStatement.first?_eq_findSome? (name : Text) (body : List Stmt) :
    first? name body = (body.map Node.statement).findSome? (·.named? name) := by
  induction body with
  | nil => rfl
  | cons statement rest inductionHypothesis =>
      cases statement with
      | classDef head body =>
          rw [first?, List.map_cons, List.findSome?_cons, Node.named?]
          split
          · rfl
          · exact inductionHypothesis
      | simple content => exact inductionHypothesis
      | function head body => exact inductionHypothesis
      | compound header branches => exact inductionHypothesis

theorem ClassStatement.first?_eq_some_iff {name : Text} {body : List Stmt} {found : ClassStatement} :
    first? name body = some found ↔
      found.head.name = name ∧ IsFirst (body.map Node.statement) found := by
  rw [first?_eq_findSome?, findSome?_named_eq_some_iff]

theorem ClassStatement.atPath?_eq_some_iff {path : List Text} {body : List Stmt}
    {found : ClassStatement} : atPath? path body = some found ↔ LeadsTo path body found := by
  induction path generalizing body with
  | nil =>
      constructor
      · intro isFound
        exact absurd isFound (by simp [atPath?])
      · intro leads
        cases leads
  | cons name path inductionHypothesis =>
      cases path with
      | nil =>
          rw [atPath?, first?_eq_some_iff]
          constructor
          · rintro ⟨rfl, isFirst⟩
            exact .last isFirst
          · intro leads
            cases leads with
            | last isFirst => exact ⟨rfl, isFirst⟩
            | step _ leads => cases leads
      | cons next path =>
          rw [atPath?]
          · constructor
            · intro isFound
              split at isFound
              · next outer isOuter =>
                  obtain ⟨rfl, isFirst⟩ := first?_eq_some_iff.mp isOuter
                  exact .step isFirst (inductionHypothesis.mp isFound)
              · exact absurd isFound (by simp)
            · intro leads
              cases leads with
              | step isFirst leads =>
                  rw [first?_eq_some_iff.mpr ⟨rfl, isFirst⟩]
                  exact inductionHypothesis.mpr leads
          · simp

theorem IsFirst.mem {nodes : List Node} {found : ClassStatement} (isFirst : IsFirst nodes found) :
    .statement (.classDef found.head found.body) ∈ nodes := by
  obtain ⟨before, after, rfl, -⟩ := isFirst
  exact List.mem_append_right before List.mem_cons_self

theorem IsFirst.mem_body {body : List Stmt} {found : ClassStatement}
    (isFirst : IsFirst (body.map .statement) found) : .classDef found.head found.body ∈ body := by
  obtain ⟨statement, inBody, same⟩ := List.mem_map.mp isFirst.mem
  rwa [← Node.statement.inj same]

theorem LeadsTo.mem_classes {path : List Text} {body : List Stmt} {found : ClassStatement}
    (leads : LeadsTo path body found) :
    (Text.join ['.'] path, found) ∈ statementsClasses body := by
  induction leads with
  | last isFirst =>
      refine mem_statementsClasses.mpr ⟨_, isFirst.mem_body, ?_⟩
      rw [Stmt.classes]
      exact List.mem_cons_self
  | @step body outer found path isFirst leads inductionHypothesis =>
      refine mem_statementsClasses.mpr ⟨_, isFirst.mem_body, ?_⟩
      rw [Stmt.classes]
      refine List.mem_cons_of_mem _ (List.mem_map.mpr ⟨_, inductionHypothesis, ?_⟩)
      cases leads <;> simp [nameBelow, Text.join]

theorem LeadsTo.getLast? {path : List Text} {body : List Stmt} {found : ClassStatement}
    (leads : LeadsTo path body found) : path.getLast? = some found.head.name := by
  induction leads with
  | last => rfl
  | step _ leads inductionHypothesis =>
      rw [List.getLast?_cons, inductionHypothesis]
      rfl

/-! ## The levels of the tree -/

namespace Node

/-- The class statements at a node and below it. -/
def classes : Node → List ClassStatement
  | .statement inside => inside.classes.map Prod.snd
  | .branch body => (statementsClasses body).map Prod.snd

/-- The number of levels below a node, itself included. -/
def height : Node → Nat
  | .statement inside => inside.height
  | .branch body => statementsHeight body + 1

theorem classes_statements (body : List Stmt) :
    (body.map statement).flatMap classes = (statementsClasses body).map Prod.snd := by
  rw [statementsClasses_eq_flatMap, List.map_flatMap, List.flatMap_map]
  rfl

theorem height_pos (node : Node) : 0 < node.height := by
  cases node with
  | statement inside => cases inside <;> simp [height, Stmt.height]
  | branch body => simp [height]

theorem classes_ofBranch (branch : Branch) :
    (ofBranch branch).flatMap classes = branch.classes.map Prod.snd := by
  obtain ⟨opening, body⟩ := branch
  rw [ofBranch, Branch.classes]
  split
  · exact List.flatMap_singleton classes (.branch body)
  · exact classes_statements body

theorem snd_nameBelow (scope : Text) (entries : List (Text × ClassStatement)) :
    (entries.map (nameBelow scope)).map Prod.snd = entries.map Prod.snd := by
  rw [List.map_map]
  rfl

/-- A class statement at a node or below it is the node, or stands at one of its children or below. -/
theorem mem_classes_iff {node : Node} {found : ClassStatement} :
    found ∈ node.classes ↔
      node = .statement (.classDef found.head found.body) ∨ found ∈ node.children.flatMap classes := by
  cases node with
  | branch body => simp [classes, children, classes_statements]
  | statement inside =>
      cases inside with
      | simple content => simp [classes, children, Stmt.classes]
      | classDef head body =>
          rw [classes, children, classes_statements, Stmt.classes, List.map_cons, snd_nameBelow,
            List.mem_cons]
          refine or_congr_left ⟨?_, ?_⟩
          · rintro rfl
            rfl
          · intro same
            injection same with same
            injection same with sameHead sameBody
            rw [sameHead, sameBody]
      | function head body =>
          rw [classes, children, classes_statements, Stmt.classes, snd_nameBelow]
          simp
      | compound header branches =>
          rw [classes, children, Stmt.classes, branchesClasses_eq_flatMap, List.map_flatMap,
            List.flatMap_assoc]
          simp [classes_ofBranch]

theorem height_le_statementsHeight {body : List Stmt} {inside : Stmt} (member : inside ∈ body) :
    inside.height ≤ statementsHeight body := by
  induction body with
  | nil => exact absurd member List.not_mem_nil
  | cons first rest inductionHypothesis =>
      rw [statementsHeight]
      rcases List.mem_cons.mp member with rfl | later
      · exact Nat.le_max_left _ _
      · exact Nat.le_trans (inductionHypothesis later) (Nat.le_max_right _ _)

theorem height_le_branchesHeight {branches : List Branch} {branch : Branch}
    (member : branch ∈ branches) : branch.height ≤ branchesHeight branches := by
  induction branches with
  | nil => exact absurd member List.not_mem_nil
  | cons first rest inductionHypothesis =>
      rw [branchesHeight]
      rcases List.mem_cons.mp member with rfl | later
      · exact Nat.le_max_left _ _
      · exact Nat.le_trans (inductionHypothesis later) (Nat.le_max_right _ _)

theorem height_of_mem_statements {body : List Stmt} {node : Node}
    (member : node ∈ body.map statement) : node.height ≤ statementsHeight body := by
  obtain ⟨inside, inBody, rfl⟩ := List.mem_map.mp member
  exact height_le_statementsHeight inBody

theorem height_children {node child : Node} (member : child ∈ node.children) :
    child.height < node.height := by
  cases node with
  | branch body => exact Nat.lt_succ_of_le (height_of_mem_statements member)
  | statement inside =>
      cases inside with
      | simple content => exact absurd member List.not_mem_nil
      | classDef head body => exact Nat.lt_succ_of_le (height_of_mem_statements member)
      | function head body => exact Nat.lt_succ_of_le (height_of_mem_statements member)
      | compound header branches =>
          obtain ⟨⟨opening, body⟩, inBranches, below⟩ := List.mem_flatMap.mp member
          have isInside := height_le_branchesHeight inBranches
          rw [Branch.height] at isInside
          apply Nat.lt_succ_of_le
          rw [ofBranch] at below
          split at below
          · obtain rfl := List.mem_singleton.mp below
            exact isInside
          · exact Nat.le_trans (height_of_mem_statements below) (by omega)

theorem eq_nil_of_height {nodes : List Node} (fits : ∀ node ∈ nodes, node.height ≤ 0) : nodes = [] := by
  apply List.eq_nil_iff_forall_not_mem.mpr
  intro node member
  exact absurd node.height_pos (Nat.not_lt.mpr (fits node member))

end Node

/-- The nodes that many levels below. -/
def levelBelow (nodes : List Node) : (depth : Nat) → List Node
  | 0 => nodes
  | depth + 1 => levelBelow (nodes.flatMap Node.children) depth

/-- The class statement is the first one of its name, level by level. -/
def IsFirstByLevel (nodes : List Node) (found : ClassStatement) : Prop :=
  ∃ depth, IsFirst (levelBelow nodes depth) found ∧
    ∀ upper < depth, ∀ head body, .statement (.classDef head body) ∈ levelBelow nodes upper →
      head.name ≠ found.head.name

theorem levelBelow_nil (depth : Nat) : levelBelow [] depth = [] := by
  induction depth with
  | zero => rfl
  | succ depth inductionHypothesis => exact inductionHypothesis

theorem mem_classes_of_levelBelow {nodes : List Node} {found : ClassStatement} (depth : Nat)
    (member : found ∈ (levelBelow nodes depth).flatMap Node.classes) :
    found ∈ nodes.flatMap Node.classes := by
  induction depth generalizing nodes with
  | zero => exact member
  | succ depth inductionHypothesis =>
      obtain ⟨child, inChildren, inChild⟩ := List.mem_flatMap.mp (inductionHypothesis member)
      obtain ⟨node, inNodes, isChild⟩ := List.mem_flatMap.mp inChildren
      have isBelow := List.mem_flatMap.mpr ⟨child, isChild, inChild⟩
      exact List.mem_flatMap.mpr ⟨node, inNodes, Node.mem_classes_iff.mpr (.inr isBelow)⟩

theorem IsFirstByLevel.mem_classes {nodes : List Node} {found : ClassStatement}
    (isFirst : IsFirstByLevel nodes found) : found ∈ nodes.flatMap Node.classes := by
  obtain ⟨depth, isFirst, -⟩ := isFirst
  apply mem_classes_of_levelBelow depth
  exact List.mem_flatMap.mpr ⟨_, isFirst.mem, Node.mem_classes_iff.mpr (.inl rfl)⟩

theorem height_flatMap_children {levels : Nat} {nodes : List Node}
    (fits : ∀ node ∈ nodes, node.height ≤ levels + 1) :
    ∀ node ∈ nodes.flatMap Node.children, node.height ≤ levels := by
  intro child member
  obtain ⟨node, inNodes, below⟩ := List.mem_flatMap.mp member
  have smaller := Node.height_children below
  have bounded := fits node inNodes
  omega

/-- The search by level gives nothing exactly where there is no class statement of the name. -/
theorem findByLevel_eq_none_iff {name : Text} {levels : Nat} {nodes : List Node}
    (fits : ∀ node ∈ nodes, node.height ≤ levels) :
    findByLevel name levels nodes = none ↔
      ∀ found ∈ nodes.flatMap Node.classes, found.head.name ≠ name := by
  induction levels generalizing nodes with
  | zero =>
      obtain rfl := Node.eq_nil_of_height fits
      simp [findByLevel]
  | succ levels inductionHypothesis =>
      have below := inductionHypothesis (height_flatMap_children fits)
      rw [findByLevel]
      constructor
      · intro isNone found member
        split at isNone
        · exact absurd isNone (by simp)
        · next isNoneHere =>
            obtain ⟨node, inNodes, inside⟩ := List.mem_flatMap.mp member
            rcases Node.mem_classes_iff.mp inside with rfl | isBelow
            · exact findSome?_named_eq_none_iff.mp isNoneHere found.head found.body inNodes
            · obtain ⟨child, isChild, inChild⟩ := List.mem_flatMap.mp isBelow
              have inChildren := List.mem_flatMap.mpr ⟨node, inNodes, isChild⟩
              exact below.mp isNone found (List.mem_flatMap.mpr ⟨child, inChildren, inChild⟩)
      · intro areOthers
        have isNoneHere : nodes.findSome? (·.named? name) = none := by
          apply findSome?_named_eq_none_iff.mpr
          intro head body member
          apply areOthers ⟨head, body⟩
          exact List.mem_flatMap.mpr ⟨_, member, Node.mem_classes_iff.mpr (.inl rfl)⟩
        rw [isNoneHere]
        apply below.mpr
        intro found member
        obtain ⟨child, inChildren, inChild⟩ := List.mem_flatMap.mp member
        obtain ⟨node, inNodes, isChild⟩ := List.mem_flatMap.mp inChildren
        have isBelow := List.mem_flatMap.mpr ⟨child, isChild, inChild⟩
        exact areOthers found
          (List.mem_flatMap.mpr ⟨node, inNodes, Node.mem_classes_iff.mpr (.inr isBelow)⟩)

/-- The first class statement of a name is among the nodes, or it is the first one below them. -/
theorem isFirstByLevel_iff {nodes : List Node} {found : ClassStatement} :
    IsFirstByLevel nodes found ↔ IsFirst nodes found ∨
      (∀ head body, .statement (.classDef head body) ∈ nodes → head.name ≠ found.head.name) ∧
        IsFirstByLevel (nodes.flatMap Node.children) found := by
  constructor
  · rintro ⟨depth, isFirst, areOthers⟩
    cases depth with
    | zero => exact .inl isFirst
    | succ depth =>
        refine .inr ⟨areOthers 0 (Nat.succ_pos depth), depth, isFirst, fun upper isUpper => ?_⟩
        exact areOthers (upper + 1) (Nat.succ_lt_succ isUpper)
  · rintro (isFirst | ⟨areOthers, depth, isFirst, areOthersBelow⟩)
    · exact ⟨0, isFirst, fun upper isUpper => absurd isUpper (Nat.not_lt_zero upper)⟩
    · refine ⟨depth + 1, isFirst, fun upper isUpper => ?_⟩
      cases upper with
      | zero => exact areOthers
      | succ upper => exact areOthersBelow upper (Nat.lt_of_succ_lt_succ isUpper)

/-- The search by level gives the first class statement of the name. -/
theorem findByLevel_eq_some_iff {name : Text} {levels : Nat} {nodes : List Node}
    {found : ClassStatement} (fits : ∀ node ∈ nodes, node.height ≤ levels) :
    findByLevel name levels nodes = some found ↔
      found.head.name = name ∧ IsFirstByLevel nodes found := by
  induction levels generalizing nodes with
  | zero =>
      obtain rfl := Node.eq_nil_of_height fits
      constructor
      · intro isFound
        exact absurd isFound (by simp [findByLevel])
      · rintro ⟨-, depth, isFirst, -⟩
        exact absurd isFirst.mem (by simp [levelBelow_nil])
  | succ levels inductionHypothesis =>
      have below := inductionHypothesis (height_flatMap_children fits)
      rw [findByLevel, isFirstByLevel_iff]
      constructor
      · intro isFound
        split at isFound
        · next isHere =>
            obtain rfl := Option.some.inj isFound
            obtain ⟨same, isFirst⟩ := findSome?_named_eq_some_iff.mp isHere
            exact ⟨same, .inl isFirst⟩
        · next isNoneHere =>
            obtain ⟨rfl, isFirst⟩ := below.mp isFound
            exact ⟨rfl, .inr ⟨findSome?_named_eq_none_iff.mp isNoneHere, isFirst⟩⟩
      · rintro ⟨rfl, isFirst | ⟨areOthers, isFirst⟩⟩
        · rw [findSome?_named_eq_some_iff.mpr ⟨rfl, isFirst⟩]
        · rw [findSome?_named_eq_none_iff.mpr areOthers]
          exact below.mpr ⟨rfl, isFirst⟩

/-! ## The class that a name stands for -/

namespace SourceFile

/-- The search takes the end of the path of the name, and without a path the first class statement of
its last part, level by level. -/
theorem find?_eq_some_iff {file : SourceFile} {qualname : Text} {found : ClassStatement} :
    file.find? qualname = some found ↔
      LeadsTo (Text.splitOnChar '.' qualname) file.statements found ∨
        (∀ other, ¬ LeadsTo (Text.splitOnChar '.' qualname) file.statements other) ∧
          found.head.name = shortName qualname ∧
            IsFirstByLevel (file.statements.map .statement) found := by
  have byLevel := @findByLevel_eq_some_iff (shortName qualname) _ _ found
    (fun node => @Node.height_of_mem_statements file.statements node)
  unfold find?
  constructor
  · intro isFound
    split at isFound
    · next other onPath =>
        obtain rfl := Option.some.inj isFound
        exact .inl (ClassStatement.atPath?_eq_some_iff.mp onPath)
    · next noPath =>
        refine .inr ⟨fun other leads => ?_, byLevel.mp isFound⟩
        rw [ClassStatement.atPath?_eq_some_iff.mpr leads] at noPath
        exact absurd noPath (by simp)
  · rintro (leads | ⟨noPath, isFirst⟩)
    · rw [ClassStatement.atPath?_eq_some_iff.mpr leads]
    · cases onPath : ClassStatement.atPath? (Text.splitOnChar '.' qualname) file.statements with
      | none => exact byLevel.mpr isFirst
      | some other => exact absurd (ClassStatement.atPath?_eq_some_iff.mp onPath) (noPath other)

/-- The class that is found is one of the file's, and has the last part of the name. -/
theorem find?_sound {file : SourceFile} {qualname : Text} {found : ClassStatement}
    (isFound : file.find? qualname = some found) :
    found ∈ file.classes.map Prod.snd ∧ found.head.name = shortName qualname := by
  rcases find?_eq_some_iff.mp isFound with leads | ⟨-, same, isFirst⟩
  · refine ⟨List.mem_map.mpr ⟨_, leads.mem_classes, rfl⟩, ?_⟩
    rw [shortName, leads.getLast?]
    rfl
  · refine ⟨?_, same⟩
    rw [classes, ← Node.classes_statements]
    exact isFirst.mem_classes

theorem find?_eq_none_iff {file : SourceFile} {qualname : Text} :
    file.find? qualname = none ↔
      ∀ found ∈ file.classes.map Prod.snd, found.head.name ≠ shortName qualname := by
  constructor
  · intro isNone
    have isNone : findByLevel (shortName qualname) (statementsHeight file.statements)
        (file.statements.map .statement) = none := by
      unfold find? at isNone
      split at isNone
      · exact absurd isNone (by simp)
      · exact isNone
    have areOthers := (findByLevel_eq_none_iff
      (fun node => @Node.height_of_mem_statements file.statements node)).mp isNone
    rwa [Node.classes_statements] at areOthers
  · intro areOthers
    cases isFound : file.find? qualname with
    | none => rfl
    | some found =>
        obtain ⟨member, same⟩ := find?_sound isFound
        exact absurd same (areOthers found member)

end SourceFile

end SchemaDoc.Source
