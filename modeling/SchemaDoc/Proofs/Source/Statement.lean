import SchemaDoc.Proofs.Source.Classes
import SchemaDoc.Proofs.Source.Expression
import SchemaDoc.Source.Statement

/-!
Contract: where the class statements of a file stand among its tokens.

The heads of the class statements of a tree are spelled by its tokens in the order of the text, each one
by its decorators and the word `class` (`statements?_spells`): one lemma for each rule of the grammar
under which a block stands. So the statements stand at different places (`nodup_places`).
-/

namespace SchemaDoc.Source

open SchemaDoc.Source.Parser

/-! ## Heads among tokens -/

/-- A decorator with its line: its sign, and an expression behind it. -/
def IsDecorator (taken : Tokens) (found : Located) : Prop :=
  ∃ sign behind, taken = (.symbol "@", sign) :: behind ∧ Expression.IsLocated behind found

/-- The decorators above a definition, one behind the other. -/
def AreDecorators (taken : Tokens) (above : List Located) : Prop :=
  ∃ pieces, taken = pieces.flatten ∧ List.Forall₂ IsDecorator pieces above

/-- The tokens from the first decorator of a class statement to its first word. -/
def IsOpening (taken : Tokens) (head : ClassHead) : Prop :=
  ∃ above, taken = above ++ [(.keyword "class", head.place)] ∧ AreDecorators above head.decorators

/-- The tokens have openings of these class statements in a row, and other tokens between them. -/
inductive Spells : List ClassHead → Tokens → Prop
  | nil {tokens : Tokens} : Spells [] tokens
  | cons {head : ClassHead} {heads : List ClassHead} {front opening behind : Tokens} :
      IsOpening opening head → Spells heads behind →
      Spells (head :: heads) (front ++ (opening ++ behind))

theorem Spells.behind {heads : List ClassHead} {tokens : Tokens} (spells : Spells heads tokens)
    (front : Tokens) : Spells heads (front ++ tokens) := by
  cases spells with
  | nil => exact .nil
  | cons opening later =>
      rw [← List.append_assoc]
      exact .cons opening later

theorem Spells.append {first later : List ClassHead} {tokens behind : Tokens}
    (spells : Spells first tokens) (spellsLater : Spells later behind) :
    Spells (first ++ later) (tokens ++ behind) := by
  induction spells with
  | nil => exact spellsLater.behind _
  | cons opening _ inductionHypothesis =>
      rw [List.append_assoc, List.append_assoc]
      exact .cons opening inductionHypothesis

theorem Spells.before {heads : List ClassHead} {tokens : Tokens} (spells : Spells heads tokens)
    (behind : Tokens) : Spells heads (tokens ++ behind) := by
  rw [← List.append_nil heads]
  exact spells.append .nil

/-! ## Heads of a tree -/

/-- The heads of the class statements in a statement. -/
def Stmt.heads (statement : Stmt) : List ClassHead :=
  statement.classes.map (·.2.head)

/-- The heads of the class statements in statements. -/
def statementsHeads (body : List Stmt) : List ClassHead :=
  (statementsClasses body).map (·.2.head)

/-- The heads of the class statements in branches. -/
def branchesHeads (branches : List Branch) : List ClassHead :=
  (branchesClasses branches).map (·.2.head)

theorem heads_nameBelow (scope : Text) (body : List Stmt) :
    ((statementsClasses body).map (nameBelow scope)).map (·.2.head) = statementsHeads body := by
  rw [List.map_map]
  rfl

@[simp] theorem Stmt.heads_simple (content : Simple) : (Stmt.simple content).heads = [] := rfl

@[simp] theorem Stmt.heads_classDef (head : ClassHead) (body : List Stmt) :
    (Stmt.classDef head body).heads = head :: statementsHeads body := by
  rw [heads, classes, List.map_cons, heads_nameBelow]

@[simp] theorem Stmt.heads_function (head : FunctionHead) (body : List Stmt) :
    (Stmt.function head body).heads = statementsHeads body := by
  rw [heads, classes, heads_nameBelow]

@[simp] theorem Stmt.heads_compound (header : Header) (branches : List Branch) :
    (Stmt.compound header branches).heads = branchesHeads branches := by
  rw [heads, classes, branchesHeads]

@[simp] theorem statementsHeads_nil : statementsHeads [] = [] := rfl

@[simp] theorem statementsHeads_cons (statement : Stmt) (rest : List Stmt) :
    statementsHeads (statement :: rest) = statement.heads ++ statementsHeads rest := by
  rw [statementsHeads, statementsClasses, List.map_append, Stmt.heads, statementsHeads]

@[simp] theorem statementsHeads_append (first rest : List Stmt) :
    statementsHeads (first ++ rest) = statementsHeads first ++ statementsHeads rest := by
  induction first with
  | nil => rfl
  | cons statement others inductionHypothesis => simp [inductionHypothesis]

theorem statementsHeads_flatten (groups : List (List Stmt)) :
    statementsHeads groups.flatten = groups.flatMap statementsHeads := by
  induction groups with
  | nil => rfl
  | cons group others inductionHypothesis => simp [inductionHypothesis]

theorem statementsHeads_simple (contents : List Simple) :
    statementsHeads (contents.map Stmt.simple) = [] := by
  induction contents with
  | nil => rfl
  | cons content others inductionHypothesis => simpa using inductionHypothesis

@[simp] theorem branchesHeads_nil : branchesHeads [] = [] := rfl

@[simp] theorem branchesHeads_cons (opening : Opening) (body : List Stmt) (rest : List Branch) :
    branchesHeads (.mk opening body :: rest) = statementsHeads body ++ branchesHeads rest := by
  rw [branchesHeads, branchesClasses, List.map_append, Branch.classes, statementsHeads, branchesHeads]

@[simp] theorem branchesHeads_append (first rest : List Branch) :
    branchesHeads (first ++ rest) = branchesHeads first ++ branchesHeads rest := by
  induction first with
  | nil => rfl
  | cons branch others inductionHypothesis =>
      obtain ⟨opening, body⟩ := branch
      simp [inductionHypothesis]

theorem branchesHeads_eq_flatMap (branches : List Branch) :
    branchesHeads branches = branches.flatMap fun branch => branchesHeads [branch] := by
  induction branches with
  | nil => rfl
  | cons branch others inductionHypothesis =>
      rw [List.flatMap_cons, ← inductionHypothesis, ← branchesHeads_append]
      rfl

/-! ## Parsers that keep class statements -/

section Keeps

variable {α β : Type} {prior : List ClassHead} {heads : α → List ClassHead}
  {goal : β → List ClassHead}

/-- The class statements of what is read are earlier ones and those that the tokens spell. -/
def Keeps (prior : List ClassHead) (heads : α → List ClassHead) (parser : Parser α) : Prop :=
  Takes parser fun taken value => ∃ later, heads value = prior ++ later ∧ Spells later taken

namespace Keeps

theorem pure {value : α} (same : heads value = prior) : Keeps prior heads (Pure.pure value) :=
  Takes.pure ⟨[], same.trans (List.append_nil prior).symm, .nil⟩

theorem bind {parser : Parser α} {next : α → Parser β} (first : Keeps [] heads parser)
    (later : ∀ value, Keeps (prior ++ heads value) goal (next value)) :
    Keeps prior goal (parser >>= next) := by
  refine Takes.bind first fun value taken isKept => ?_
  obtain ⟨found, same, spells⟩ := isKept
  refine (later value).weaken fun more result isResult => ?_
  obtain ⟨others, sameResult, spellsOthers⟩ := isResult
  refine ⟨found ++ others, ?_, spells.append spellsOthers⟩
  rw [sameResult, same, List.nil_append, List.append_assoc]

theorem grows (taken more : Tokens) (value : α)
    (isKept : ∃ later, heads value = prior ++ later ∧ Spells later more) :
    ∃ later, heads value = prior ++ later ∧ Spells later (taken ++ more) :=
  isKept.imp fun _ isLater => ⟨isLater.1, isLater.2.behind taken⟩

/-- What is read first has no class statements. -/
theorem after {parser : Parser α} {next : α → Parser β}
    (later : ∀ value, Keeps prior goal (next value)) : Keeps prior goal (parser >>= next) :=
  Takes.after grows later

/-- Two ways that go on alike. -/
theorem join {flag : Bool} {first second : Parser α} {next : α → Parser β}
    (later : ∀ value, Keeps prior goal (next value)) :
    Keeps prior goal (if flag then first >>= next else second >>= next) :=
  Takes.join grows later

theorem many {continues : Parser Bool} {item : Parser α} (items : Keeps [] heads item) :
    Keeps [] (fun found => found.flatMap heads) (many continues item) := by
  unfold Parser.many
  let keeps (taken : Tokens) (found : List α) : Prop := Spells (found.reverse.flatMap heads) taken
  refine Takes.bind (show Takes _ keeps from .iterate .nil ?_) fun found taken isKept => ?_
  · intro taken found isKept
    refine Takes.any.bind fun goesOn tested _ => ?_
    split
    · refine Takes.bind items fun value more isItem => .pure ?_
      obtain ⟨others, same, spells⟩ := isItem
      show Spells ((value :: found).reverse.flatMap heads) _
      rw [List.reverse_cons, List.flatMap_append, List.flatMap_singleton, same, List.append_nil]
      exact isKept.append (spells.behind tested)
    · exact .pure (by simpa using isKept.before tested)
  · exact .pure ⟨found.reverse.flatMap heads, rfl, by simpa using isKept⟩

/-- One value in place of another with the same class statements. -/
theorem single {parser : Parser Stmt} (keeps : Keeps [] Stmt.heads parser) :
    Keeps [] statementsHeads (return [← parser]) :=
  .bind keeps fun statement => .pure (by simp)

end Keeps
end Keeps

/-! ## The grammar -/

namespace Statement

/-- What a block reads has the class statements that its tokens spell. -/
def KeepsBlock (parts : Parts) : Prop :=
  Keeps [] statementsHeads parts.block

variable {parts : Parts}

theorem keeps_line (inner : Inner) : Keeps [] statementsHeads (line inner) := by
  unfold line
  exact .after fun _ => .after fun others => .after fun _ => .after fun _ =>
    .pure (statementsHeads_simple _)

section Compound

variable (keepsBlock : KeepsBlock parts)

include keepsBlock

theorem keeps_otherwise : Keeps [] branchesHeads (otherwise parts) := by
  unfold otherwise
  refine .after fun _ => ?_
  split
  · exact .after fun _ => .bind keepsBlock fun body => .pure (by simp)
  · exact .pure rfl

theorem keeps_tested : Keeps [] (fun found => statementsHeads found.2) (tested parts) := by
  unfold tested
  exact .after fun _ => .after fun _ => .bind keepsBlock fun body => .pure rfl

theorem keeps_conditional : Keeps [] Stmt.heads (conditional parts) := by
  unfold conditional
  refine .after fun _ => .bind (keeps_tested keepsBlock) fun first => ?_
  refine .bind (.many (.after fun _ => keeps_tested keepsBlock)) fun further => ?_
  refine .bind (keeps_otherwise keepsBlock) fun last => .pure ?_
  rw [Stmt.heads_compound, branchesHeads_cons, List.nil_append, List.append_assoc]
  refine congrArg (statementsHeads first.2 ++ ·) ?_
  induction further with
  | nil => rfl
  | cons next others inductionHypothesis => simp [inductionHypothesis]

theorem keeps_loop : Keeps [] Stmt.heads (loop parts) := by
  unfold loop
  refine .after fun _ => .bind (keeps_tested keepsBlock) fun first => ?_
  exact .bind (keeps_otherwise keepsBlock) fun last => .pure (by simp)

theorem keeps_iteration (isAsync : Bool) : Keeps [] Stmt.heads (iteration parts isAsync) := by
  unfold iteration
  refine .after fun _ => .after fun _ => .after fun _ => .after fun _ => .after fun _ => ?_
  refine .bind keepsBlock fun body => ?_
  exact .bind (keeps_otherwise keepsBlock) fun last => .pure (by simp)

theorem keeps_resources (isAsync : Bool) : Keeps [] Stmt.heads (resources parts isAsync) := by
  unfold resources
  exact .after fun _ => .after fun _ => .bind keepsBlock fun body => .pure (by simp)

theorem keeps_handler (isGrouped : Bool) :
    Keeps [] (fun branch => branchesHeads [branch]) (handler parts isGrouped) := by
  unfold handler
  have named : Keeps [] (fun branch => branchesHeads [branch])
      (do
        let exception ← parts.inner.expression
        let title ← if (← accept (.keyword "as")) then some <$> name else pure none
        symbol ":"
        return Branch.mk (.handler (some exception.expr) title) (← parts.block)) :=
    .after fun _ => .after fun _ => .join fun _ => .after fun _ =>
      .bind keepsBlock fun body => .pure (by simp)
  refine .after fun _ => ?_
  split
  · exact .after fun _ => named
  · refine .after fun _ => ?_
    split
    · exact .bind keepsBlock fun body => .pure (by simp)
    · exact named

theorem keeps_final : Keeps [] branchesHeads (final parts) := by
  unfold final
  refine .after fun _ => ?_
  split
  · exact .after fun _ => .bind keepsBlock fun body => .pure (by simp)
  · exact .pure rfl

theorem keeps_attempted : Keeps [] Stmt.heads (attempted parts) := by
  unfold attempted
  refine .after fun _ => .after fun _ => .bind keepsBlock fun body => .after fun _ => ?_
  split
  · refine .after fun _ => .bind (.many (keeps_handler keepsBlock _)) fun handlers => ?_
    refine .bind (keeps_otherwise keepsBlock) fun rest => ?_
    refine .bind (keeps_final keepsBlock) fun last => .pure ?_
    rw [← branchesHeads_eq_flatMap]
    simp
  · refine .bind (keeps_final keepsBlock) fun last => ?_
    split
    · exact .after fun _ => .pure (by simp)
    · exact .pure (by simp)

theorem keeps_selectionCase :
    Keeps [] (fun branch => branchesHeads [branch]) (selectionCase parts) := by
  unfold selectionCase
  have opened : Keeps [] (fun branch => branchesHeads [branch])
      (do
        skip
        let pattern ← Matching.openSequence parts.pattern
        let guard ← if (← accept (.keyword "if")) then
            some <$> Expression.namedExpression parts.inner
          else pure none
        symbol ":"
        return Branch.mk (.case pattern (guard.map Located.expr)) (← parts.block)) :=
    .after fun _ => .after fun _ => .after fun _ => .join fun _ => .after fun _ =>
      .bind keepsBlock fun body => .pure (by simp)
  refine .after fun _ => ?_
  split
  · exact .after fun _ => opened
  · exact opened

theorem keeps_selection (subject : Expr) : Keeps [] Stmt.heads (selection parts subject) := by
  unfold selection
  refine .after fun _ => .bind (keeps_selectionCase keepsBlock) fun first => ?_
  refine .bind (.many (keeps_selectionCase keepsBlock)) fun others => .after fun _ => .pure ?_
  rw [← branchesHeads_eq_flatMap, Stmt.heads_compound, List.nil_append, ← branchesHeads_append]
  rfl

/-! ### Definitions -/

theorem keeps_function (isAsync : Bool) (above : List Located) :
    Keeps [] Stmt.heads (function parts isAsync above) := by
  unfold function
  refine .after fun _ => .after fun _ => .after fun _ => .after fun _ => .after fun _ =>
    .after fun _ => .join fun _ => .after fun _ => ?_
  exact .bind keepsBlock fun body => .pure (by simp)

omit keepsBlock in
theorem takes_decorators {inner : Inner} (leads : Expression.InnerLeads inner) :
    Takes (decorators inner) AreDecorators := by
  unfold decorators
  refine Takes.many (.behindLook fun _ => .pure rfl) ⟨@fun tokens rest found isRead => ?_⟩
  obtain ⟨isSign, left, isTest, isRead⟩ := run_bind_eq_some.mp isRead
  obtain ⟨rfl, rfl⟩ := Prod.mk.inj (Option.some.inj isTest)
  split at isRead
  · next goesOn =>
      cases tokens with
      | nil => exact absurd (of_decide_eq_true goesOn) (by simp)
      | cons entry tail =>
          obtain ⟨token, sign⟩ := entry
          have behindSign : Takes (do
              let found ← Expression.namedExpression inner
              expect .newline
              return found) Expression.IsLocated :=
            (Expression.leads_namedExpression leads).bind fun found taken located =>
              Takes.any.bind fun _ _ _ => .pure (located.append _)
          obtain ⟨behind, rfl, located⟩ := behindSign.isGood isRead
          have isSign : token = .symbol "@" := of_decide_eq_true goesOn
          exact ⟨(token, sign) :: behind, rfl, sign, behind, by rw [isSign], located⟩
  · exact absurd isRead (by simp [fail])

/-- A class statement opens with its word; its class statements are those of its body and itself. -/
theorem takes_classStatement (above : List Located) :
    Takes (classStatement parts above) fun taken found => ∃ head inside behind,
      found.heads = head :: inside ∧ head.decorators = above ∧
        taken = (.keyword "class", head.place) :: behind ∧ Spells inside behind := by
  unfold classStatement
  refine Takes.here fun place => (Takes.expect (by decide)).bind fun _ word isWord => ?_
  obtain ⟨first, rfl⟩ := isWord
  let opens (behind : Tokens) (found : Stmt) : Prop := ∃ head inside,
    found.heads = head :: inside ∧ head.decorators = above ∧ head.place = place ∧ Spells inside behind
  have grows (taken more : Tokens) (found : Stmt) : opens more found → opens (taken ++ more) found :=
    fun ⟨head, inside, same, isAbove, isPlace, spells⟩ =>
      ⟨head, inside, same, isAbove, isPlace, spells.behind taken⟩
  refine Takes.weaken (show Takes _ opens from ?_) fun behind found isOpened starts => ?_
  · refine .after grows fun title => .after grows fun _ => .join grows fun arguments =>
      .after grows fun _ => ?_
    refine Takes.bind keepsBlock fun body taken isBody => .pure ?_
    obtain ⟨inside, same, spells⟩ := isBody
    refine ⟨⟨place, title, arguments, above⟩, inside, ?_, rfl, rfl, spells.before []⟩
    rw [Stmt.heads_classDef, same, List.nil_append]
  · obtain ⟨head, inside, same, isAbove, rfl, spells⟩ := isOpened
    have isFirst : first = head.place := starts (.keyword "class", first) rfl
    exact ⟨head, inside, behind, same, isAbove, by rw [isFirst]; rfl, spells⟩

theorem keeps_definition (leads : Expression.InnerLeads parts.inner) :
    Keeps [] Stmt.heads (definition parts) := by
  unfold definition
  refine (takes_decorators leads).bind fun above taken areAbove => .behindLook fun next => ?_
  have keepsFunction (isAsync : Bool) := keeps_function keepsBlock isAsync above
  split
  · refine (takes_classStatement keepsBlock above).weaken fun more found isOpened => ?_
    obtain ⟨head, inside, behind, same, rfl, rfl, spells⟩ := isOpened
    refine ⟨head :: inside, same, ?_⟩
    have isOpening : IsOpening (taken ++ [(.keyword "class", head.place)]) head :=
      ⟨taken, rfl, areAbove⟩
    show Spells _ ([] ++ (taken ++ ([(.keyword "class", head.place)] ++ behind)))
    rw [← List.append_assoc taken]
    exact .cons isOpening spells
  · exact (Keeps.after fun _ => keepsFunction true).weaken (Keeps.grows taken)
  · exact (keepsFunction false).weaken (Keeps.grows taken)

/-! ### Blocks -/

theorem keeps_statement (leads : Expression.InnerLeads parts.inner) :
    Keeps [] statementsHeads (statement parts) := by
  have keepsDefinition := keeps_definition keepsBlock leads
  unfold statement
  refine .after fun _ => .after fun _ => ?_
  split
  · exact .single (keeps_conditional keepsBlock)
  · exact .single (keeps_loop keepsBlock)
  · exact .single (keeps_iteration keepsBlock _)
  · exact .single (keeps_resources keepsBlock _)
  · exact .single (keeps_attempted keepsBlock)
  · exact .single keepsDefinition
  · exact .single keepsDefinition
  · exact .single keepsDefinition
  · exact .single keepsDefinition
  · exact .after fun _ => .single (keeps_iteration keepsBlock _)
  · exact .after fun _ => .single (keeps_resources keepsBlock _)
  · refine .after fun found => ?_
    cases found with
    | some subject => exact .single (keeps_selection keepsBlock subject)
    | none => exact keeps_line _
  · exact keeps_line _

theorem keeps_block (leads : Expression.InnerLeads parts.inner) :
    Keeps [] statementsHeads (block parts) := by
  unfold block
  refine .after fun _ => ?_
  split
  · refine .after fun _ => .bind (keeps_statement keepsBlock leads) fun first => ?_
    refine .bind (.many (keeps_statement keepsBlock leads)) fun others => .after fun _ => .pure ?_
    rw [statementsHeads_append, statementsHeads_flatten, List.nil_append]
  · exact keeps_line _

theorem keeps_file (leads : Expression.InnerLeads parts.inner) :
    Keeps [] statementsHeads (file parts) := by
  unfold file
  refine .bind (.many (keeps_statement keepsBlock leads)) fun found => .pure ?_
  rw [statementsHeads_flatten, List.nil_append]

end Compound

theorem inner_partsAt (inner : Inner) (pattern : Parser Pattern) (depth : Nat) :
    (partsAt inner pattern depth).inner = inner := by
  cases depth <;> rfl

theorem keepsBlock_partsAt {inner : Inner} (leads : Expression.InnerLeads inner)
    (pattern : Parser Pattern) (depth : Nat) : KeepsBlock (partsAt inner pattern depth) := by
  induction depth with
  | zero => exact .fail
  | succ depth inductionHypothesis =>
      exact keeps_block inductionHypothesis (by rwa [inner_partsAt])

theorem keeps_file_partsAt {inner : Inner} (leads : Expression.InnerLeads inner)
    (pattern : Parser Pattern) (depth : Nat) :
    Keeps [] statementsHeads (file (partsAt inner pattern depth)) :=
  keeps_file (keepsBlock_partsAt leads pattern depth) (by rwa [inner_partsAt])

end Statement

/-- The tokens of a file spell its class statements. -/
theorem statements?_spells {nameOf : Text → Option Nat} {tokens : List Token}
    {statements : List Stmt} (parsed : statements? nameOf tokens = some statements) :
    Spells (statementsHeads statements) tokens.zipIdx := by
  unfold statements? at parsed
  obtain ⟨⟨found, rest⟩, isRead, rfl⟩ := Option.map_eq_some_iff.mp parsed
  have leads := Expression.InnerLeads.grammar nameOf
  obtain ⟨taken, split, heads, same, spells⟩ :=
    (Statement.keeps_file_partsAt (leads _) _ _).isGood isRead
  rw [split, same]
  exact spells.before rest

/-! ## Places -/

theorem Spells.exists_opening {heads : List ClassHead} {tokens : Tokens} (spells : Spells heads tokens)
    {head : ClassHead} (member : head ∈ heads) :
    ∃ front opening behind, tokens = front ++ (opening ++ behind) ∧ IsOpening opening head := by
  induction spells with
  | nil => exact absurd member List.not_mem_nil
  | @cons first heads front opening behind isOpening _ inductionHypothesis =>
      rcases List.mem_cons.mp member with rfl | later
      · exact ⟨front, opening, behind, rfl, isOpening⟩
      · obtain ⟨others, openingLater, behindLater, split, isOpeningLater⟩ := inductionHypothesis later
        refine ⟨front ++ (opening ++ others), openingLater, behindLater, ?_, isOpeningLater⟩
        rw [split]
        simp

theorem Spells.places_sublist {heads : List ClassHead} {tokens : Tokens} (spells : Spells heads tokens) :
    (heads.map ClassHead.place).Sublist (tokens.map Prod.snd) := by
  induction spells with
  | nil => exact List.nil_sublist _
  | @cons head heads front opening behind isOpening _ inductionHypothesis =>
      obtain ⟨above, rfl, -⟩ := isOpening
      rw [List.map_append, List.map_append, List.map_append, List.append_assoc]
      refine List.Sublist.trans ?_ (List.sublist_append_right _ _)
      refine List.Sublist.trans ?_ (List.sublist_append_right _ _)
      exact inductionHypothesis.cons_cons head.place

/-- No two class statements of a file stand at one place. -/
theorem nodup_places {nameOf : Text → Option Nat} {tokens : List Token} {statements : List Stmt}
    (parsed : statements? nameOf tokens = some statements) :
    ((statementsHeads statements).map ClassHead.place).Nodup := by
  refine (statements?_spells parsed).places_sublist.nodup ?_
  rw [List.zipIdx_map_snd]
  exact List.nodup_range'

end SchemaDoc.Source
