import SchemaDoc.Proofs.Source.Parser
import SchemaDoc.Source.Expression

/-!
Contract: where expressions start.

The place of an expression is that of the first token of its node. In front of it the expression takes
nothing but opening brackets, which belong to no node (`IsLocated`). There is one lemma for each rule
that an expression can start with; they hold level by level (`InnerLeads.grammar`).
-/

namespace SchemaDoc.Source.Expression

open SchemaDoc.Source.Parser

/-- The node of the expression starts in these tokens, behind nothing but opening brackets. -/
def IsLocated (taken : Tokens) (found : Located) : Prop :=
  ∃ opened token behind, taken = opened ++ (token, found.place) :: behind ∧
    ∀ entry ∈ opened, entry.1 = .symbol "("

/-- The expressions of the parser start in the tokens that it takes. -/
def Leads (parser : Parser Located) : Prop :=
  Takes parser IsLocated

/-- The expression is a node of the place, or starts in these tokens. -/
def StandsAt (place : Nat) (taken : Tokens) (found : Located) : Prop :=
  found.place = place ∨ IsLocated taken found

/-- What a rule reads that starts at a place: some tokens, and an expression that starts with them. -/
def OpensAt (place : Nat) (taken : Tokens) (found : Located) : Prop :=
  taken ≠ [] ∧ StandsAt place taken found

variable {place : Nat} {taken more : Tokens} {found : Located} {α : Type}

theorem IsLocated.ne_nil (located : IsLocated taken found) : taken ≠ [] := by
  obtain ⟨opened, token, behind, rfl, -⟩ := located
  simp

theorem IsLocated.append (located : IsLocated taken found) (more : Tokens) :
    IsLocated (taken ++ more) found := by
  obtain ⟨opened, token, behind, rfl, brackets⟩ := located
  exact ⟨opened, token, behind ++ more, by simp, brackets⟩

theorem IsLocated.bracketed (located : IsLocated taken found) (place : Nat) :
    IsLocated ((.symbol "(", place) :: taken) found := by
  obtain ⟨opened, token, behind, rfl, brackets⟩ := located
  refine ⟨(.symbol "(", place) :: opened, token, behind, by simp, ?_⟩
  exact List.forall_mem_cons.mpr ⟨rfl, brackets⟩

theorem OpensAt.isLocated (opens : OpensAt place taken found) (starts : Takes.StartsAt place taken) :
    IsLocated taken found := by
  obtain ⟨nonempty, rfl | located⟩ := opens
  · obtain ⟨⟨token, first⟩, behind, rfl⟩ := List.exists_cons_of_ne_nil nonempty
    have same : first = found.place := starts (token, first) rfl
    exact ⟨[], token, behind, by rw [same]; rfl, by simp⟩
  · exact located

/-! ## Rules -/

theorem Leads.here {next : Nat → Parser Located} (later : ∀ place, Takes (next place) (OpensAt place)) :
    Leads (here >>= next) :=
  Takes.here fun place => (later place).weaken fun _ _ opens starts => opens.isLocated starts

theorem Leads.opensAt {parser : Parser Located} (leads : Leads parser) : Takes parser (OpensAt place) :=
  leads.weaken fun _ _ located => ⟨located.ne_nil, .inr located⟩

/-- A node around an operand, or the operand itself. -/
theorem Leads.operand {parser : Parser Located} {next : Located → Parser Located}
    (leads : Leads parser)
    (later : ∀ first, Takes (next first) fun _ found => found = first ∨ found.place = place) :
    Takes (parser >>= next) (OpensAt place) := by
  refine leads.bind fun first taken located => (later first).weaken fun more found same => ?_
  refine ⟨List.append_ne_nil_of_left_ne_nil located.ne_nil _, ?_⟩
  rcases same with rfl | isNode
  · exact .inr (located.append more)
  · exact .inl isNode

/-- A node of the place, whose first tokens are known. -/
theorem opensAt_behind {parser : Parser Located} (nonempty : taken ≠ [])
    (isNode : Takes parser fun _ found => found.place = place) :
    Takes parser fun more found => OpensAt place (taken ++ more) found :=
  isNode.weaken fun _ _ same => ⟨List.append_ne_nil_of_left_ne_nil nonempty _, .inl same⟩

/-- A node of the place that a token opens, or what another rule reads. -/
theorem opensAt_accept {token : Token} (notEnd : token ≠ .finish) {next : Bool → Parser Located}
    (accepted : Takes (next true) fun _ found => found.place = place)
    (other : Takes (next false) (OpensAt place)) : Takes (accept token >>= next) (OpensAt place) := by
  refine (Takes.accept notEnd).bind fun isNext taken isTaken => ?_
  cases isNext with
  | true =>
      obtain ⟨first, rfl⟩ := isTaken
      exact opensAt_behind (by simp) accepted
  | false =>
      obtain rfl : taken = [] := isTaken
      exact other

theorem takes_atNamed : Takes atNamed fun taken _ => taken = [] := by
  unfold atNamed
  refine .behindLook fun first => .behindLook fun second => ?_
  split <;> exact .pure rfl

theorem leads_starredOr {value plain : Parser Located} (leads : Leads plain) :
    Leads (starredOr value plain) := by
  unfold starredOr
  refine .here fun place => opensAt_accept (by decide) ?_ leads.opensAt
  exact Takes.any.bind fun _ _ _ => .pure rfl

/-- The rules one level deeper read expressions that start in what they take. -/
structure InnerLeads (inner : Inner) : Prop where
  expression : Leads inner.expression
  disjunction : Leads inner.disjunction
  bitwiseOr : Leads inner.bitwiseOr
  factor : Leads inner.factor
  primary : Leads inner.primary

section Rules

variable {inner : Inner} (leads : InnerLeads inner)

include leads

theorem leads_namedExpression : Leads (namedExpression inner) := by
  unfold namedExpression
  refine takes_atNamed.bind fun isNamed taken isNone => ?_
  subst isNone
  split
  · refine Leads.here fun place => Takes.name.bind fun target taken isName => ?_
    obtain ⟨plain, first, rfl⟩ := isName
    refine opensAt_behind (by simp) ?_
    exact Takes.any.bind fun _ _ _ => Takes.any.bind fun _ _ _ => .pure rfl
  · exact leads.expression

theorem leads_displayItem : Leads (displayItem inner) :=
  leads_starredOr (leads_namedExpression leads)

omit leads in
theorem leads_yieldExpression : Leads (yieldExpression inner) := by
  unfold yieldExpression
  refine .here fun place => (Takes.expect (by decide)).bind fun _ taken isWord => ?_
  obtain ⟨first, rfl⟩ := isWord
  refine opensAt_behind (by simp) (Takes.any.bind fun isFrom _ _ => ?_)
  split
  · exact Takes.any.bind fun _ _ _ => .pure rfl
  · exact Takes.any.bind fun _ _ _ => .pure rfl

/-- What stands behind an opening bracket starts there, or is a node of the bracket's place. -/
theorem leads_parenthesised : Leads (parenthesised inner) := by
  unfold parenthesised
  refine .here fun place => (Takes.expect (by decide)).bind fun _ taken isBracket => ?_
  obtain ⟨first, rfl⟩ := isBracket
  have inside {parser : Parser Located} (stands : Takes parser (StandsAt place)) :
      Takes parser fun more found => OpensAt place ([(.symbol "(", first)] ++ more) found :=
    stands.weaken fun more found standsAt =>
      ⟨by simp, standsAt.imp_right fun located => located.bracketed first⟩
  apply inside
  refine (Takes.accept (by decide)).bind fun isClosed taken isTaken => ?_
  cases isClosed with
  | true => exact .pure (.inl rfl)
  | false =>
      obtain rfl : taken = [] := isTaken
      refine .behindLook fun next => ?_
      dsimp only
      split
      · refine leads_yieldExpression.bind fun value taken located => ?_
        exact Takes.any.bind fun _ _ _ => .pure (.inr (located.append _))
      · refine (leads_displayItem leads).bind fun first taken located => ?_
        have eitherOne {more : Tokens} {found : Located} (same : found = first ∨ found.place = place) :
            StandsAt place ([] ++ (taken ++ more)) found :=
          same.symm.imp_right fun same => by subst same; exact located.append more
        suffices ofFirst : Takes _ fun _ found => found = first ∨ found.place = place from
          ofFirst.weaken fun _ _ => eitherOne
        refine Takes.any.bind fun isClause _ _ => ?_
        split
        · split
          · exact .fail
          · exact Takes.any.bind fun _ _ _ => Takes.any.bind fun _ _ _ => .pure (.inr rfl)
        · refine Takes.any.bind fun others _ _ => Takes.any.bind fun _ _ _ => ?_
          split
          · split
            · exact .fail
            · exact .pure (.inl rfl)
          · exact .pure (.inr rfl)

/-! ### Primaries -/

omit leads in
theorem takes_strings {token : StringToken} {tokens rest : Tokens} {first : Nat} {value : Expr}
    (isRead : (strings inner).run ((.string token, first) :: tokens) = some (value, rest)) :
    ∃ taken, (.string token, first) :: tokens = taken ++ rest ∧ taken ≠ [] := by
  obtain ⟨literals, left, areRead, isValue⟩ := run_bind_eq_some.mp isRead
  have nonempty : literals ≠ [] := ne_nil_of_run_many rfl areRead
  obtain ⟨taken, split, pieces, rfl, areTaken⟩ : ∃ taken, (.string token, first) :: tokens =
      taken ++ left ∧ ∃ pieces, taken = pieces.flatten ∧
        List.Forall₂ (fun piece (_ : StringToken) => piece ≠ []) pieces literals := by
    refine (Takes.many ?_ ⟨@fun tokens rest value isRead => ?_⟩).isGood areRead
    · exact .behindLook fun next => by split <;> exact .pure rfl
    · cases tokens with
      | nil => cases isRead
      | cons entry tail =>
          obtain ⟨next, place⟩ := entry
          cases next with
          | string written =>
              obtain ⟨rfl, rfl⟩ := Prod.mk.inj (Option.some.inj isRead)
              exact ⟨[(.string written, place)], rfl, by simp⟩
          | _ => cases isRead
  obtain ⟨more, rfl, -⟩ := Takes.any.isGood isValue
  refine ⟨pieces.flatten ++ more, by rw [split, List.append_assoc], ?_⟩
  cases areTaken with
  | nil => exact absurd rfl nonempty
  | cons isTaken _ => simp [isTaken]

theorem leads_atom : Leads (atom inner) := by
  unfold atom
  refine Leads.here fun place => ⟨@fun tokens rest found isRead => ?_⟩
  obtain ⟨token, left, isNext, isRead⟩ := run_bind_eq_some.mp isRead
  obtain ⟨rfl, rfl⟩ := Prod.mk.inj (Option.some.inj isNext)
  cases tokens with
  | nil => cases isRead
  | cons entry tail =>
      obtain ⟨token, first⟩ := entry
      have single {expr : Expr} (isRead : some ((⟨place, expr⟩ : Located), tail) = some (found, rest)) :
          ∃ taken, (token, first) :: tail = taken ++ rest ∧ OpensAt place taken found := by
        obtain ⟨rfl, rfl⟩ := Prod.mk.inj (Option.some.inj isRead)
        exact ⟨[(token, first)], rfl, by simp, .inl rfl⟩
      have bracketed {text : String} {next : Unit → Parser Expr} (isRead : (do
          return (⟨place, ← symbol text >>= next⟩ : Located)).run ((token, first) :: tail) =
            some (found, rest)) :
          ∃ taken, (token, first) :: tail = taken ++ rest ∧ OpensAt place taken found := by
        obtain ⟨value, left, isValue, isGiven⟩ := run_bind_eq_some.mp isRead
        obtain ⟨rfl, rfl⟩ := Prod.mk.inj (Option.some.inj isGiven)
        have opens : Takes (symbol text >>= next) fun taken _ => taken ≠ [] := by
          refine (Takes.expect (by simp)).bind fun _ taken isBracket => ?_
          obtain ⟨place, rfl⟩ := isBracket
          exact Takes.any.weaken fun _ _ _ => by simp
        obtain ⟨taken, split, nonempty⟩ := opens.isGood isValue
        exact ⟨taken, split, nonempty, .inl rfl⟩
      dsimp only at isRead
      split at isRead
      · exact single isRead
      · exact single isRead
      · obtain ⟨value, left, isValue, isGiven⟩ := run_bind_eq_some.mp isRead
        obtain ⟨rfl, rfl⟩ := Prod.mk.inj (Option.some.inj isGiven)
        obtain ⟨taken, split, nonempty⟩ := takes_strings isValue
        exact ⟨taken, split, nonempty, .inl rfl⟩
      · split at isRead
        · exact single isRead
        · cases isRead
      · exact single isRead
      · exact (leads_parenthesised leads).opensAt.isGood isRead
      · exact bracketed isRead
      · exact bracketed isRead
      · cases isRead

theorem leads_primary : Leads (primary inner) := by
  unfold primary
  refine Leads.here fun place => Leads.operand (leads_atom leads) fun first => ?_
  refine Takes.iterate (.inl rfl) fun _ before same => Takes.any.bind fun next _ _ => ?_
  split
  · exact Takes.any.bind fun _ _ _ => Takes.any.bind fun _ _ _ => .pure (.inr rfl)
  · exact Takes.any.bind fun _ _ _ => Takes.any.bind fun _ _ _ => .pure (.inr rfl)
  · exact Takes.any.bind fun _ _ _ => Takes.any.bind fun _ _ _ => Takes.any.bind fun _ _ _ =>
      .pure (.inr rfl)
  · exact .pure same

/-! ### Operators -/

theorem leads_power : Leads (power inner) := by
  unfold power
  have powered (place : Nat) (base : Located) : Takes
      (do
        if (← accept (.symbol "**")) then
          let exponent ← inner.factor
          return (⟨place, .binary "**" base.expr exponent.expr⟩ : Located)
        else return base) fun _ found => found = base ∨ found.place = place := by
    refine Takes.any.bind fun isPower _ _ => ?_
    split
    · exact Takes.any.bind fun _ _ _ => .pure (.inr rfl)
    · exact .pure (.inl rfl)
  refine Leads.here fun place => opensAt_accept (by decide) ?_ ?_
  · refine Takes.any.bind fun value _ _ => (powered place _).weaken fun _ _ same => ?_
    rcases same with rfl | isNode
    · rfl
    · exact isNode
  · exact Leads.operand (leads_primary leads) fun base => powered place base

omit leads in
/-- Signs in front of an operand, or the operand itself. -/
theorem leads_signed {sign : Type} {continues : Parser Bool} {item : Parser sign}
    {operand : Parser Located} {next : List sign → Located → Expr}
    (looks : Takes continues fun taken _ => taken = []) (isOperand : Leads operand) :
    Leads (do
      let place ← here
      let signs ← many continues item
      let found ← operand
      if signs.isEmpty then return found
      else return ⟨place, next signs found⟩) := by
  refine Leads.here fun place => (Takes.many looks .any).bind fun signs taken areSigns => ?_
  obtain ⟨pieces, rfl, arePieces⟩ := areSigns
  cases arePieces with
  | nil => exact Leads.operand isOperand fun found => .pure (.inl rfl)
  | cons isPiece others =>
      refine isOperand.bind fun found more located => .pure ⟨?_, .inl rfl⟩
      simp [located.ne_nil]

theorem leads_factor : Leads (factor inner) :=
  leads_signed (.behindLook fun _ => .pure rfl) (leads_power leads)

theorem leads_binary (operators : List (List String)) : Leads (binary inner operators) := by
  induction operators with
  | nil => exact leads_factor leads
  | cons row tighter inductionHypothesis =>
      unfold binary
      refine Leads.here fun place => Leads.operand inductionHypothesis fun first => ?_
      refine Takes.iterate (.inl rfl) fun _ before same => Takes.any.bind fun next _ _ => ?_
      split
      · split
        · exact Takes.any.bind fun _ _ _ => Takes.any.bind fun _ _ _ => .pure (.inr rfl)
        · exact .pure same
      · exact .pure same

theorem leads_bitwiseOr : Leads (bitwiseOr inner) :=
  leads_binary leads binaryOperators

theorem leads_comparison : Leads (comparison inner) := by
  unfold comparison
  refine Leads.here fun place => Leads.operand (leads_bitwiseOr leads) fun first => ?_
  refine Takes.any.bind fun others _ _ => ?_
  split
  · exact .pure (.inl rfl)
  · exact .pure (.inr rfl)

theorem leads_inversion : Leads (inversion inner) :=
  leads_signed (.behindLook fun _ => .pure rfl) (leads_comparison leads)

omit leads in
theorem leads_joined {word : String} {operand : Parser Located} (isOperand : Leads operand) :
    Leads (joined word operand) := by
  unfold joined
  refine Leads.here fun place => Leads.operand isOperand fun first => ?_
  refine Takes.any.bind fun others _ _ => ?_
  split
  · exact .pure (.inl rfl)
  · exact .pure (.inr rfl)

theorem leads_disjunction : Leads (disjunction inner) :=
  leads_joined (leads_joined (leads_inversion leads))

theorem leads_expression : Leads (expression inner) := by
  unfold expression
  refine Leads.here fun place => opensAt_accept (by decide) ?_ ?_
  · exact Takes.any.bind fun _ _ _ => Takes.any.bind fun _ _ _ => Takes.any.bind fun _ _ _ =>
      .pure rfl
  · refine Leads.operand (leads_disjunction leads) fun body => Takes.any.bind fun isChoice _ _ => ?_
    split
    · exact Takes.any.bind fun _ _ _ => Takes.any.bind fun _ _ _ => Takes.any.bind fun _ _ _ =>
        .pure (.inr rfl)
    · exact .pure (.inl rfl)

end Rules

theorem InnerLeads.grammar (nameOf : Text → Option Nat) (depth : Nat) :
    InnerLeads (grammar nameOf depth) := by
  induction depth with
  | zero => exact ⟨.fail, .fail, .fail, .fail, .fail⟩
  | succ depth inductionHypothesis =>
      exact ⟨leads_expression inductionHypothesis, leads_disjunction inductionHypothesis,
        leads_bitwiseOr inductionHypothesis, leads_factor inductionHypothesis,
        leads_primary inductionHypothesis⟩

end SchemaDoc.Source.Expression
