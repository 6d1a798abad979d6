import Mathlib.Data.List.Forall2
import SchemaDoc.Source.Parser

/-!
Contract: what a parser reads, and from which tokens.

A parser is said to take tokens that are good for its result when this holds of every result that it
gives, whatever tokens it is run on (`Parser.Takes`). A parser takes tokens from the front alone, so
those of a sequence are those of its parts in a row (`Parser.Takes.bind`). Of most parsers nothing has
to be known but that they take tokens (`Parser.Takes.any`).
-/

namespace SchemaDoc.Source.Parser

variable {α β σ : Type}

/-- Whatever the parser gives is good, together with the tokens that it takes. -/
structure Takes (parser : Parser α) (good : Tokens → α → Prop) : Prop where
  isGood : ∀ {tokens rest : Tokens} {value : α}, parser.run tokens = some (value, rest) →
    ∃ taken, tokens = taken ++ rest ∧ good taken value

theorem run_bind_eq_some {parser : Parser α} {next : α → Parser β} {tokens rest : Tokens}
    {value : β} :
    (parser >>= next).run tokens = some (value, rest) ↔
      ∃ first left, parser.run tokens = some (first, left) ∧
        (next first).run left = some (value, rest) := by
  show Option.bind _ _ = _ ↔ _
  rw [Option.bind_eq_some_iff, Prod.exists]

namespace Takes

variable {parser : Parser α} {good : Tokens → α → Prop}

theorem any : Takes parser fun _ _ => True :=
  ⟨fun isRead => (parser.isSuffix isRead).imp fun _ split => ⟨split.symm, trivial⟩⟩

theorem weaken {weaker : Tokens → α → Prop} (takes : Takes parser good)
    (implies : ∀ taken value, good taken value → weaker taken value) : Takes parser weaker := by
  refine ⟨fun isRead => ?_⟩
  obtain ⟨taken, split, isGood⟩ := takes.isGood isRead
  exact ⟨taken, split, implies taken _ isGood⟩

theorem fail : Takes (fail : Parser α) good :=
  ⟨fun isRead => absurd isRead (by simp [Parser.fail])⟩

theorem pure {value : α} (isGood : good [] value) : Takes (pure value) good := by
  refine ⟨fun isRead => ?_⟩
  obtain ⟨rfl, rfl⟩ := Prod.mk.inj (Option.some.inj isRead)
  exact ⟨[], rfl, isGood⟩

theorem bind {next : α → Parser β} {goal : Tokens → β → Prop} (first : Takes parser good)
    (later : ∀ value taken, good taken value →
      Takes (next value) fun more result => goal (taken ++ more) result) :
    Takes (parser >>= next) goal := by
  refine ⟨fun isRead => ?_⟩
  obtain ⟨value, left, isFirst, isLater⟩ := run_bind_eq_some.mp isRead
  obtain ⟨taken, rfl, isGood⟩ := first.isGood isFirst
  obtain ⟨more, rfl, isGoal⟩ := (later value taken isGood).isGood isLater
  exact ⟨taken ++ more, (List.append_assoc _ _ _).symm, isGoal⟩

/-- What grows with the tokens in front need not be looked for there. -/
theorem after {next : α → Parser β} {goal : Tokens → β → Prop}
    (grows : ∀ taken more result, goal more result → goal (taken ++ more) result)
    (later : ∀ value, Takes (next value) goal) : Takes (parser >>= next) goal :=
  any.bind fun value taken _ => (later value).weaken (grows taken)

/-- Two ways that go on alike. -/
theorem join {flag : Bool} {first second : Parser α} {next : α → Parser β}
    {goal : Tokens → β → Prop}
    (grows : ∀ taken more result, goal more result → goal (taken ++ more) result)
    (later : ∀ value, Takes (next value) goal) :
    Takes (if flag then first >>= next else second >>= next) goal := by
  split
  · exact after grows later
  · exact after grows later

/-! ## Single tokens -/

/-- A parser that looks at the tokens takes none. -/
theorem look {read : Tokens → α} : Takes (look read) fun taken _ => taken = [] := by
  refine ⟨fun isRead => ?_⟩
  obtain ⟨-, rfl⟩ := Prod.mk.inj (Option.some.inj isRead)
  exact ⟨[], rfl, rfl⟩

/-- What is looked at need not be known. -/
theorem behindLook {read : Tokens → α} {next : α → Parser β} {goal : Tokens → β → Prop}
    (later : ∀ value, Takes (next value) goal) : Takes (Parser.look read >>= next) goal :=
  look.bind fun value _ isNone => isNone ▸ later value

/-- The tokens do not start at another place. -/
def StartsAt (place : Nat) (taken : Tokens) : Prop :=
  ∀ entry ∈ taken.head?, entry.2 = place

theorem here {next : Nat → Parser β} {goal : Tokens → β → Prop}
    (later : ∀ place, Takes (next place) fun taken result => StartsAt place taken → goal taken result) :
    Takes (here >>= next) goal := by
  refine ⟨@fun tokens rest value isRead => ?_⟩
  obtain ⟨place, left, isHere, isLater⟩ := run_bind_eq_some.mp isRead
  obtain ⟨rfl, rfl⟩ := Prod.mk.inj (Option.some.inj isHere)
  obtain ⟨taken, split, isGoal⟩ := (later _).isGood isLater
  refine ⟨taken, split, isGoal ?_⟩
  subst split
  intro entry isFirst
  obtain ⟨others, rfl⟩ := List.head?_eq_some_iff.mp isFirst
  rfl

/-- A token that is there is the only one taken. -/
theorem expect {token : Token} (notEnd : token ≠ .finish) :
    Takes (expect token) fun taken _ => ∃ place, taken = [(token, place)] := by
  refine ⟨@fun tokens rest _ isRead => ?_⟩
  cases tokens with
  | nil =>
      change (if Token.finish = token then skip else Parser.fail).run _ = _ at isRead
      rw [if_neg notEnd.symm] at isRead
      exact absurd isRead (by simp [Parser.fail])
  | cons entry tail =>
      obtain ⟨found, place⟩ := entry
      change (if found = token then skip else Parser.fail).run _ = _ at isRead
      split at isRead
      · next same =>
          obtain ⟨-, rfl⟩ := Prod.mk.inj (Option.some.inj isRead)
          exact ⟨[(found, place)], rfl, place, by rw [same]⟩
      · exact absurd isRead (by simp [Parser.fail])

theorem accept {token : Token} (notEnd : token ≠ .finish) :
    Takes (accept token) fun taken found =>
      if found then ∃ place, taken = [(token, place)] else taken = [] := by
  refine ⟨@fun tokens rest found isRead => ?_⟩
  cases tokens with
  | nil =>
      change (if Token.finish = token then skip >>= fun _ => Pure.pure true
        else Pure.pure false).run _ = _ at isRead
      rw [if_neg notEnd.symm] at isRead
      obtain ⟨rfl, rfl⟩ := Prod.mk.inj (Option.some.inj isRead)
      exact ⟨[], rfl, rfl⟩
  | cons entry tail =>
      obtain ⟨next, place⟩ := entry
      change (if next = token then skip >>= fun _ => Pure.pure true else Pure.pure false).run _ = _
        at isRead
      split at isRead
      · next same =>
          obtain ⟨rfl, rfl⟩ := Prod.mk.inj (Option.some.inj isRead)
          exact ⟨[(next, place)], rfl, place, by rw [same]⟩
      · obtain ⟨rfl, rfl⟩ := Prod.mk.inj (Option.some.inj isRead)
        exact ⟨[], rfl, rfl⟩

theorem name : Takes name fun taken text => ∃ plain place, taken = [(.name text plain, place)] := by
  refine ⟨@fun tokens rest text isRead => ?_⟩
  cases tokens with
  | nil => exact absurd isRead (by intro isRead; cases isRead)
  | cons entry tail =>
      obtain ⟨found, place⟩ := entry
      cases found with
      | name written plain =>
          obtain ⟨rfl, rfl⟩ := Prod.mk.inj (Option.some.inj isRead)
          exact ⟨[(.name written plain, place)], rfl, plain, place, rfl⟩
      | _ => cases isRead

/-! ## Repetition -/

theorem iterateWith {step : σ → Parser (Option σ)} {keeps : Tokens → σ → Prop}
    (steps : ∀ taken before, keeps taken before → Takes (step before) fun more next =>
      keeps (taken ++ more) (next.getD before))
    (fuel : Nat) (taken : Tokens) {before : σ} (keepsBefore : keeps taken before) :
    Takes (iterateWith step fuel before) fun more final => keeps (taken ++ more) final := by
  induction fuel generalizing taken before with
  | zero => exact fail
  | succ fuel inductionHypothesis =>
      refine (steps taken before keepsBefore).bind fun next more keepsNext => ?_
      cases next with
      | none => exact pure (by simpa using keepsNext)
      | some after =>
          simp only [← List.append_assoc]
          exact inductionHypothesis (taken ++ more) keepsNext

theorem iterate {step : σ → Parser (Option σ)} {keeps : Tokens → σ → Prop} {state : σ}
    (starts : keeps [] state)
    (steps : ∀ taken before, keeps taken before → Takes (step before) fun more next =>
      keeps (taken ++ more) (next.getD before)) :
    Takes (iterate step state) keeps :=
  ⟨@fun tokens _ _ isRead => (iterateWith steps (tokens.length + 1) [] starts).isGood isRead⟩

/-- Items in a row, each with the tokens that it takes; the test in front of each takes none. -/
theorem many {continues : Parser Bool} {item : Parser α}
    (looks : Takes continues fun taken _ => taken = [])
    (items : Takes (do if (← continues) then item else Parser.fail) good) :
    Takes (many continues item) fun taken found =>
      ∃ pieces, taken = pieces.flatten ∧ List.Forall₂ good pieces found := by
  unfold Parser.many
  let keeps (taken : Tokens) (found : List α) : Prop :=
    ∃ pieces, taken = pieces.flatten ∧ List.Forall₂ good pieces found.reverse
  refine bind (show Takes _ keeps from iterate ⟨[], rfl, .nil⟩ ?_) fun found taken isKept => ?_
  · rintro taken found ⟨pieces, rfl, areGood⟩
    refine ⟨@fun tokens rest next isRead => ?_⟩
    obtain ⟨goesOn, left, isTest, isLater⟩ := run_bind_eq_some.mp isRead
    cases goesOn with
    | false =>
        obtain ⟨rfl, rfl⟩ := Prod.mk.inj (Option.some.inj isLater)
        obtain ⟨more, split, rfl⟩ := looks.isGood isTest
        exact ⟨[], split, pieces, by simp, areGood⟩
    | true =>
        obtain ⟨value, behind, isItem, isGiven⟩ := run_bind_eq_some.mp isLater
        obtain ⟨rfl, rfl⟩ := Prod.mk.inj (Option.some.inj isGiven)
        have isRead : (do if (← continues) then item else Parser.fail).run tokens =
            some (value, behind) := run_bind_eq_some.mpr ⟨true, left, isTest, isItem⟩
        obtain ⟨more, split, isGood⟩ := items.isGood isRead
        refine ⟨more, split, pieces ++ [more], by simp, ?_⟩
        rw [Option.getD_some, List.reverse_cons]
        exact List.rel_append areGood (.cons isGood .nil)
  · exact pure (by simpa using isKept)

end Takes

/-- Where the test on the next token holds, an item is read. -/
theorem ne_nil_of_run_many {continues : Parser Bool} {item : Parser α} {tokens left rest : Tokens}
    {found : List α} (isTest : continues.run tokens = some (true, left))
    (isRead : (many continues item).run tokens = some (found, rest)) : found ≠ [] := by
  let step (done : List α) : Parser (Option (List α)) := do
    if (← continues) then return some ((← item) :: done) else return none
  have grows (taken : Tokens) (done : List α) (nonempty : done ≠ []) :
      Takes (step done) fun _ next => next.getD done ≠ [] :=
    Takes.any.bind fun goesOn _ _ => by
      cases goesOn with
      | false => exact .pure nonempty
      | true => exact Takes.any.bind fun value _ _ => .pure (List.cons_ne_nil value done)
  obtain ⟨reversed, behind, isIterated, isGiven⟩ := run_bind_eq_some.mp isRead
  obtain ⟨rfl, rfl⟩ := Prod.mk.inj (Option.some.inj isGiven)
  change (iterateWith step (tokens.length + 1) []).run tokens = _ at isIterated
  rw [Parser.iterateWith] at isIterated
  obtain ⟨next, after, isStep, isLater⟩ := run_bind_eq_some.mp isIterated
  obtain ⟨goesOn, same, isTested, isItem⟩ := run_bind_eq_some.mp isStep
  obtain ⟨rfl, rfl⟩ := Prod.mk.inj (Option.some.inj (isTested.symm.trans isTest))
  obtain ⟨value, behindItem, -, isGiven⟩ := run_bind_eq_some.mp isItem
  obtain ⟨rfl, rfl⟩ := Prod.mk.inj (Option.some.inj isGiven)
  have isKept := Takes.iterateWith grows tokens.length [] (List.cons_ne_nil value [])
  obtain ⟨-, -, nonempty⟩ := isKept.isGood isLater
  exact fun isNil => nonempty (List.reverse_eq_nil_iff.mp isNil)

end SchemaDoc.Source.Parser
