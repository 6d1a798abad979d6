import Mathlib.Data.List.Find
import SchemaDoc.Source.Lexer

/-!
Contract: what the reading of one lexeme takes from the text, and how far it looks.

Owns:
- each lexeme takes characters from the start of the text and leaves the rest as it is;
- a lexeme that leaves a line end behind it does not depend on what follows that line end;
- what a lexeme can be (`LexemeForm`), and how each form of it stands in the text.

Main statement: `Lexer.lexeme_local`.
-/

namespace SchemaDoc.Source

/-- What a reader takes stands at the start of the text, and does not depend on what follows a
line end that it leaves. -/
def IsLocal {α : Type} (reader : Text → Option (α × Text)) : Prop :=
  ∀ {text found after}, reader text = some (found, after) →
    (∃ taken, taken ≠ [] ∧ text = taken ++ after) ∧
      ('\n' ∈ after → ∀ other, reader (text ++ other) = some (found, after ++ other))

/-! ## Starts of texts -/

/-- Whether a text without line ends opens another one is decided before its first line end. -/
theorem isPrefixOf_append {start text : Text} (noFeed : '\n' ∉ start) (feed : '\n' ∈ text)
    (other : Text) : start.isPrefixOf (text ++ other) = start.isPrefixOf text := by
  induction start generalizing text with
  | nil => rfl
  | cons c start inductionHypothesis =>
      cases text with
      | nil => exact absurd feed (by simp)
      | cons d text =>
          rw [List.cons_append, List.isPrefixOf_cons_cons, List.isPrefixOf_cons_cons]
          by_cases same : c = d
          · subst same
            have later : '\n' ∈ text := by
              rcases List.mem_cons.mp feed with isHead | inRest
              · exact absurd (isHead ▸ List.mem_cons_self) noFeed
              · exact inRest
            rw [inductionHypothesis (fun member => noFeed (List.mem_cons_of_mem c member)) later]
          · rw [beq_eq_false_iff_ne.mpr same, Bool.false_and, Bool.false_and]

/-- The characters of a kind at the start of a text end before its first line end. -/
theorem takeWhile_append {isPart : Char → Bool} (ends : isPart '\n' = false) {text : Text}
    (feed : '\n' ∈ text) (other : Text) :
    (text ++ other).takeWhile isPart = text.takeWhile isPart := by
  induction text with
  | nil => exact absurd feed (by simp)
  | cons c text inductionHypothesis =>
      by_cases part : isPart c = true
      · have later : '\n' ∈ text := by
          rcases List.mem_cons.mp feed with isHead | inRest
          · rw [← isHead, ends] at part
            exact absurd part (by decide)
          · exact inRest
        rw [List.cons_append, List.takeWhile_cons_of_pos part, List.takeWhile_cons_of_pos part,
          inductionHypothesis later]
      · rw [List.cons_append, List.takeWhile_cons_of_neg part, List.takeWhile_cons_of_neg part]

theorem drop_length_takeWhile (isPart : Char → Bool) (text other : Text) :
    (text ++ other).drop (text.takeWhile isPart).length =
      text.drop (text.takeWhile isPart).length ++ other :=
  List.drop_append_of_le_length (List.takeWhile_prefix isPart).length_le

/-- What stands behind the characters of a kind at the start of a text. -/
theorem takeWhile_append_drop (isPart : Char → Bool) (text : Text) :
    text.takeWhile isPart ++ text.drop (text.takeWhile isPart).length = text :=
  List.prefix_iff_eq_append.mp (List.takeWhile_prefix isPart)

/-- The first line end of a text stands behind the characters of a kind at its start. -/
theorem mem_drop_takeWhile {isPart : Char → Bool} (ends : isPart '\n' = false) {text : Text}
    (feed : '\n' ∈ text) : '\n' ∈ text.drop (text.takeWhile isPart).length := by
  rw [← takeWhile_append_drop isPart text] at feed
  rcases List.mem_append.mp feed with inStart | inRest
  · have part := List.all_eq_true.mp List.all_takeWhile _ inStart
    rw [ends] at part
    exact absurd part (by decide)
  · exact inRest

/-! ## Numbers -/

namespace Number

theorem opensWord_append {word : String} (noFeed : '\n' ∉ word.toList) {text : Text}
    (feed : '\n' ∈ text) (other : Text) : opensWord word (text ++ other) = opensWord word text := by
  unfold opensWord Text.after?
  rw [isPrefixOf_append noFeed feed]
  by_cases opens : word.toList.isPrefixOf text = true
  · obtain ⟨rest, rfl⟩ := List.isPrefixOf_iff_prefix.mp opens
    have later : '\n' ∈ rest := (List.mem_append.mp feed).resolve_left noFeed
    obtain ⟨c, rest, rfl⟩ := List.exists_cons_of_ne_nil (List.ne_nil_of_mem later)
    rw [if_pos opens, if_pos opens, List.append_assoc, List.drop_left, List.drop_left]
    rfl
  · rw [if_neg opens, if_neg opens]

theorem endsLiteral_append {text : Text} (feed : '\n' ∈ text) (other : Text) :
    endsLiteral (text ++ other) = endsLiteral text := by
  obtain ⟨c, rest, rfl⟩ := List.exists_cons_of_ne_nil (List.ne_nil_of_mem feed)
  have words := fun word noFeed => @opensWord_append word noFeed _ feed other
  cases rest with
  | nil =>
      have isFeed : c = '\n' := (List.mem_singleton.mp feed).symm
      subst isFeed
      rfl
  | cons d rest =>
      rw [List.cons_append] at words
      by_cases isI : c = 'i'
      · subst isI
        rfl
      · rw [List.cons_append, endsLiteral, endsLiteral, words "and" (by decide),
          words "else" (by decide), words "for" (by decide), words "or" (by decide),
          words "not" (by decide)]
        · exact fun _ _ same => absurd same isI
        · exact fun _ _ same => absurd same isI

/-- Digits are taken from the start of the text. -/
theorem digits_local {isDigit : Char → Bool} {required : Bool} {text taken after : Text}
    (found : digits isDigit required text = some (taken, after)) :
    text = taken ++ after ∧ (required = true → taken ≠ []) ∧
      (after ≠ [] → ∀ other, digits isDigit required (text ++ other) =
        some (taken, after ++ other)) := by
  induction text generalizing required taken with
  | nil =>
      cases required with
      | true => exact absurd found (by simp [digits])
      | false =>
          obtain ⟨rfl, rfl⟩ := Prod.mk.inj (Option.some.inj found)
          exact ⟨rfl, by simp, fun nonempty => absurd rfl nonempty⟩
  | cons c text inductionHypothesis =>
      -- A digit and a low line are both taken; they differ in what must come next.
      have takes : ∀ next, (∀ others, digits isDigit required (c :: others) =
          (digits isDigit next others).map fun found => (c :: found.1, found.2)) →
          c :: text = taken ++ after ∧ (required = true → taken ≠ []) ∧
            (after ≠ [] → ∀ other, digits isDigit required (c :: text ++ other) =
              some (taken, after ++ other)) := by
        intro next goesOn
        rw [goesOn] at found
        obtain ⟨⟨others, left⟩, later, same⟩ := Option.map_eq_some_iff.mp found
        obtain ⟨rfl, rfl⟩ := Prod.mk.inj same
        obtain ⟨split, -, continues⟩ := inductionHypothesis later
        refine ⟨by rw [split]; rfl, by simp, fun nonempty other => ?_⟩
        rw [List.cons_append, goesOn, continues nonempty]
        rfl
      by_cases digit : isDigit c = true
      · exact takes false fun others => by rw [digits, if_pos digit]
      · by_cases isRequired : required = true
        · rw [digits, if_neg digit, if_pos isRequired] at found
          exact absurd found (by simp)
        · by_cases isLow : c = '_'
          · exact takes true fun others => by
              rw [digits, if_neg digit, if_neg isRequired, if_pos isLow]
          · have stops : ∀ others, digits isDigit required (c :: others) = some ([], c :: others) :=
              fun others => by rw [digits, if_neg digit, if_neg isRequired, if_neg isLow]
            rw [stops] at found
            obtain ⟨rfl, rfl⟩ := Prod.mk.inj (Option.some.inj found)
            exact ⟨rfl, fun required => absurd required isRequired,
              fun _ other => stops (text ++ other)⟩

/-- A reader that goes on behind what is taken takes more from the start of the text, and does
not depend on what follows a line end that it leaves. -/
def IsTail (reader : Text → Text → Option (Text × Text)) : Prop :=
  ∀ {taken text literal after}, reader taken text = some (literal, after) →
    (∃ more, literal = taken ++ more ∧ text = more ++ after) ∧
      ('\n' ∈ after → ∀ other, reader taken (text ++ other) = some (literal, after ++ other))

/-- A reader may go on behind a mark as well. -/
theorem IsTail.behind {reader : Text → Text → Option (Text × Text)} (isTail : IsTail reader)
    {taken mark text literal after : Text}
    (found : reader (taken ++ mark) text = some (literal, after)) :
    (∃ more, literal = taken ++ more ∧ mark ++ text = more ++ after) ∧
      ('\n' ∈ after → ∀ other,
        reader (taken ++ mark) (text ++ other) = some (literal, after ++ other)) := by
  obtain ⟨⟨more, rfl, split⟩, continues⟩ := isTail found
  refine ⟨⟨mark ++ more, List.append_assoc _ _ _, ?_⟩, continues⟩
  rw [split, List.append_assoc]

/-- Reads the digits that must come next, and goes on behind them. -/
def behindDigits (reader : Text → Text → Option (Text × Text)) (taken text : Text) :
    Option (Text × Text) := do
  let (found, after) ← digits Char.isDigit true text
  reader (taken ++ found) after

theorem IsTail.behindDigits {reader : Text → Text → Option (Text × Text)}
    (isTail : IsTail reader) : IsTail (behindDigits reader) := by
  intro taken text literal after found
  obtain ⟨⟨read, left⟩, scanned, tail⟩ := Option.bind_eq_some_iff.mp found
  obtain ⟨split, -, continues⟩ := digits_local scanned
  obtain ⟨⟨more, rfl, whole⟩, continuesTail⟩ := isTail.behind tail
  refine ⟨⟨more, rfl, split.trans whole⟩, fun feed other => ?_⟩
  have nonempty : left ≠ [] := by
    obtain ⟨⟨behind, -, leftSplit⟩, -⟩ := isTail tail
    rw [leftSplit]
    exact List.append_ne_nil_of_right_ne_nil _ (List.ne_nil_of_mem feed)
  rw [Number.behindDigits, continues nonempty other]
  exact continuesTail feed other

theorem imaginaryTail_isTail : IsTail imaginaryTail := by
  intro taken text literal after found
  cases text with
  | nil =>
      obtain ⟨rfl, rfl⟩ := Prod.mk.inj (Option.some.inj found)
      exact ⟨⟨[], by simp, rfl⟩, fun feed => absurd feed (by simp)⟩
  | cons c rest =>
      simp only [imaginaryTail] at found
      split at found
      · next isMark =>
          split at found
          · next ends =>
              obtain ⟨rfl, rfl⟩ := Prod.mk.inj (Option.some.inj found)
              refine ⟨⟨[c], rfl, rfl⟩, fun feed other => ?_⟩
              simp only [List.cons_append, imaginaryTail, if_pos isMark,
                endsLiteral_append feed, if_pos ends]
          · exact absurd found (by simp)
      · next notMark =>
          split at found
          · next ends =>
              obtain ⟨rfl, rfl⟩ := Prod.mk.inj (Option.some.inj found)
              refine ⟨⟨[], by simp, rfl⟩, fun feed other => ?_⟩
              have ends' := endsLiteral_append feed other
              rw [List.cons_append] at ends' ⊢
              simp only [imaginaryTail, if_neg notMark, ends', if_pos ends]
          · exact absurd found (by simp)

/-- What an exponent mark does is said by the character behind it. -/
theorem exponentTail_mark {mark : Char} (isMark : mark = 'e' ∨ mark = 'E') (c : Char)
    (taken rest : Text) :
    exponentTail taken (mark :: c :: rest) =
      if c = '+' ∨ c = '-' then behindDigits imaginaryTail (taken ++ [mark, c]) rest
      else if c.isDigit then behindDigits imaginaryTail (taken ++ [mark]) (c :: rest)
      else if endsLiteral (mark :: c :: rest) then some (taken, mark :: c :: rest) else none := by
  simp only [exponentTail, Bool.or_eq_true, decide_eq_true_eq, if_pos isMark]
  split
  · simp only [behindDigits, List.append_assoc, List.cons_append, List.nil_append]
  · split
    · simp only [behindDigits, List.append_assoc, List.cons_append, List.nil_append]
    · rfl

theorem exponentTail_isTail : IsTail exponentTail := by
  intro taken text literal after found
  cases text with
  | nil =>
      obtain ⟨rfl, rfl⟩ := Prod.mk.inj (Option.some.inj found)
      exact ⟨⟨[], by simp, rfl⟩, fun feed => absurd feed (by simp)⟩
  | cons mark rest =>
      by_cases isMark : mark = 'e' ∨ mark = 'E'
      · cases rest with
        | nil => exact absurd found (by simp [exponentTail, isMark])
        | cons c rest =>
            simp only [List.cons_append, exponentTail_mark isMark] at found ⊢
            split at found
            · next isSign =>
                simp only [if_pos isSign]
                exact IsTail.behind imaginaryTail_isTail.behindDigits found
            · next notSign =>
                simp only [if_neg notSign]
                split at found
                · next digit =>
                    simp only [if_pos digit]
                    exact IsTail.behind imaginaryTail_isTail.behindDigits found
                · next notDigit =>
                    split at found
                    · next ends =>
                        obtain ⟨rfl, rfl⟩ := Prod.mk.inj (Option.some.inj found)
                        refine ⟨⟨[], by simp, rfl⟩, fun feed other => ?_⟩
                        have endsOn := endsLiteral_append feed other
                        rw [List.cons_append, List.cons_append] at endsOn
                        rw [if_neg notDigit, endsOn, if_pos ends]
                        rfl
                    · exact absurd found (by simp)
      · simp only [exponentTail, Bool.or_eq_true, decide_eq_true_eq, if_neg isMark,
          List.cons_append] at found ⊢
        exact imaginaryTail_isTail found

theorem fractionTail_isTail : IsTail fractionTail := by
  intro taken text literal after found
  cases text with
  | nil =>
      obtain ⟨rfl, rfl⟩ := Prod.mk.inj (Option.some.inj found)
      exact ⟨⟨[], by simp, rfl⟩, fun feed => absurd feed (by simp)⟩
  | cons c rest =>
      simp only [fractionTail, List.cons_append] at found ⊢
      by_cases digit : c.isDigit = true
      · simp only [if_pos digit] at found ⊢
        exact exponentTail_isTail.behindDigits found
      · simp only [if_neg digit] at found ⊢
        exact exponentTail_isTail found

/-- A decimal integer starts with a zero, and other digits follow. -/
def isPadded (whole : Text) : Bool :=
  whole.head? == some '0' && whole.any fun c => c.isDigit && c != '0'

theorem wholeTail_of_ne {c : Char} (notPoint : c ≠ '.') (whole rest : Text) :
    wholeTail whole (c :: rest) =
      if c = 'e' || c = 'E' then exponentTail whole (c :: rest)
      else if c = 'j' || c = 'J' then imaginaryTail whole (c :: rest)
      else if isPadded whole then none
      else imaginaryTail whole (c :: rest) := by
  rw [wholeTail]
  · rfl
  · exact fun same => notPoint same

theorem wholeTail_isTail : IsTail wholeTail := by
  intro taken text literal after found
  cases text with
  | nil =>
      simp only [wholeTail] at found
      split at found
      · exact absurd found (by simp)
      · obtain ⟨rfl, rfl⟩ := Prod.mk.inj (Option.some.inj found)
        exact ⟨⟨[], by simp, rfl⟩, fun feed => absurd feed (by simp)⟩
  | cons c rest =>
      by_cases isPoint : c = '.'
      · subst isPoint
        exact fractionTail_isTail.behind found
      · simp only [List.cons_append, wholeTail_of_ne isPoint] at found ⊢
        split at found
        · next isMark =>
            simp only [if_pos isMark]
            exact exponentTail_isTail found
        · next notMark =>
            split at found
            · next isUnit =>
                simp only [if_neg notMark, if_pos isUnit]
                exact imaginaryTail_isTail found
            · next notUnit =>
                split at found
                · exact absurd found (by simp)
                · next notPadded =>
                    simp only [if_neg notMark, if_neg notUnit, if_neg notPadded]
                    exact imaginaryTail_isTail found

/-- A decimal digit stands at the start of the text. -/
def opensDigit (text : Text) : Bool :=
  match text with
  | c :: _ => c.isDigit
  | [] => false

theorem basedDigits_eq_some_iff {base : Nat} {taken text literal after : Text} :
    basedDigits base taken text = some (literal, after) ↔
      ∃ found, digits (Text.isDigitOf base) true text = some (found, after) ∧
        opensDigit after = false ∧ endsLiteral after = true ∧ literal = taken ++ found := by
  rw [basedDigits]
  constructor
  · intro scanned
    obtain ⟨⟨found, left⟩, digitsFound, checked⟩ := Option.bind_eq_some_iff.mp scanned
    change (if opensDigit left || !endsLiteral left then none
      else some (taken ++ found, left)) = some (literal, after) at checked
    split at checked
    · exact absurd checked (by simp)
    · next accepted =>
        obtain ⟨rfl, rfl⟩ := Prod.mk.inj (Option.some.inj checked)
        refine ⟨found, digitsFound, ?_⟩
        simpa using accepted
  · rintro ⟨found, digitsFound, noDigit, ends, rfl⟩
    rw [digitsFound]
    change (if opensDigit after || !endsLiteral after then none
      else some (taken ++ found, after)) = some (taken ++ found, after)
    simp [noDigit, ends]

theorem basedDigits_isTail (base : Nat) : IsTail (basedDigits base) := by
  intro taken text literal after scanned
  obtain ⟨found, digitsFound, noDigit, ends, rfl⟩ := basedDigits_eq_some_iff.mp scanned
  obtain ⟨split, -, continues⟩ := digits_local digitsFound
  refine ⟨⟨found, rfl, split⟩, fun feed other => basedDigits_eq_some_iff.mpr ?_⟩
  obtain ⟨c, rest, rfl⟩ := List.exists_cons_of_ne_nil (List.ne_nil_of_mem feed)
  exact ⟨found, continues (List.cons_ne_nil c rest) other, noDigit,
    (endsLiteral_append feed other).trans ends, rfl⟩

theorem based_of_ne {c : Char} (notLow : c ≠ '_') (base : Nat) (mark rest : Text) :
    based base mark (c :: rest) = basedDigits base mark (c :: rest) := by
  rw [based]
  exact fun _ same => notLow (List.cons.inj same).1

theorem based_isTail (base : Nat) : IsTail (based base) := by
  intro taken text literal after found
  cases text with
  | nil => exact absurd found (by simp [based, basedDigits, digits])
  | cons c rest =>
      by_cases isLow : c = '_'
      · subst isLow
        exact IsTail.behind (basedDigits_isTail base) found
      · simp only [List.cons_append, based_of_ne isLow] at found ⊢
        exact basedDigits_isTail base found

theorem decimal_local : IsLocal decimal := by
  intro text literal after found
  obtain ⟨⟨more, isMore, split⟩, continues⟩ :=
    wholeTail_isTail.behindDigits (show behindDigits wholeTail [] text = _ from found)
  obtain ⟨⟨whole, left⟩, scanned, tail⟩ := Option.bind_eq_some_iff.mp found
  obtain ⟨-, nonempty, -⟩ := digits_local scanned
  obtain ⟨⟨others, isLonger, -⟩, -⟩ := wholeTail_isTail tail
  refine ⟨⟨more, ?_, split⟩, continues⟩
  rw [← List.nil_append more, ← isMore, isLonger]
  exact List.append_ne_nil_of_left_ne_nil (nonempty rfl) _

/-- The character behind a leading zero says how the literal is read. -/
theorem unbounded_zero (mark : Char) :
    (∃ base, ∀ rest, unbounded ('0' :: mark :: rest) = based base ['0', mark] rest) ∨
      ∀ rest, unbounded ('0' :: mark :: rest) = decimal ('0' :: mark :: rest) := by
  by_cases hexadecimal : (mark = 'x' || mark = 'X') = true
  · exact .inl ⟨16, fun rest => by rw [unbounded, if_pos hexadecimal]⟩
  · by_cases octal : (mark = 'o' || mark = 'O') = true
    · exact .inl ⟨8, fun rest => by rw [unbounded, if_neg hexadecimal, if_pos octal]⟩
    · by_cases binary : (mark = 'b' || mark = 'B') = true
      · exact .inl ⟨2, fun rest => by
          rw [unbounded, if_neg hexadecimal, if_neg octal, if_pos binary]⟩
      · exact .inr fun rest => by
          rw [unbounded, if_neg hexadecimal, if_neg octal, if_neg binary]

theorem unbounded_of_ne {c : Char} (notPoint : c ≠ '.') (notZero : c ≠ '0') (rest : Text) :
    unbounded (c :: rest) = decimal (c :: rest) := by
  rw [unbounded]
  · exact fun _ same => notPoint (List.cons.inj same).1
  · exact fun _ _ same => notZero (List.cons.inj same).1

theorem unbounded_local : IsLocal unbounded := by
  intro text literal after found
  cases text with
  | nil => exact absurd found (by simp [unbounded, decimal, digits])
  | cons c rest =>
      by_cases isPoint : c = '.'
      · subst isPoint
        obtain ⟨⟨more, rfl, split⟩, continues⟩ := fractionTail_isTail found
        exact ⟨⟨'.' :: more, by simp, by rw [split]; rfl⟩, continues⟩
      · by_cases isZero : c = '0'
        · subst isZero
          cases rest with
          | nil =>
              have alone : unbounded ['0'] = some (['0'], []) := by decide
              rw [alone] at found
              obtain ⟨rfl, rfl⟩ := Prod.mk.inj (Option.some.inj found)
              exact ⟨⟨['0'], by simp, rfl⟩, fun feed => absurd feed (by simp)⟩
          | cons mark rest =>
              rcases unbounded_zero mark with ⟨base, isBased⟩ | isDecimal
              · simp only [List.cons_append, isBased] at found ⊢
                obtain ⟨⟨more, -, split⟩, continues⟩ := based_isTail base found
                exact ⟨⟨'0' :: mark :: more, by simp, by rw [split]; rfl⟩, continues⟩
              · simp only [List.cons_append, isDecimal] at found ⊢
                exact decimal_local found
        · simp only [List.cons_append, unbounded_of_ne isPoint isZero] at found ⊢
          exact decimal_local found

/-- A literal consists of characters at the start of the text, and does not depend on what follows
a line end behind it. -/
theorem scan_local : IsLocal scan := by
  intro text literal after found
  obtain ⟨⟨read, left⟩, scanned, checked⟩ := Option.bind_eq_some_iff.mp found
  obtain ⟨taken, continues⟩ := unbounded_local scanned
  simp only at checked
  split at checked
  · exact absurd checked (by simp)
  · next short =>
      obtain ⟨rfl, rfl⟩ := Prod.mk.inj (Option.some.inj checked)
      refine ⟨taken, fun feed other => ?_⟩
      rw [scan, continues feed other]
      exact if_neg short

end Number

namespace Lexer

/-! ## Strings -/

theorem take_two_append {text : Text} (long : 2 ≤ text.length) (other : Text) :
    (text ++ other).take 2 = text.take 2 :=
  List.take_append_of_le_length long

/-- A reader that takes characters and leaves a line end had two characters at least. -/
theorem two_le_length {text taken after : Text} (nonempty : taken ≠ [])
    (split : text = taken ++ after) (feed : '\n' ∈ after) : 2 ≤ text.length := by
  have takenLength := List.length_pos_iff.mpr nonempty
  have afterLength := List.length_pos_iff.mpr (List.ne_nil_of_mem feed)
  rw [split, List.length_append]
  omega

theorem two_le_length_of_take {text : Text} {c d : Char} (found : text.take 2 = [c, d]) :
    2 ≤ text.length := by
  have two := congrArg List.length found
  rw [List.length_take] at two
  change min 2 text.length = 2 at two
  omega

/-- A character that is no backslash in front of another one. -/
theorem ne_backslash {c : Char} {rest : Text} (nonempty : rest ≠ [])
    (notPair : ∀ d others, c = '\\' → rest = d :: others → False) : c ≠ '\\' := by
  intro isBackslash
  obtain ⟨d, others, isCons⟩ := List.exists_cons_of_ne_nil nonempty
  exact notPair d others isBackslash isCons

theorem closeQuote_of_ne {quote c : Char} (plain : c ≠ '\\') (rest : Text) :
    closeQuote quote (c :: rest) =
      if c = quote then some ([], rest)
      else if c = '\n' || c = '\\' then none
      else (closeQuote quote rest).map fun (body, after) => (c :: body, after) := by
  rw [closeQuote]
  exact fun _ _ isBackslash => absurd isBackslash plain

theorem closeTriple_of_ne {quote c : Char} (plain : c ≠ '\\') (rest : Text) :
    closeTriple quote (c :: rest) =
      if c = quote && rest.take 2 = [quote, quote] then some ([], rest.drop 2)
      else if c = '\\' then none
      else (closeTriple quote rest).map fun (body, after) => (c :: body, after) := by
  rw [closeTriple]
  exact fun _ _ isBackslash => absurd isBackslash plain

theorem closeQuote_local (quote : Char) : IsLocal (closeQuote quote) := by
  intro text body after found
  induction text using closeQuote.induct quote generalizing body with
  | case1 => exact absurd found (by simp [closeQuote])
  | case2 c rest inductionHypothesis =>
      rw [closeQuote] at found
      obtain ⟨⟨others, left⟩, later, same⟩ := Option.map_eq_some_iff.mp found
      obtain ⟨rfl, rfl⟩ := Prod.mk.inj same
      obtain ⟨⟨taken, -, split⟩, continues⟩ := inductionHypothesis later
      refine ⟨⟨'\\' :: c :: taken, by simp, by rw [split]; rfl⟩, fun feed other => ?_⟩
      rw [List.cons_append, List.cons_append, closeQuote, continues feed other]
      rfl
  | case3 rest notPair =>
      rw [closeQuote.eq_3 quote quote rest notPair, if_pos rfl] at found
      obtain ⟨rfl, rfl⟩ := Prod.mk.inj (Option.some.inj found)
      refine ⟨⟨[quote], by simp, rfl⟩, fun feed other => ?_⟩
      rw [List.cons_append, closeQuote_of_ne (ne_backslash (List.ne_nil_of_mem feed) notPair),
        if_pos rfl]
  | case4 c rest notPair notQuote isFault =>
      rw [closeQuote.eq_3 quote c rest notPair, if_neg notQuote, if_pos isFault] at found
      exact absurd found (by simp)
  | case5 c rest notPair notQuote notFault inductionHypothesis =>
      rw [closeQuote.eq_3 quote c rest notPair, if_neg notQuote, if_neg notFault] at found
      obtain ⟨⟨others, left⟩, later, same⟩ := Option.map_eq_some_iff.mp found
      obtain ⟨rfl, rfl⟩ := Prod.mk.inj same
      obtain ⟨⟨taken, -, split⟩, continues⟩ := inductionHypothesis later
      refine ⟨⟨c :: taken, by simp, by rw [split]; rfl⟩, fun feed other => ?_⟩
      have plain : c ≠ '\\' := fun isBackslash => notFault (by simp [isBackslash])
      rw [List.cons_append, closeQuote_of_ne plain, if_neg notQuote, if_neg notFault,
        continues feed other]
      rfl

theorem closeTriple_local (quote : Char) : IsLocal (closeTriple quote) := by
  intro text body after found
  induction text using closeTriple.induct quote generalizing body with
  | case1 => exact absurd found (by simp [closeTriple])
  | case2 c rest inductionHypothesis =>
      rw [closeTriple] at found
      obtain ⟨⟨others, left⟩, later, same⟩ := Option.map_eq_some_iff.mp found
      obtain ⟨rfl, rfl⟩ := Prod.mk.inj same
      obtain ⟨⟨taken, -, split⟩, continues⟩ := inductionHypothesis later
      refine ⟨⟨'\\' :: c :: taken, by simp, by rw [split]; rfl⟩, fun feed other => ?_⟩
      rw [List.cons_append, List.cons_append, closeTriple, continues feed other]
      rfl
  | case3 c rest notPair closes =>
      rw [closeTriple.eq_3 quote c rest notPair, if_pos closes] at found
      obtain ⟨rfl, rfl⟩ := Prod.mk.inj (Option.some.inj found)
      have long := two_le_length_of_take (of_decide_eq_true (Bool.and_eq_true_iff.mp closes).2)
      refine ⟨⟨c :: rest.take 2, by simp, ?_⟩, fun feed other => ?_⟩
      · rw [List.cons_append, List.take_append_drop]
      · have nonempty : rest ≠ [] := List.ne_nil_of_mem (List.mem_of_mem_drop feed)
        rw [List.cons_append, closeTriple_of_ne (ne_backslash nonempty notPair),
          take_two_append long, if_pos closes, List.drop_append_of_le_length long]
  | case4 rest notPair open_ =>
      rw [closeTriple.eq_3 quote _ rest notPair, if_neg open_, if_pos rfl] at found
      exact absurd found (by simp)
  | case5 c rest notPair open_ plain inductionHypothesis =>
      rw [closeTriple.eq_3 quote c rest notPair, if_neg open_, if_neg plain] at found
      obtain ⟨⟨others, left⟩, later, same⟩ := Option.map_eq_some_iff.mp found
      obtain ⟨rfl, rfl⟩ := Prod.mk.inj same
      obtain ⟨⟨taken, nonempty, split⟩, continues⟩ := inductionHypothesis later
      refine ⟨⟨c :: taken, by simp, by rw [split]; rfl⟩, fun feed other => ?_⟩
      rw [List.cons_append, closeTriple_of_ne plain,
        take_two_append (two_le_length nonempty split feed), if_neg open_, if_neg plain,
        continues feed other]
      rfl

theorem stringBody_local (quote : Char) : IsLocal (stringBody quote) := by
  intro text body after found
  unfold stringBody at found ⊢
  split at found
  · next tripled =>
      obtain ⟨⟨taken, nonempty, split⟩, continues⟩ := closeTriple_local quote found
      have whole : text = text.take 2 ++ taken ++ after := by
        rw [List.append_assoc, ← split, List.take_append_drop]
      have long := two_le_length_of_take tripled
      refine ⟨⟨text.take 2 ++ taken, List.append_ne_nil_of_right_ne_nil _ nonempty, whole⟩, ?_⟩
      intro feed other
      rw [take_two_append long, if_pos tripled, List.drop_append_of_le_length long]
      exact continues feed other
  · next single =>
      obtain ⟨⟨taken, nonempty, split⟩, continues⟩ := closeQuote_local quote found
      refine ⟨⟨taken, nonempty, split⟩, fun feed other => ?_⟩
      rw [take_two_append (two_le_length nonempty split feed), if_neg single]
      exact continues feed other

theorem stringOpening?_eq_some {text marks rest : Text} {quote : Char}
    (opens : stringOpening? text = some (marks, quote, rest)) :
    text = text.takeWhile Char.isAlpha ++ quote :: rest := by
  unfold stringOpening? at opens
  simp only [List.length_map] at opens
  split at opens
  · split at opens
    · next c others split =>
        split at opens
        · obtain ⟨rfl, rfl, rfl⟩ := Prod.mk.inj (Option.some.inj opens)
          rw [← split, takeWhile_append_drop]
        · exact absurd opens (by simp)
    · exact absurd opens (by simp)
  · exact absurd opens (by simp)

/-- Whether a string opens a text is decided before the first line end. -/
theorem stringOpening?_append {text : Text} (feed : '\n' ∈ text) (other : Text) :
    stringOpening? (text ++ other) =
      (stringOpening? text).map fun (marks, quote, rest) => (marks, quote, rest ++ other) := by
  have later := @mem_drop_takeWhile Char.isAlpha (by decide) text feed
  unfold stringOpening?
  simp only [@takeWhile_append Char.isAlpha (by decide) text feed, List.length_map,
    drop_length_takeWhile]
  generalize text.drop (text.takeWhile Char.isAlpha).length = left at later ⊢
  obtain ⟨c, rest, rfl⟩ := List.exists_cons_of_ne_nil (List.ne_nil_of_mem later)
  by_cases isMark : stringMarks.contains ((text.takeWhile Char.isAlpha).map Char.toLower) = true
  · by_cases isQuote : (c = '\'' || c = '"') = true
    · simp only [isMark, if_true, List.cons_append, isQuote, Option.map_some]
    · simp only [isMark, if_true, List.cons_append, if_neg isQuote, Option.map_none]
  · simp only [if_neg isMark, Option.map_none]

/-- A string has an opening, and a body behind it. -/
theorem string?_cases {text : Text} {token : Token} {after : Text}
    (found : string? text = some (some (token, after))) :
    ∃ marks quote rest body, stringOpening? text = some (marks, quote, rest) ∧
      stringBody quote rest = some (body, after) ∧
      token = .string ⟨marks.contains 'b', marks.contains 'r', marks.contains 'f', body⟩ := by
  unfold string? at found
  split at found
  · exact absurd found (by simp)
  · next marks quote rest opens =>
      obtain ⟨⟨body, left⟩, closes, same⟩ := Option.map_eq_some_iff.mp (Option.some.inj found)
      obtain ⟨rfl, rfl⟩ := Prod.mk.inj same
      exact ⟨marks, quote, rest, body, opens, closes, rfl⟩

theorem string?_local {text : Text} {token : Token} {after : Text}
    (found : string? text = some (some (token, after))) :
    (∃ taken, taken ≠ [] ∧ text = taken ++ after) ∧
      ('\n' ∈ after → ∀ other,
        string? (text ++ other) = some (some (token, after ++ other))) := by
  obtain ⟨marks, quote, rest, body, opens, closes, rfl⟩ := string?_cases found
  obtain ⟨⟨taken, -, split⟩, continues⟩ := stringBody_local quote closes
  have whole : text = (text.takeWhile Char.isAlpha ++ quote :: taken) ++ after := by
    rw [List.append_assoc, List.cons_append, ← split]
    exact stringOpening?_eq_some opens
  refine ⟨⟨_, by simp, whole⟩, fun feed other => ?_⟩
  have feedInText : '\n' ∈ text := whole ▸ List.mem_append_right _ feed
  rw [string?, stringOpening?_append feedInText, opens]
  simp only [Option.map_some, continues feed other]

theorem string?_append_none {text : Text} (found : string? text = none) (feed : '\n' ∈ text)
    (other : Text) : string? (text ++ other) = none := by
  unfold string? at found ⊢
  rw [stringOpening?_append feed]
  cases opens : stringOpening? text with
  | none => rfl
  | some opening =>
      rw [opens] at found
      exact absurd found (by simp)

/-! ## Names and symbols -/

/-- A word ends before the first line end. -/
theorem word_append {text : Text} (feed : '\n' ∈ text) (other : Text) :
    word (text ++ other) = (word text).map fun (token, after) => (token, after ++ other) := by
  unfold word
  simp only [@takeWhile_append Number.isNamePart (by decide) text feed, drop_length_takeWhile]
  split
  · split
    · rfl
    · rfl
  · split
    · rfl
    · rfl

/-- A word is all that the text has of the characters of names: a reserved word as it is written,
or a name. -/
theorem word_cases {text : Text} {token : Token} {after : Text}
    (found : word text = some (token, after)) :
    text = text.takeWhile Number.isNamePart ++ after ∧
      (token = .keyword (String.ofList (text.takeWhile Number.isNamePart)) ∨
        ∃ name plain, token = .name name plain) := by
  have split := (takeWhile_append_drop Number.isNamePart text).symm
  unfold word at found
  simp only at found
  split at found
  · split at found
    · obtain ⟨rfl, rfl⟩ := Prod.mk.inj (Option.some.inj found)
      exact ⟨split, .inl rfl⟩
    · obtain ⟨rfl, rfl⟩ := Prod.mk.inj (Option.some.inj found)
      exact ⟨split, .inr ⟨_, _, rfl⟩⟩
  · split at found
    · obtain ⟨rfl, rfl⟩ := Prod.mk.inj (Option.some.inj found)
      exact ⟨split, .inr ⟨_, _, rfl⟩⟩
    · exact absurd found (by simp)

theorem word_local {c : Char} {rest : Text} (starts : isNameStart c = true) {token : Token}
    {after : Text} (found : word (c :: rest) = some (token, after)) :
    (∃ taken, taken ≠ [] ∧ c :: rest = taken ++ after) ∧
      ('\n' ∈ after → ∀ other, word (c :: rest ++ other) = some (token, after ++ other)) := by
  obtain ⟨split, -⟩ := word_cases found
  have part : Number.isNamePart c = true := by
    simp only [isNameStart, Number.isNamePart, Char.isAlphanum, Bool.or_eq_true] at starts ⊢
    rcases starts with (letter | low) | wide
    · exact .inl (.inl (.inl letter))
    · exact .inl (.inr low)
    · exact .inr wide
  refine ⟨⟨_, ?_, split⟩, fun feed other => ?_⟩
  · rw [List.takeWhile_cons_of_pos part]
    exact List.cons_ne_nil _ _
  · rw [word_append (split ▸ List.mem_append_right _ feed), found]
    rfl

/-- A symbol is a known one that the text starts with. -/
theorem symbol_cases {text after : Text} {known : String}
    (found : symbol text = some (known, after)) :
    "<>".toList.isPrefixOf text = false ∧
      symbols.find? (fun symbol => symbol.toList.isPrefixOf text) = some known ∧
      text = known.toList ++ after := by
  unfold symbol at found
  split at found
  · exact absurd found (by simp)
  · next allowed =>
      split at found
      · next first isFound =>
          obtain ⟨rfl, rfl⟩ := Prod.mk.inj (Option.some.inj found)
          refine ⟨Bool.eq_false_iff.mpr allowed, isFound, ?_⟩
          have opens : first.toList.isPrefixOf text = true := by
            simpa using List.find?_some isFound
          rw [← String.length_toList]
          exact (List.prefix_iff_eq_append.mp (List.isPrefixOf_iff_prefix.mp opens)).symm
      · exact absurd found (by simp)

theorem solid_of_mem_symbols : ∀ symbol ∈ symbols, symbol.toList ≠ [] ∧ '\n' ∉ symbol.toList := by
  decide

theorem symbol_local : IsLocal symbol := by
  intro text known after found
  obtain ⟨allowed, isFound, split⟩ := symbol_cases found
  obtain ⟨nonempty, -⟩ := solid_of_mem_symbols known (List.mem_of_find?_eq_some isFound)
  refine ⟨⟨known.toList, nonempty, split⟩, fun feed other => ?_⟩
  have feedInText : '\n' ∈ text := split ▸ List.mem_append_right _ feed
  have goesOn : symbols.find? (fun symbol => symbol.toList.isPrefixOf (text ++ other)) =
      some known := by
    rw [List.find?_congr fun symbol isSymbol =>
      isPrefixOf_append (solid_of_mem_symbols symbol isSymbol).2 feedInText other, isFound]
  rw [symbol, isPrefixOf_append (by decide) feedInText, allowed, if_neg (by simp), goesOn]
  simp only [split, List.append_assoc, ← String.length_toList, List.drop_left]

/-! ## Lexemes -/

/-- A character in front of another one opens a number or not, however the text goes on. -/
theorem opensNumber_append {c : Char} {rest : Text} (long : 2 ≤ (c :: rest).length)
    (other : Text) : opensNumber c (rest ++ other) = opensNumber c rest := by
  cases rest with
  | nil => exact absurd long (by simp)
  | cons d rest => rfl

theorem plainLexeme_local {opened opened' : List String} {text after : Text} {token : Token}
    (found : plainLexeme opened text = some (token, after, opened')) :
    (∃ taken, taken ≠ [] ∧ text = taken ++ after) ∧
      ('\n' ∈ after → ∀ other,
        plainLexeme opened (text ++ other) = some (token, after ++ other, opened')) := by
  cases text with
  | nil => exact absurd found (by simp [plainLexeme])
  | cons c rest =>
      rw [plainLexeme] at found
      split at found
      · next starts =>
          obtain ⟨⟨word, left⟩, scanned, same⟩ := Option.map_eq_some_iff.mp found
          obtain ⟨rfl, rfl, rfl⟩ := same
          obtain ⟨taken, continues⟩ := word_local starts scanned
          refine ⟨taken, fun feed other => ?_⟩
          have continued := continues feed other
          rw [List.cons_append] at continued ⊢
          rw [plainLexeme, if_pos starts, continued]
          rfl
      · next notName =>
          split at found
          · next isNumber =>
              obtain ⟨⟨literal, left⟩, scanned, same⟩ := Option.map_eq_some_iff.mp found
              obtain ⟨rfl, rfl, rfl⟩ := same
              obtain ⟨⟨taken, nonempty, split⟩, continues⟩ := Number.scan_local scanned
              refine ⟨⟨taken, nonempty, split⟩, fun feed other => ?_⟩
              have continued := continues feed other
              have long := two_le_length nonempty split feed
              rw [List.cons_append] at continued ⊢
              rw [plainLexeme, if_neg notName, opensNumber_append long, if_pos isNumber, continued]
              rfl
          · next notNumber =>
              obtain ⟨⟨known, left⟩, scanned, rest_found⟩ := Option.bind_eq_some_iff.mp found
              obtain ⟨outer, opens, same⟩ := Option.map_eq_some_iff.mp rest_found
              obtain ⟨rfl, rfl, rfl⟩ := same
              obtain ⟨⟨taken, nonempty, split⟩, continues⟩ := symbol_local scanned
              refine ⟨⟨taken, nonempty, split⟩, fun feed other => ?_⟩
              have continued := continues feed other
              have long := two_le_length nonempty split feed
              rw [List.cons_append] at continued ⊢
              rw [plainLexeme, if_neg notName, opensNumber_append long, if_neg notNumber,
                continued, Option.bind_some]
              simp only [opens, Option.map_some]

/-- A lexeme takes characters from the start of the text, and does not depend on what follows a
line end behind it. -/
theorem lexeme_local {opened opened' : List String} {text after : Text} {token : Token}
    (found : lexeme opened text = some (token, after, opened')) :
    (∃ taken, taken ≠ [] ∧ text = taken ++ after) ∧
      ('\n' ∈ after → ∀ other,
        lexeme opened (text ++ other) = some (token, after ++ other, opened')) := by
  unfold lexeme at found ⊢
  cases opens : string? text with
  | none =>
      rw [opens] at found
      obtain ⟨⟨taken, nonempty, split⟩, continues⟩ := plainLexeme_local found
      refine ⟨⟨taken, nonempty, split⟩, fun feed other => ?_⟩
      have feedInText : '\n' ∈ text := split ▸ List.mem_append_right _ feed
      rw [string?_append_none opens feedInText]
      exact continues feed other
  | some read =>
      rw [opens] at found
      obtain ⟨⟨token', left⟩, isRead, same⟩ := Option.map_eq_some_iff.mp found
      obtain ⟨rfl, rfl, rfl⟩ := same
      rw [isRead] at opens
      obtain ⟨taken, continues⟩ := string?_local opens
      refine ⟨taken, fun feed other => ?_⟩
      rw [continues feed other]
      rfl

/-- What the token at the start of a text is read as. -/
inductive LexemeForm (opened : List String) (text after : Text) : Token → List String → Prop
  | string {token : Token} : string? text = some (some (token, after)) →
      LexemeForm opened text after token opened
  | word {token : Token} : word text = some (token, after) →
      LexemeForm opened text after token opened
  | number {literal : Text} : Number.scan text = some (literal, after) →
      LexemeForm opened text after (.number literal) opened
  | symbol {known : String} {outer : List String} : symbol text = some (known, after) →
      bracket opened known = some outer → LexemeForm opened text after (.symbol known) outer

theorem lexeme_cases {opened outer : List String} {text after : Text} {token : Token}
    (found : lexeme opened text = some (token, after, outer)) :
    LexemeForm opened text after token outer := by
  unfold lexeme at found
  split at found
  · next read isString =>
      obtain ⟨⟨token', left⟩, rfl, same⟩ := Option.map_eq_some_iff.mp found
      obtain ⟨rfl, rfl, rfl⟩ := same
      exact .string isString
  · unfold plainLexeme at found
    split at found
    · exact absurd found (by simp)
    · split at found
      · obtain ⟨⟨token', left⟩, isWord, same⟩ := Option.map_eq_some_iff.mp found
        obtain ⟨rfl, rfl, rfl⟩ := same
        exact .word isWord
      · split at found
        · obtain ⟨⟨literal, left⟩, isNumber, same⟩ := Option.map_eq_some_iff.mp found
          obtain ⟨rfl, rfl, rfl⟩ := same
          exact .number isNumber
        · obtain ⟨⟨known, left⟩, isSymbol, opens⟩ := Option.bind_eq_some_iff.mp found
          obtain ⟨inner, isBracket, same⟩ := Option.map_eq_some_iff.mp opens
          obtain ⟨rfl, rfl, rfl⟩ := same
          exact .symbol isSymbol isBracket

end Lexer

end SchemaDoc.Source
