import SchemaDoc.Proofs.Source.Lookup
import SchemaDoc.Proofs.Text.Lines

/-!
Contract: the lines of tokens.

Every token that is no part of a text's layout is a lexeme of the text, and its line is that of the
lexeme (`stands_of_mem_tokens`): the physical line on which the lexeme's first character stands
(`exists_physicalLine`). The lines of the tokens follow their order (`pairwise_line_tokens`).

Line ends are counted by what is left of them: a step of reading passes as many as it says
(`step_count`).
-/

namespace SchemaDoc.Source

/-! ## Line ends inside lexemes -/

namespace Number

theorem digits_count {isDigit : Char → Bool} (notDigit : isDigit '\n' = false) {required : Bool}
    {text taken after : Text} (found : digits isDigit required text = some (taken, after)) :
    text.count '\n' = after.count '\n' := by
  induction text generalizing required taken with
  | nil =>
      cases required with
      | true => exact absurd found (by simp [digits])
      | false => rw [← (Prod.mk.inj (Option.some.inj found)).2]
  | cons c rest inductionHypothesis =>
      rw [digits] at found
      split at found
      · next isDigit =>
          obtain ⟨⟨others, left⟩, later, same⟩ := Option.map_eq_some_iff.mp found
          obtain ⟨rfl, rfl⟩ := Prod.mk.inj same
          have notFeed : c ≠ '\n' := fun isFeed => by simp [isFeed, notDigit] at isDigit
          rw [List.count_cons_of_ne notFeed, inductionHypothesis later]
      · split at found
        · exact absurd found (by simp)
        · split at found
          · next isLow =>
              obtain ⟨⟨others, left⟩, later, same⟩ := Option.map_eq_some_iff.mp found
              obtain ⟨rfl, rfl⟩ := Prod.mk.inj same
              rw [isLow, List.count_cons_of_ne (by decide), inductionHypothesis later]
          · rw [← (Prod.mk.inj (Option.some.inj found)).2]

/-- A reader that goes on behind what is taken passes no line end. -/
def KeepsLines (reader : Text → Text → Option (Text × Text)) : Prop :=
  ∀ {taken text literal after}, reader taken text = some (literal, after) →
    text.count '\n' = after.count '\n'

theorem KeepsLines.behindDigits {reader : Text → Text → Option (Text × Text)}
    (keeps : KeepsLines reader) : KeepsLines (behindDigits reader) := by
  intro taken text literal after found
  obtain ⟨⟨read, left⟩, scanned, tail⟩ := Option.bind_eq_some_iff.mp found
  exact (digits_count (by decide) scanned).trans (keeps tail)

theorem imaginaryTail_keepsLines : KeepsLines imaginaryTail := by
  intro taken text literal after found
  cases text with
  | nil => rw [← (Prod.mk.inj (Option.some.inj found)).2]
  | cons c rest =>
      simp only [imaginaryTail] at found
      split at found
      · next isMark =>
          split at found
          · have notFeed : c ≠ '\n' := fun isFeed => by simp [isFeed] at isMark
            rw [← (Prod.mk.inj (Option.some.inj found)).2, List.count_cons_of_ne notFeed]
          · exact absurd found (by simp)
      · split at found
        · rw [← (Prod.mk.inj (Option.some.inj found)).2]
        · exact absurd found (by simp)

theorem exponentTail_keepsLines : KeepsLines exponentTail := by
  intro taken text literal after found
  cases text with
  | nil => rw [← (Prod.mk.inj (Option.some.inj found)).2]
  | cons mark rest =>
      by_cases isMark : mark = 'e' ∨ mark = 'E'
      · have notFeed : mark ≠ '\n' := by rcases isMark with rfl | rfl <;> decide
        cases rest with
        | nil => exact absurd found (by simp [exponentTail, isMark])
        | cons c rest =>
            rw [exponentTail_mark isMark] at found
            split at found
            · next isSign =>
                have notFeed' : c ≠ '\n' := by rcases isSign with rfl | rfl <;> decide
                rw [List.count_cons_of_ne notFeed, List.count_cons_of_ne notFeed']
                exact imaginaryTail_keepsLines.behindDigits found
            · split at found
              · rw [List.count_cons_of_ne notFeed]
                exact imaginaryTail_keepsLines.behindDigits found
              · split at found
                · rw [← (Prod.mk.inj (Option.some.inj found)).2]
                · exact absurd found (by simp)
      · simp only [exponentTail, Bool.or_eq_true, decide_eq_true_eq, if_neg isMark] at found
        exact imaginaryTail_keepsLines found

theorem fractionTail_keepsLines : KeepsLines fractionTail := by
  intro taken text literal after found
  cases text with
  | nil => rw [← (Prod.mk.inj (Option.some.inj found)).2]
  | cons c rest =>
      simp only [fractionTail] at found
      split at found
      · exact exponentTail_keepsLines.behindDigits found
      · exact exponentTail_keepsLines found

theorem wholeTail_keepsLines : KeepsLines wholeTail := by
  intro taken text literal after found
  cases text with
  | nil =>
      simp only [wholeTail] at found
      split at found
      · exact absurd found (by simp)
      · rw [← (Prod.mk.inj (Option.some.inj found)).2]
  | cons c rest =>
      by_cases isPoint : c = '.'
      · subst isPoint
        rw [List.count_cons_of_ne (by decide)]
        exact fractionTail_keepsLines found
      · rw [wholeTail_of_ne isPoint] at found
        split at found
        · exact exponentTail_keepsLines found
        · split at found
          · exact imaginaryTail_keepsLines found
          · split at found
            · exact absurd found (by simp)
            · exact imaginaryTail_keepsLines found

theorem basedDigits_keepsLines {base : Nat} (noDigit : Text.isDigitOf base '\n' = false) :
    KeepsLines (basedDigits base) := by
  intro taken text literal after found
  obtain ⟨read, scanned, -, -, -⟩ := basedDigits_eq_some_iff.mp found
  exact digits_count noDigit scanned

theorem based_keepsLines {base : Nat} (noDigit : Text.isDigitOf base '\n' = false) :
    KeepsLines (based base) := by
  intro taken text literal after found
  cases text with
  | nil => exact absurd found (by simp [based, basedDigits, digits])
  | cons c rest =>
      by_cases isLow : c = '_'
      · subst isLow
        rw [List.count_cons_of_ne (by decide)]
        exact basedDigits_keepsLines noDigit found
      · rw [based_of_ne isLow] at found
        exact basedDigits_keepsLines noDigit found

theorem decimal_count {text literal after : Text} (found : decimal text = some (literal, after)) :
    text.count '\n' = after.count '\n' :=
  wholeTail_keepsLines.behindDigits (show behindDigits wholeTail [] text = _ from found)

theorem unbounded_count {text literal after : Text}
    (found : unbounded text = some (literal, after)) : text.count '\n' = after.count '\n' := by
  unfold unbounded at found
  split at found
  · rw [List.count_cons_of_ne (by decide)]
    exact fractionTail_keepsLines found
  · next mark rest =>
      by_cases isFeed : mark = '\n'
      · subst isFeed
        exact decimal_count found
      · have counted : ('0' :: mark :: rest).count '\n' = rest.count '\n' := by
          rw [List.count_cons_of_ne (by decide), List.count_cons_of_ne isFeed]
        split at found
        · exact counted.trans (based_keepsLines (by decide) found)
        · split at found
          · exact counted.trans (based_keepsLines (by decide) found)
          · split at found
            · exact counted.trans (based_keepsLines (by decide) found)
            · exact decimal_count found
  · exact decimal_count found

theorem scan_count {text literal after : Text} (found : scan text = some (literal, after)) :
    text.count '\n' = after.count '\n' := by
  obtain ⟨⟨read, left⟩, scanned, checked⟩ := Option.bind_eq_some_iff.mp found
  simp only at checked
  split at checked
  · exact absurd checked (by simp)
  · obtain ⟨rfl, rfl⟩ := Prod.mk.inj (Option.some.inj checked)
    exact unbounded_count scanned

end Number

namespace Lexer

/-! ## Strings, names and symbols -/

/-- Characters of a kind that holds no line feed pass no line end. -/
theorem count_takeWhile {isPart : Char → Bool} (ends : isPart '\n' = false) (text : Text) :
    (text.takeWhile isPart).count '\n' = 0 := by
  apply List.count_eq_zero_of_not_mem
  intro member
  have part := List.all_eq_true.mp List.all_takeWhile _ member
  rw [ends] at part
  exact absurd part (by decide)

theorem count_dropWhile {isPart : Char → Bool} (ends : isPart '\n' = false) (text : Text) :
    text.count '\n' = (text.dropWhile isPart).count '\n' := by
  have split := @List.takeWhile_append_dropWhile _ isPart text
  calc text.count '\n'
      = (text.takeWhile isPart ++ text.dropWhile isPart).count '\n' := by rw [split]
    _ = (text.dropWhile isPart).count '\n' := by
        rw [List.count_append, count_takeWhile ends, Nat.zero_add]

theorem closeQuote_count {quote : Char} (notFeed : quote ≠ '\n') {text body after : Text}
    (found : closeQuote quote text = some (body, after)) :
    text.count '\n' = body.count '\n' + after.count '\n' := by
  induction text using closeQuote.induct quote generalizing body with
  | case1 => exact absurd found (by simp [closeQuote])
  | case2 c rest inductionHypothesis =>
      rw [closeQuote] at found
      obtain ⟨⟨others, left⟩, later, same⟩ := Option.map_eq_some_iff.mp found
      obtain ⟨rfl, rfl⟩ := Prod.mk.inj same
      simp only [List.count_cons, inductionHypothesis later]
      omega
  | case3 rest notPair =>
      rw [closeQuote.eq_3 quote quote rest notPair, if_pos rfl] at found
      obtain ⟨rfl, rfl⟩ := Prod.mk.inj (Option.some.inj found)
      rw [List.count_cons_of_ne notFeed, List.count_nil, Nat.zero_add]
  | case4 c rest notPair notQuote isFault =>
      rw [closeQuote.eq_3 quote c rest notPair, if_neg notQuote, if_pos isFault] at found
      exact absurd found (by simp)
  | case5 c rest notPair notQuote notFault inductionHypothesis =>
      rw [closeQuote.eq_3 quote c rest notPair, if_neg notQuote, if_neg notFault] at found
      obtain ⟨⟨others, left⟩, later, same⟩ := Option.map_eq_some_iff.mp found
      obtain ⟨rfl, rfl⟩ := Prod.mk.inj same
      simp only [List.count_cons, inductionHypothesis later]
      omega

/-- Two quotes pass no line end. -/
theorem count_drop_quotes {quote : Char} (notFeed : quote ≠ '\n') {text : Text}
    (quotes : text.take 2 = [quote, quote]) :
    text.count '\n' = (text.drop 2).count '\n' := by
  calc text.count '\n'
      = (text.take 2 ++ text.drop 2).count '\n' := by rw [List.take_append_drop]
    _ = (text.drop 2).count '\n' := by
        rw [quotes, List.cons_append, List.singleton_append, List.count_cons_of_ne notFeed,
          List.count_cons_of_ne notFeed]

theorem closeTriple_count {quote : Char} (notFeed : quote ≠ '\n') {text body after : Text}
    (found : closeTriple quote text = some (body, after)) :
    text.count '\n' = body.count '\n' + after.count '\n' := by
  induction text using closeTriple.induct quote generalizing body with
  | case1 => exact absurd found (by simp [closeTriple])
  | case2 c rest inductionHypothesis =>
      rw [closeTriple] at found
      obtain ⟨⟨others, left⟩, later, same⟩ := Option.map_eq_some_iff.mp found
      obtain ⟨rfl, rfl⟩ := Prod.mk.inj same
      simp only [List.count_cons, inductionHypothesis later]
      omega
  | case3 c rest notPair closes =>
      rw [closeTriple.eq_3 quote c rest notPair, if_pos closes] at found
      obtain ⟨rfl, rfl⟩ := Prod.mk.inj (Option.some.inj found)
      obtain ⟨isQuote, quotes⟩ := Bool.and_eq_true_iff.mp closes
      rw [of_decide_eq_true isQuote, List.count_cons_of_ne notFeed, List.count_nil, Nat.zero_add]
      exact count_drop_quotes notFeed (of_decide_eq_true quotes)
  | case4 rest notPair open_ =>
      rw [closeTriple.eq_3 quote _ rest notPair, if_neg open_, if_pos rfl] at found
      exact absurd found (by simp)
  | case5 c rest notPair open_ plain inductionHypothesis =>
      rw [closeTriple.eq_3 quote c rest notPair, if_neg open_, if_neg plain] at found
      obtain ⟨⟨others, left⟩, later, same⟩ := Option.map_eq_some_iff.mp found
      obtain ⟨rfl, rfl⟩ := Prod.mk.inj same
      simp only [List.count_cons, inductionHypothesis later]
      omega

theorem stringBody_count {quote : Char} (notFeed : quote ≠ '\n') {text body after : Text}
    (found : stringBody quote text = some (body, after)) :
    text.count '\n' = body.count '\n' + after.count '\n' := by
  unfold stringBody at found
  split at found
  · next tripled =>
      rw [count_drop_quotes notFeed tripled]
      exact closeTriple_count notFeed found
  · exact closeQuote_count notFeed found

theorem stringOpening?_quote {text marks rest : Text} {quote : Char}
    (opens : stringOpening? text = some (marks, quote, rest)) : quote ≠ '\n' := by
  unfold stringOpening? at opens
  simp only at opens
  split at opens
  · split at opens
    · split at opens
      · next isQuote =>
          obtain ⟨-, rfl, -⟩ := Prod.mk.inj (Option.some.inj opens)
          exact fun isFeed => by simp [isFeed] at isQuote
      · exact absurd opens (by simp)
    · exact absurd opens (by simp)
  · exact absurd opens (by simp)

theorem string?_count {text after : Text} {token : Token}
    (found : string? text = some (some (token, after))) :
    text.count '\n' = linesInside token + after.count '\n' := by
  obtain ⟨marks, quote, rest, body, opens, closes, rfl⟩ := string?_cases found
  have notFeed := stringOpening?_quote opens
  rw [stringOpening?_eq_some opens, List.count_append, count_takeWhile (by decide),
    List.count_cons_of_ne notFeed, Nat.zero_add]
  exact stringBody_count notFeed closes

theorem word_count {text after : Text} {token : Token} (found : word text = some (token, after)) :
    text.count '\n' = linesInside token + after.count '\n' := by
  obtain ⟨split, isWord⟩ := word_cases found
  have noLines : linesInside token = 0 := by
    rcases isWord with rfl | ⟨name, plain, rfl⟩
    · rfl
    · rfl
  rw [split, List.count_append, count_takeWhile (by decide), noLines]

theorem symbol_count {text after : Text} {known : String}
    (found : symbol text = some (known, after)) : text.count '\n' = after.count '\n' := by
  obtain ⟨-, isFound, split⟩ := symbol_cases found
  have absent := (solid_of_mem_symbols known (List.mem_of_find?_eq_some isFound)).2
  rw [split, List.count_append, List.count_eq_zero_of_not_mem absent, Nat.zero_add]

theorem lexeme_count {opened outer : List String} {text after : Text} {token : Token}
    (found : lexeme opened text = some (token, after, outer)) :
    text.count '\n' = linesInside token + after.count '\n' := by
  cases lexeme_cases found with
  | string isString => exact string?_count isString
  | word isWord => exact word_count isWord
  | number isNumber => exact (Number.scan_count isNumber).trans (Nat.zero_add _).symm
  | symbol isSymbol _ => exact (symbol_count isSymbol).trans (Nat.zero_add _).symm

/-! ## Steps -/

theorem measure_count {column narrow held passed : Nat} {text : Text} {margin : Margin}
    (measured : measure column narrow held passed text = some margin) :
    passed + text.count '\n' = margin.passed + margin.rest.count '\n' := by
  induction column, narrow, held, passed, text using measure.induct with
  | case1 column narrow held passed rest inductionHypothesis =>
      rw [measure] at measured
      rw [List.count_cons_of_ne (by decide)]
      exact inductionHypothesis measured
  | case2 column narrow held passed rest inductionHypothesis =>
      rw [measure] at measured
      rw [List.count_cons_of_ne (by decide)]
      exact inductionHypothesis measured
  | case3 column narrow held passed rest inductionHypothesis =>
      rw [measure] at measured
      rw [List.count_cons_of_ne (by decide)]
      exact inductionHypothesis measured
  | case4 column narrow held passed rest isLast =>
      rw [measure, if_pos isLast] at measured
      exact absurd measured (by simp)
  | case5 column narrow held passed rest notLast inductionHypothesis =>
      rw [measure, if_neg notLast] at measured
      have counted := inductionHypothesis measured
      rw [List.count_cons_of_ne (by decide), List.count_cons_self]
      omega
  | case6 column narrow held passed rest noLine =>
      rw [measure] at measured
      · exact absurd measured (by simp)
      · exact noLine
  | case7 column narrow held passed text noSpace noTab noFeed noContinuation noBackslash =>
      rw [measure] at measured
      · rw [← Option.some.inj measured]
      all_goals assumption

theorem behindLine_count {text : Text} (feed : '\n' ∈ text) :
    text.count '\n' = 1 + (behindLine text).count '\n' := by
  induction text with
  | nil => exact absurd feed (by simp)
  | cons c rest inductionHypothesis =>
      by_cases isFeed : c = '\n'
      · subst isFeed
        rw [List.count_cons_self, Nat.add_comm]
        rfl
      · have later : '\n' ∈ rest :=
          (List.mem_cons.mp feed).resolve_left fun same => isFeed same.symm
        rw [behindLine_of_ne isFeed, List.count_cons_of_ne isFeed, inductionHypothesis later]

theorem startLine_count {state next : State} {margin : Margin} {found : List Token}
    {before behind : Nat} {rest : Text} (ends : margin.rest ≠ [] → EndsLine margin.rest)
    (starts : startLine state margin = some (.goOn found before behind next rest)) :
    margin.passed + margin.rest.count '\n' = before + behind + rest.count '\n' := by
  unfold startLine at starts
  split at starts
  · next isIdle =>
      obtain ⟨rfl, rfl, rfl, rfl, rfl⟩ := Option.some.inj starts
      have nonempty : margin.rest ≠ [] := fun empty => by simp [empty] at isIdle
      rw [behindLine_count (ends nonempty).mem, Nat.add_assoc]
  · split at starts
    · obtain ⟨⟨tokens, indents⟩, -, same⟩ := Option.map_eq_some_iff.mp starts
      obtain ⟨rfl, rfl, rfl, rfl, rfl⟩ := same
      rfl
    · obtain ⟨rfl, rfl, rfl, rfl, rfl⟩ := Option.some.inj starts
      rfl

theorem insideLine_count {state next : State} {text rest : Text} {found : List Token}
    {before behind : Nat}
    (reads : insideLine state text = some (.goOn found before behind next rest)) :
    text.count '\n' = before + behind + rest.count '\n' := by
  cases insideLine_eq_some_iff.mp reads with
  | @comment text =>
      rw [List.count_cons_of_ne (by decide), Nat.add_zero, Nat.zero_add]
      exact count_dropWhile (by decide) text
  | lineEnd =>
      rw [List.count_cons_self]
      omega
  | continuation _ =>
      rw [List.count_cons_of_ne (by decide), List.count_cons_self]
      omega
  | lexeme _ _ _ isLexeme => rw [lexeme_count isLexeme, Nat.zero_add]

/-- A step passes the line ends that it says. -/
theorem step_count {state next : State} {text rest : Text} {found : List Token}
    {before behind : Nat} (whole : WholeLines text)
    (moves : step state text = some (.goOn found before behind next rest)) :
    text.count '\n' = before + behind + rest.count '\n' := by
  unfold step at moves
  split at moves
  · obtain ⟨margin, measured, starts⟩ := Option.bind_eq_some_iff.mp moves
    have ends : margin.rest ≠ [] → EndsLine margin.rest := by
      intro nonempty
      rcases whole with rfl | isWhole
      · rw [measure] at measured
        · obtain rfl := Option.some.inj measured
          exact absurd rfl nonempty
        all_goals simp
      · exact ((measure_local measured).2 isWhole).1
    rw [← startLine_count ends starts, ← measure_count measured, Nat.zero_add]
  · rw [← insideLine_count moves]
    exact count_dropWhile (by decide) text

end Lexer

/-! ## Places of tokens -/

/-- A token of a text with so many line ends in front of it: a lexeme that is read there, or a part
of the text's layout. -/
inductive Stands (text : Text) (lines : Nat) : Token → Prop
  | lexeme {front back after : Text} {opened outer : List String} {token : Token} :
      text = front ++ back → front.count '\n' = lines →
      Lexer.lexeme opened back = some (token, after, outer) → Stands text lines token
  | newline : Stands text lines .newline
  | indent : Stands text lines .indent
  | dedent : Stands text lines .dedent
  | finish : Stands text lines .finish

theorem Stands.behind {rest : Text} {lines : Nat} {token : Token} (stands : Stands rest lines token)
    (taken : Text) : Stands (taken ++ rest) (taken.count '\n' + lines) token := by
  cases stands with
  | @lexeme front back after opened outer _ split counted isLexeme =>
      refine @lexeme _ _ (taken ++ front) back after opened outer token ?_ ?_ isLexeme
      · rw [split, List.append_assoc]
      · rw [List.count_append, counted]
  | newline => exact .newline
  | indent => exact .indent
  | dedent => exact .dedent
  | finish => exact .finish

namespace Lexer

theorem reindent_stands {column narrow : Nat} {indents left : Indents} {found : List Token}
    (measured : reindent column narrow indents = some (found, left)) (text : Text) (lines : Nat) :
    ∀ token ∈ found, Stands text lines token := by
  unfold reindent at measured
  simp only at measured
  intro token member
  split at measured
  · split at measured
    · obtain ⟨rfl, -⟩ := Prod.mk.inj (Option.some.inj measured)
      exact absurd member (by simp)
    · exact absurd measured (by simp)
  · split at measured
    · split at measured
      · exact absurd measured (by simp)
      · obtain ⟨rfl, -⟩ := Prod.mk.inj (Option.some.inj measured)
        rw [List.mem_singleton.mp member]
        exact .indent
    · split at measured
      · obtain ⟨rfl, -⟩ := Prod.mk.inj (Option.some.inj measured)
        rw [(List.mem_replicate.mp member).2]
        exact .dedent
      · exact absurd measured (by simp)

theorem startLine_stands {state next : State} {margin : Margin} {rest : Text} {found : List Token}
    {before behind : Nat}
    (starts : startLine state margin = some (.goOn found before behind next rest)) (text : Text)
    (lines : Nat) : ∀ token ∈ found, Stands text lines token := by
  intro token member
  unfold startLine at starts
  split at starts
  · obtain ⟨rfl, -⟩ := Option.some.inj starts
    exact absurd member (by simp)
  · split at starts
    · obtain ⟨⟨tokens, indents⟩, measured, same⟩ := Option.map_eq_some_iff.mp starts
      obtain ⟨rfl, -⟩ := same
      exact reindent_stands measured text lines token member
    · obtain ⟨rfl, -⟩ := Option.some.inj starts
      exact absurd member (by simp)

theorem insideLine_stands {state next : State} {text rest : Text} {found : List Token}
    {before behind : Nat}
    (reads : insideLine state text = some (.goOn found before behind next rest)) :
    ∀ token ∈ found, Stands text before token := by
  intro token member
  cases insideLine_eq_some_iff.mp reads with
  | comment => exact absurd member (by simp)
  | lineEnd =>
      split at member
      · rw [List.mem_singleton.mp member]
        exact .newline
      · exact absurd member (by simp)
  | continuation _ => exact absurd member (by simp)
  | lexeme _ _ _ isLexeme =>
      rw [List.mem_singleton.mp member]
      exact .lexeme (List.nil_append _).symm rfl isLexeme

/-- The tokens of a step stand behind the line ends that it passes in front of them. -/
theorem step_stands {state next : State} {text rest : Text} {found : List Token}
    {before behind : Nat} (moves : step state text = some (.goOn found before behind next rest)) :
    ∀ token ∈ found, Stands text before token := by
  intro token member
  unfold step at moves
  split at moves
  · obtain ⟨margin, -, starts⟩ := Option.bind_eq_some_iff.mp moves
    exact startLine_stands starts text before token member
  · have stands := (insideLine_stands moves token member).behind (text.takeWhile isGap)
    rwa [List.takeWhile_append_dropWhile, count_takeWhile (by decide), Nat.zero_add] at stands

theorem tokensFrom_stands {fuel line : Nat} {state : State} {text : Text}
    {placed : List PlacedToken} (whole : WholeLines text)
    (isRead : tokensFrom fuel line state text = some placed) :
    ∀ entry ∈ placed, ∃ lines, entry.line = line + lines ∧ Stands text lines entry.token := by
  refine @tokensFrom_induction (fun line _ text placed => WholeLines text → ∀ entry ∈ placed,
    ∃ lines, entry.line = line + lines ∧ Stands text lines entry.token) ?_ ?_ _ _ _ _ _ isRead whole
  · intro line state text _ _ entry member
    rw [List.mem_singleton.mp member]
    exact ⟨0, rfl, .finish⟩
  · intro line state text found before behind next rest others moves inductionHypothesis whole entry
      member
    rcases List.mem_append.mp member with isFound | isLater
    · obtain ⟨token, inFound, rfl⟩ := List.mem_map.mp isFound
      exact ⟨before, rfl, step_stands moves token inFound⟩
    · obtain ⟨⟨taken, split, -⟩, -⟩ := step_local moves
      have restWhole : WholeLines rest := @WholeLines.of_append taken rest (split ▸ whole)
      obtain ⟨lines, isLine, stands⟩ := inductionHypothesis restWhole entry isLater
      have counted := step_count whole moves
      rw [split, List.count_append] at counted
      refine ⟨taken.count '\n' + lines, ?_, ?_⟩
      · rw [isLine]
        omega
      · rw [split]
        exact stands.behind taken

end Lexer

/-- A token's line is that of the place where the token stands. -/
theorem stands_of_mem_tokens {source : Text} {found : List PlacedToken}
    (isRead : tokens source = some found) {entry : PlacedToken} (member : entry ∈ found) :
    ∃ lines, entry.line = 1 + lines ∧ Stands (normalizeLineEnds source) lines entry.token :=
  Lexer.tokensFrom_stands (.inr (normalizeLineEnds_eq source).1) isRead entry member

namespace Lexer

theorem tokensFrom_lines {fuel line : Nat} {state : State} {text : Text} {placed : List PlacedToken}
    (isRead : tokensFrom fuel line state text = some placed) :
    (∀ entry ∈ placed, line ≤ entry.line) ∧ (placed.map PlacedToken.line).Pairwise (· ≤ ·) := by
  refine @tokensFrom_induction (fun line _ _ placed => (∀ entry ∈ placed, line ≤ entry.line) ∧
    (placed.map PlacedToken.line).Pairwise (· ≤ ·)) ?_ ?_ _ _ _ _ _ isRead
  · intro line _ _ _
    exact ⟨fun entry member => by rw [List.mem_singleton.mp member], List.pairwise_singleton _ _⟩
  · intro line _ _ found before behind _ _ others _ ⟨areBehind, inOrder⟩
    refine ⟨fun entry member => ?_, ?_⟩
    · rcases List.mem_append.mp member with isFound | isLater
      · obtain ⟨token, -, rfl⟩ := List.mem_map.mp isFound
        exact Nat.le_add_right line before
      · have isBehind := areBehind entry isLater
        omega
    · rw [List.map_append, List.map_map, List.pairwise_append]
      refine ⟨?_, inOrder, ?_⟩
      · exact List.pairwise_of_forall_mem_list fun first isFirst second isSecond => by
          obtain ⟨_, -, rfl⟩ := List.mem_map.mp isFirst
          obtain ⟨_, -, rfl⟩ := List.mem_map.mp isSecond
          exact Nat.le_refl _
      · intro first isFirst second isSecond
        obtain ⟨_, -, rfl⟩ := List.mem_map.mp isFirst
        obtain ⟨entry, isLater, rfl⟩ := List.mem_map.mp isSecond
        have isBehind := areBehind entry isLater
        show line + before ≤ entry.line
        omega

end Lexer

/-- No token stands on an earlier line than one in front of it. -/
theorem pairwise_line_tokens {source : Text} {placed : List PlacedToken}
    (isRead : tokens source = some placed) : (placed.map PlacedToken.line).Pairwise (· ≤ ·) :=
  (Lexer.tokensFrom_lines isRead).2

/-! ## Physical lines -/

/-- The lines that are left when all line ends are line feeds are the physical ones. -/
theorem lines_foldLineEnds (text : Text) :
    Text.lines (foldLineEnds text) = (Text.physicalLines text).map foldLineEnds := by
  induction text using foldLineEnds.induct with
  | case1 => rfl
  | case2 rest inductionHypothesis =>
      rw [foldLineEnds, Text.physicalLines_pair, Text.lines, if_pos rfl, inductionHypothesis]
      rfl
  | case3 rest notFeed inductionHypothesis =>
      rw [foldLineEnds.eq_3 rest notFeed, Text.lines, if_pos rfl, inductionHypothesis,
        Text.physicalLines_end (.inr rfl)]
      · rfl
      · intro _ isFeed
        obtain ⟨others, rfl⟩ := List.head?_eq_some_iff.mp isFeed
        exact notFeed others rfl
  | case4 c rest _ notReturn inductionHypothesis =>
      rw [foldLineEnds_of_ne notReturn]
      by_cases isFeed : c = '\n'
      · rw [isFeed, Text.lines, if_pos rfl, inductionHypothesis, Text.physicalLines_end (.inl rfl)]
        · rfl
        · exact fun isReturn => absurd isReturn (by decide)
      · rw [Text.physicalLines_of_ne isFeed notReturn, Text.lines_of_ne isFeed, inductionHypothesis,
          List.map_cons, foldLineEnds_of_ne notReturn]
        cases Text.physicalLines rest with
        | nil => rfl
        | cons first others => rfl

theorem mem_of_mem_foldLineEnds {text : Text} {c : Char} (notFeed : c ≠ '\n')
    (member : c ∈ foldLineEnds text) : c ∈ text := by
  induction text using foldLineEnds.induct with
  | case1 => exact member
  | case2 rest inductionHypothesis =>
      rw [foldLineEnds] at member
      have later := (List.mem_cons.mp member).resolve_left notFeed
      exact List.mem_cons_of_mem _ (List.mem_cons_of_mem _ (inductionHypothesis later))
  | case3 rest isLone inductionHypothesis =>
      rw [foldLineEnds.eq_3 rest isLone] at member
      have later := (List.mem_cons.mp member).resolve_left notFeed
      exact List.mem_cons_of_mem _ (inductionHypothesis later)
  | case4 d rest _ notReturn inductionHypothesis =>
      rw [foldLineEnds_of_ne notReturn] at member
      exact List.mem_cons.mpr ((List.mem_cons.mp member).imp_right inductionHypothesis)

/-- A character of the read text stands on the physical line that as many lines are above as there
are line ends in front of it. -/
theorem exists_physicalLine {source front back : Text} {c : Char} (notFeed : c ≠ '\n')
    (split : normalizeLineEnds source = front ++ c :: back) :
    ∃ upper line lower, Text.physicalLines source = upper ++ line :: lower ∧
      upper.length = front.count '\n' ∧ c ∈ line := by
  -- The line end that reading may add stands behind the character.
  have inSource : ∃ others, foldLineEnds source = front ++ c :: others := by
    rcases (normalizeLineEnds_eq source).2 with same | longer
    · exact ⟨back, same.symm.trans split⟩
    · rw [longer] at split
      rcases List.eq_nil_or_concat back with rfl | ⟨others, last, rfl⟩
      · have isFeed := (List.append_inj' split rfl).2
        exact absurd (List.singleton_inj.mp isFeed).symm notFeed
      · have same : foldLineEnds source ++ ['\n'] = (front ++ c :: others) ++ [last] := by
          simpa using split
        exact ⟨others, (List.append_inj' same rfl).1⟩
  obtain ⟨others, isSplit⟩ := inSource
  obtain ⟨above, line, below, cut, counted, member⟩ := Text.exists_line_of_char front notFeed others
  rw [← isSplit, lines_foldLineEnds] at cut
  obtain ⟨upper, rest, isCut, rfl, isRest⟩ := List.map_eq_append_iff.mp cut
  obtain ⟨physical, lower, rfl, rfl, rfl⟩ := List.map_eq_cons_iff.mp isRest
  rw [List.length_map] at counted
  exact ⟨upper, physical, lower, isCut, counted, mem_of_mem_foldLineEnds notFeed member⟩

/-! ## Words and symbols -/

namespace Lexer

/-- What is written for a reserved word or a symbol. -/
def IsSpelled (written : String) (token : Token) : Prop :=
  token = .keyword written ∨ token = .symbol written

/-- A reserved word or a symbol is read where it is written. -/
theorem lexeme_spelled {opened outer : List String} {text after : Text} {token : Token}
    (found : lexeme opened text = some (token, after, outer)) {written : String}
    (isSpelled : IsSpelled written token) : written.toList <+: text := by
  cases lexeme_cases found with
  | string isString =>
      obtain ⟨marks, quote, rest, body, -, -, rfl⟩ := string?_cases isString
      exact absurd isSpelled (by simp [IsSpelled])
  | word isWord =>
      obtain ⟨split, rfl | ⟨name, plain, rfl⟩⟩ := word_cases isWord
      · obtain rfl : _ = written := by simpa [IsSpelled] using isSpelled
        rw [String.toList_ofList]
        exact ⟨after, split.symm⟩
      · exact absurd isSpelled (by simp [IsSpelled])
  | number _ => exact absurd isSpelled (by simp [IsSpelled])
  | symbol isSymbol _ =>
      obtain ⟨-, -, split⟩ := symbol_cases isSymbol
      obtain rfl : _ = written := by simpa [IsSpelled] using isSpelled
      exact ⟨after, split.symm⟩

end Lexer

/-- A reserved word or a symbol stands on the physical line that its token says. -/
theorem exists_physicalLine_of_spelled {source : Text} {placed : List PlacedToken}
    (areTokens : tokens source = some placed) {entry : PlacedToken} (member : entry ∈ placed)
    {written : String} (isSpelled : Lexer.IsSpelled written entry.token) {c : Char} {rest : Text}
    (starts : written.toList = c :: rest) (notFeed : c ≠ '\n') :
    ∃ upper line lower, Text.physicalLines source = upper ++ line :: lower ∧
      entry.line = upper.length + 1 ∧ c ∈ line := by
  obtain ⟨lines, isLine, stands⟩ := stands_of_mem_tokens areTokens member
  generalize entry.token = token at isSpelled stands
  cases stands with
  | lexeme split counted isLexeme =>
      obtain ⟨behind, rfl⟩ := Lexer.lexeme_spelled isLexeme isSpelled
      rw [starts, List.cons_append] at split
      obtain ⟨upper, line, lower, cut, isPlace, inLine⟩ := exists_physicalLine notFeed split
      exact ⟨upper, line, lower, cut, by omega, inLine⟩
  | _ => exact absurd isSpelled (by simp [Lexer.IsSpelled])

end SchemaDoc.Source
