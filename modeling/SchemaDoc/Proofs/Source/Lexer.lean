import Mathlib.Data.List.TakeWhile
import SchemaDoc.Proofs.Source.Lexeme

/-!
Contract: runs of the reading of a text.

Owns:
- `InsideMove`: what a step does inside a line, by the first character;
- `Reads`: the tokens that reading gives, without the bound on its steps and without their lines;
- `Passes`: reading up to the end of a line, which does not depend on what follows it;
- the lines without tokens, which change nothing where a line starts.
-/

namespace SchemaDoc.Source.Lexer

/-- The text ends in a line feed. -/
def EndsLine (text : Text) : Prop :=
  text.getLast? = some '\n'

theorem EndsLine.mem {text : Text} (ends : EndsLine text) : '\n' ∈ text :=
  List.mem_of_getLast? ends

theorem EndsLine.ne_nil {text : Text} (ends : EndsLine text) : text ≠ [] :=
  List.ne_nil_of_mem ends.mem

theorem EndsLine.of_append {taken rest : Text} (nonempty : rest ≠ [])
    (ends : EndsLine (taken ++ rest)) : EndsLine rest := by
  unfold EndsLine at ends ⊢
  rwa [List.getLast?_append, List.getLast?_eq_some_getLast nonempty, Option.some_or,
    ← List.getLast?_eq_some_getLast nonempty] at ends

theorem EndsLine.of_cons {c : Char} {rest : Text} (notFeed : c ≠ '\n')
    (ends : EndsLine (c :: rest)) : EndsLine rest := by
  cases rest with
  | nil => exact absurd (Option.some.inj ends) notFeed
  | cons d others => exact @EndsLine.of_append [c] _ (by simp) ends

theorem EndsLine.cons {rest : Text} (ends : EndsLine rest) (c : Char) : EndsLine (c :: rest) := by
  rw [EndsLine, List.getLast?_cons_of_ne_nil ends.ne_nil]
  exact ends

theorem EndsLine.append {back : Text} (ends : EndsLine back) (front : Text) :
    EndsLine (front ++ back) := by
  rw [EndsLine, List.getLast?_append, ends]
  rfl

/-- A gap does not run over the end of a line. -/
theorem EndsLine.dropWhile_isGap {text : Text} (ends : EndsLine text) :
    EndsLine (text.dropWhile isGap) := by
  have nonempty : text.dropWhile isGap ≠ [] := by
    intro empty
    have isFeedGap := List.dropWhile_eq_nil_iff.mp empty '\n' ends.mem
    exact absurd isFeedGap (by decide)
  apply @EndsLine.of_append (text.takeWhile isGap) _ nonempty
  rwa [List.takeWhile_append_dropWhile]

/-! ## The start of a line -/

/-- The margin with a longer text behind it. -/
def Margin.extend (margin : Margin) (other : Text) : Margin :=
  { margin with rest := margin.rest ++ other }

theorem measure_of_solid {c : Char} (noSpace : c ≠ ' ') (noTab : c ≠ '\t') (noFeed : c ≠ '\x0c')
    (noContinuation : c ≠ '\\') (column narrow held passed : Nat) (rest : Text) :
    measure column narrow held passed (c :: rest) =
      some ⟨column, narrow, held, passed, c :: rest⟩ := by
  rw [measure]
  · exact fun _ same => noSpace (List.cons.inj same).1
  · exact fun _ same => noTab (List.cons.inj same).1
  · exact fun _ same => noFeed (List.cons.inj same).1
  · exact fun _ same => noContinuation (List.cons.inj same).1
  · exact fun _ same => noContinuation (List.cons.inj same).1

/-- The white space measured stands at the start of the text, and ends before its last line
feed. -/
theorem measure_local {column narrow held passed : Nat} {text : Text} {margin : Margin}
    (measured : measure column narrow held passed text = some margin) :
    (∃ taken, text = taken ++ margin.rest) ∧
      (EndsLine text → EndsLine margin.rest ∧ ∀ other,
        measure column narrow held passed (text ++ other) = some (margin.extend other)) := by
  induction column, narrow, held, passed, text using measure.induct with
  | case1 column narrow held passed rest inductionHypothesis =>
      rw [measure] at measured
      obtain ⟨⟨taken, split⟩, continues⟩ := inductionHypothesis measured
      exact ⟨⟨' ' :: taken, by rw [split]; rfl⟩, fun ends => continues (ends.of_cons (by decide))⟩
  | case2 column narrow held passed rest inductionHypothesis =>
      rw [measure] at measured
      obtain ⟨⟨taken, split⟩, continues⟩ := inductionHypothesis measured
      exact ⟨⟨'\t' :: taken, by rw [split]; rfl⟩, fun ends => continues (ends.of_cons (by decide))⟩
  | case3 column narrow held passed rest inductionHypothesis =>
      rw [measure] at measured
      obtain ⟨⟨taken, split⟩, continues⟩ := inductionHypothesis measured
      exact ⟨⟨'\x0c' :: taken, by rw [split]; rfl⟩,
        fun ends => continues (ends.of_cons (by decide))⟩
  | case4 column narrow held passed rest isLast =>
      rw [measure, if_pos isLast] at measured
      exact absurd measured (by simp)
  | case5 column narrow held passed rest notLast inductionHypothesis =>
      rw [measure, if_neg notLast] at measured
      obtain ⟨⟨taken, split⟩, continues⟩ := inductionHypothesis measured
      refine ⟨⟨'\\' :: '\n' :: taken, by rw [split]; rfl⟩, fun ends => ?_⟩
      have nonempty : rest ≠ [] := fun empty => notLast (by simp [empty])
      have restEnds : EndsLine rest := @EndsLine.of_append ['\\', '\n'] rest nonempty ends
      refine ⟨(continues restEnds).1, fun other => ?_⟩
      rw [List.cons_append, List.cons_append, measure, if_neg (by simp [nonempty])]
      exact (continues restEnds).2 other
  | case6 column narrow held passed rest noLine =>
      rw [measure] at measured
      · exact absurd measured (by simp)
      · exact noLine
  | case7 column narrow held passed text noSpace noTab noFeed noContinuation noBackslash =>
      cases text with
      | nil =>
          obtain rfl := Option.some.inj measured
          exact ⟨⟨[], rfl⟩, fun ends => absurd rfl ends.ne_nil⟩
      | cons c rest =>
          have solid := @measure_of_solid c (fun same => noSpace rest (by rw [same]))
            (fun same => noTab rest (by rw [same])) (fun same => noFeed rest (by rw [same]))
            (fun same => noBackslash rest (by rw [same])) column narrow held passed
          rw [solid] at measured
          obtain rfl := Option.some.inj measured
          exact ⟨⟨[], rfl⟩, fun ends => ⟨ends, fun other => solid (rest ++ other)⟩⟩

theorem behindLine_of_ne {c : Char} (notFeed : c ≠ '\n') (rest : Text) :
    behindLine (c :: rest) = behindLine rest := by
  rw [behindLine, List.dropWhile_cons_of_pos (by simpa using notFeed)]
  rfl

/-- The text behind a line end stands behind it, however it goes on. -/
theorem behindLine_local {text : Text} (nonempty : text ≠ []) :
    (∃ taken, taken ≠ [] ∧ text = taken ++ behindLine text) ∧
      ('\n' ∈ text → ∀ other, behindLine (text ++ other) = behindLine text ++ other) := by
  induction text with
  | nil => exact absurd rfl nonempty
  | cons c rest inductionHypothesis =>
      by_cases isFeed : c = '\n'
      · subst isFeed
        exact ⟨⟨['\n'], by simp, rfl⟩, fun _ other => rfl⟩
      · have skips := behindLine_of_ne isFeed
        cases rest with
        | nil =>
            refine ⟨⟨[c], by simp, by rw [skips]; rfl⟩, fun feed => ?_⟩
            exact absurd (List.mem_singleton.mp feed).symm isFeed
        | cons d others =>
            obtain ⟨⟨taken, -, split⟩, continues⟩ := inductionHypothesis (by simp)
            refine ⟨⟨c :: taken, by simp, ?_⟩, fun feed other => ?_⟩
            · rw [skips, List.cons_append, ← split]
            · rw [List.cons_append, skips, skips]
              exact continues ((List.mem_cons.mp feed).resolve_left fun same => isFeed same.symm)
                other

theorem head?_extend {margin : Margin} (nonempty : margin.rest ≠ []) (other : Text) :
    (margin.extend other).rest.head? = margin.rest.head? := by
  obtain ⟨c, rest, split⟩ := List.exists_cons_of_ne_nil nonempty
  rw [Margin.extend, split]
  rfl

theorem startLine_local {state next : State} {margin : Margin} {found : List Token}
    {before behind : Nat} {rest : Text}
    (starts : startLine state margin = some (.goOn found before behind next rest)) :
    (∃ taken, margin.rest = taken ++ rest ∧ (taken ≠ [] ∨ next.fresh = false)) ∧
      (EndsLine margin.rest → ∀ other,
        startLine state (margin.extend other) =
          some (.goOn found before behind next (rest ++ other))) := by
  unfold startLine at starts
  split at starts
  · next isIdle =>
      obtain ⟨rfl, rfl, rfl, rfl, rfl⟩ := Option.some.inj starts
      have nonempty : margin.rest ≠ [] := by
        intro empty
        rw [empty] at isIdle
        exact absurd isIdle (by simp)
      obtain ⟨⟨taken, takenNonempty, split⟩, continues⟩ := behindLine_local nonempty
      refine ⟨⟨taken, split, .inl takenNonempty⟩, fun ends other => ?_⟩
      rw [startLine, head?_extend nonempty, if_pos isIdle]
      simp only [Margin.extend, continues ends.mem other]
  · next notIdle =>
      split at starts
      · next outside =>
          obtain ⟨⟨tokens, indents⟩, measured, same⟩ := Option.map_eq_some_iff.mp starts
          obtain ⟨rfl, rfl, rfl, rfl, rfl⟩ := same
          refine ⟨⟨[], rfl, .inr rfl⟩, fun ends other => ?_⟩
          rw [startLine, head?_extend ends.ne_nil, if_neg notIdle, if_pos outside]
          exact Option.map_eq_some_iff.mpr ⟨_, measured, rfl⟩
      · next inside =>
          obtain ⟨rfl, rfl, rfl, rfl, rfl⟩ := Option.some.inj starts
          refine ⟨⟨[], rfl, .inr rfl⟩, fun ends other => ?_⟩
          rw [startLine, head?_extend ends.ne_nil, if_neg notIdle, if_neg inside]
          rfl

/-! ## The inside of a line -/

/-- What reading does inside a line, by the first character of the text. A continuation must stand
at the end of a line, with another line below it. -/
inductive InsideMove (state : State) : Text → Move → Prop
  | finish : state.opened = [] → InsideMove state [] .finish
  | comment {text : Text} :
      InsideMove state ('#' :: text) (.goOn [] 0 0 state (text.dropWhile (· != '\n')))
  | lineEnd {text : Text} :
      InsideMove state ('\n' :: text)
        (.goOn (if state.opened.isEmpty then [.newline] else []) 0 1 { state with fresh := true } text)
  | continuation {after : Text} : after ≠ [] →
      InsideMove state ('\\' :: '\n' :: after) (.goOn [] 0 1 state after)
  | lexeme {c : Char} {text after : Text} {token : Token} {opened : List String} :
      c ≠ '#' → c ≠ '\n' → c ≠ '\\' →
      lexeme state.opened (c :: text) = some (token, after, opened) →
      InsideMove state (c :: text)
        (.goOn [token] 0 (linesInside token) { state with opened } after)

theorem insideLine_of_solid {c : Char} (noComment : c ≠ '#') (notFeed : c ≠ '\n')
    (noContinuation : c ≠ '\\') (state : State) (rest : Text) :
    insideLine state (c :: rest) =
      (lexeme state.opened (c :: rest)).map fun (token, after, opened) =>
        .goOn [token] 0 (linesInside token) { state with opened } after := by
  rw [insideLine]
  · exact fun same => absurd same (by simp)
  · exact fun _ same => noComment (List.cons.inj same).1
  · exact fun _ same => notFeed (List.cons.inj same).1
  · exact fun _ same => noContinuation (List.cons.inj same).1

theorem insideLine_eq_some_iff {state : State} {text : Text} {move : Move} :
    insideLine state text = some move ↔ InsideMove state text move := by
  constructor
  · intro reads
    unfold insideLine at reads
    split at reads
    · split at reads
      · next isOutside =>
          obtain rfl := Option.some.inj reads
          exact .finish (List.isEmpty_iff.mp isOutside)
      · exact absurd reads (by simp)
    · obtain rfl := Option.some.inj reads
      exact .comment
    · obtain rfl := Option.some.inj reads
      exact .lineEnd
    · split at reads
      · split at reads
        · exact absurd reads (by simp)
        · next notLast =>
            obtain rfl := Option.some.inj reads
            exact .continuation (by simpa using notLast)
      · exact absurd reads (by simp)
    · next nonempty noComment notFeed noContinuation =>
        obtain ⟨⟨token, after, opened⟩, isLexeme, rfl⟩ := Option.map_eq_some_iff.mp reads
        obtain ⟨c, text, rfl⟩ := List.exists_cons_of_ne_nil nonempty
        exact .lexeme (fun same => noComment text (by rw [same]))
          (fun same => notFeed text (by rw [same])) (fun same => noContinuation text (by rw [same]))
          isLexeme
  · rintro (isOutside | _ | _ | nonempty | ⟨noComment, notFeed, noContinuation, isLexeme⟩)
    · rw [insideLine, isOutside]
      rfl
    · rfl
    · rfl
    · rw [insideLine, if_neg (by simpa using nonempty)]
    · rw [insideLine_of_solid noComment notFeed noContinuation, isLexeme]
      rfl

/-- What stands behind the first line end of a text goes on with the text. -/
theorem dropWhile_append_of_mem {text : Text} (feed : '\n' ∈ text) (other : Text) :
    (text ++ other).dropWhile (· != '\n') = text.dropWhile (· != '\n') ++ other := by
  have found : text.dropWhile (· != '\n') ≠ [] := by
    intro empty
    have absent := List.dropWhile_eq_nil_iff.mp empty '\n' feed
    exact absurd absent (by decide)
  rw [List.dropWhile_append, if_neg (by simpa using found)]

theorem insideLine_local {state next : State} {text rest : Text} {found : List Token}
    {before behind : Nat}
    (reads : insideLine state text = some (.goOn found before behind next rest)) :
    (∃ taken, taken ≠ [] ∧ text = taken ++ rest) ∧
      (EndsLine text → rest ≠ [] ∨ next.fresh = true → state.fresh = false → ∀ other,
        insideLine state (text ++ other) =
          some (.goOn found before behind next (rest ++ other))) := by
  simp only [insideLine_eq_some_iff] at reads ⊢
  cases reads with
  | @comment text =>
      refine ⟨⟨'#' :: text.takeWhile (· != '\n'), by simp, ?_⟩, fun ends _ _ other => ?_⟩
      · rw [List.cons_append, List.takeWhile_append_dropWhile]
      · rw [← dropWhile_append_of_mem (ends.of_cons (by decide)).mem]
        exact .comment
  | lineEnd => exact ⟨⟨['\n'], by simp, rfl⟩, fun _ _ _ other => .lineEnd⟩
  | continuation nonempty =>
      refine ⟨⟨['\\', '\n'], by simp, rfl⟩, fun _ _ _ other => ?_⟩
      exact .continuation (List.append_ne_nil_of_left_ne_nil nonempty _)
  | lexeme noComment notFeed noContinuation isLexeme =>
      obtain ⟨⟨taken, nonempty, split⟩, continues⟩ := lexeme_local isLexeme
      refine ⟨⟨taken, nonempty, split⟩, fun ends goesOn notFresh other => ?_⟩
      have left : rest ≠ [] := goesOn.resolve_right (by simp [notFresh])
      have afterEnds : EndsLine rest := EndsLine.of_append left (split ▸ ends)
      exact .lexeme noComment notFeed noContinuation (continues afterEnds.mem other)

/-! ## One step -/

/-- A step takes the start of the text, or at least leaves the line start; and it does not depend
on what follows the text's last line feed, unless it reads on over that line feed. -/
theorem step_local {state next : State} {text rest : Text} {found : List Token}
    {before behind : Nat} (moves : step state text = some (.goOn found before behind next rest)) :
    (∃ taken, text = taken ++ rest ∧
      (taken ≠ [] ∨ state.fresh = true ∧ next.fresh = false)) ∧
      (EndsLine text → rest ≠ [] ∨ next.fresh = true → ∀ other,
        step state (text ++ other) = some (.goOn found before behind next (rest ++ other))) := by
  unfold step at moves
  cases fresh : state.fresh with
  | true =>
      rw [if_pos fresh] at moves
      obtain ⟨margin, measured, starts⟩ := Option.bind_eq_some_iff.mp moves
      obtain ⟨⟨space, split⟩, measuresOn⟩ := measure_local measured
      obtain ⟨⟨taken, restSplit, progress⟩, startsOn⟩ := startLine_local starts
      refine ⟨⟨space ++ taken, by rw [split, restSplit, List.append_assoc], ?_⟩, ?_⟩
      · rcases progress with nonempty | inside
        · exact .inl (List.append_ne_nil_of_right_ne_nil _ nonempty)
        · exact .inr ⟨rfl, inside⟩
      · intro ends _ other
        obtain ⟨restEnds, measured⟩ := measuresOn ends
        rw [step, if_pos fresh, measured other]
        exact startsOn restEnds other
  | false =>
      rw [if_neg (by simp [fresh])] at moves
      obtain ⟨⟨taken, nonempty, split⟩, readsOn⟩ := insideLine_local moves
      refine ⟨⟨text.takeWhile isGap ++ taken, ?_, ?_⟩, fun ends goesOn other => ?_⟩
      · rw [List.append_assoc, ← split, List.takeWhile_append_dropWhile]
      · exact .inl (List.append_ne_nil_of_right_ne_nil _ nonempty)
      · have solid := ends.dropWhile_isGap
        have nonempty := solid.ne_nil
        rw [step, if_neg (by simp [fresh]), List.dropWhile_append, if_neg (by simpa using nonempty)]
        exact readsOn solid goesOn fresh other

/-! ## Runs -/

/-- The tokens of the rest of a text. -/
inductive Reads : State → Text → List Token → Prop
  | finish {state : State} {text : Text} :
      step state text = some .finish → Reads state text [.finish]
  | goOn {state next : State} {text rest : Text} {found tokens : List Token}
      {before behind : Nat} :
      step state text = some (.goOn found before behind next rest) → Reads next rest tokens →
      Reads state text (found ++ tokens)

theorem Reads.of_goOn {state next : State} {text rest : Text} {found tokens : List Token}
    {before behind : Nat} (moves : step state text = some (.goOn found before behind next rest)) :
    Reads state text tokens ↔ ∃ others, Reads next rest others ∧ tokens = found ++ others := by
  constructor
  · intro reads
    cases reads with
    | finish finishes =>
        rw [moves] at finishes
        exact absurd (Option.some.inj finishes) (by simp)
    | goOn moves' reads =>
        rw [moves] at moves'
        obtain ⟨rfl, rfl, rfl, rfl, rfl⟩ := Option.some.inj moves'
        exact ⟨_, reads, rfl⟩
  · rintro ⟨others, reads, rfl⟩
    exact .goOn moves reads

/-- The tokens up to the end of a text that ends where a line starts. -/
inductive Passes : State → Text → State → List Token → Prop
  | here {state : State} : state.fresh = true → Passes state [] state []
  | goOn {state next final : State} {text rest : Text} {found tokens : List Token}
      {before behind : Nat} :
      EndsLine text → step state text = some (.goOn found before behind next rest) →
      Passes next rest final tokens → Passes state text final (found ++ tokens)

theorem Passes.fresh {state final : State} {text : Text} {tokens : List Token}
    (passes : Passes state text final tokens) : final.fresh = true := by
  induction passes with
  | here fresh => exact fresh
  | goOn _ _ _ inductionHypothesis => exact inductionHypothesis

/-- What follows a line start is read from there, whatever it is. -/
theorem Passes.reads_append {state final : State} {front : Text} {passed : List Token}
    (passes : Passes state front final passed) (back : Text) (tokens : List Token) :
    Reads state (front ++ back) tokens ↔
      ∃ others, Reads final back others ∧ tokens = passed ++ others := by
  induction passes generalizing tokens with
  | here _ => simp
  | @goOn state next final front rest found passed before behind ends moves later
      inductionHypothesis =>
      have goesOn : rest ≠ [] ∨ next.fresh = true := by
        cases later with
        | here fresh => exact .inr fresh
        | goOn restEnds _ _ => exact .inl restEnds.ne_nil
      rw [Reads.of_goOn ((step_local moves).2 ends goesOn back)]
      constructor
      · rintro ⟨others, reads, rfl⟩
        obtain ⟨last, finishes, rfl⟩ := (inductionHypothesis others).mp reads
        exact ⟨last, finishes, (List.append_assoc _ _ _).symm⟩
      · rintro ⟨others, reads, rfl⟩
        exact ⟨_, (inductionHypothesis _).mpr ⟨others, reads, rfl⟩, List.append_assoc _ _ _⟩

/-- Twice the length of the text, and one more where a line starts. -/
def remaining (state : State) (text : Text) : Nat :=
  2 * text.length + if state.fresh then 1 else 0

theorem remaining_of_step {state next : State} {text rest : Text} {found : List Token}
    {before behind : Nat} (moves : step state text = some (.goOn found before behind next rest)) :
    remaining next rest < remaining state text := by
  obtain ⟨⟨taken, rfl, progress⟩, -⟩ := step_local moves
  unfold remaining
  rw [List.length_append]
  rcases progress with nonempty | ⟨fresh, inside⟩
  · have longer := List.length_pos_iff.mpr nonempty
    split <;> split <;> omega
  · rw [if_pos fresh, if_neg (by simp [inside])]
    omega

theorem Reads.tokensFrom {state : State} {text : Text} {tokens : List Token}
    (reads : Reads state text tokens) {fuel : Nat} (enough : remaining state text < fuel)
    (line : Nat) :
    ∃ placed, tokensFrom fuel line state text = some placed ∧
      placed.map PlacedToken.token = tokens := by
  induction reads generalizing fuel line with
  | finish finishes =>
      obtain ⟨fuel, rfl⟩ := Nat.exists_eq_succ_of_ne_zero (Nat.ne_zero_of_lt enough)
      exact ⟨_, by rw [Lexer.tokensFrom, finishes], rfl⟩
  | @goOn state next text rest found tokens before behind moves _ inductionHypothesis =>
      obtain ⟨fuel, rfl⟩ := Nat.exists_eq_succ_of_ne_zero (Nat.ne_zero_of_lt enough)
      have fewer := remaining_of_step moves
      obtain ⟨placed, isRead, same⟩ :=
        @inductionHypothesis fuel (by omega) (line + before + behind)
      refine ⟨_, by rw [Lexer.tokensFrom, moves]; simp only [isRead]; rfl, ?_⟩
      rw [List.map_append, same, List.map_map]
      exact congrArg (· ++ tokens) (List.map_id found)

/-- An induction over the steps that give the tokens of a text. -/
theorem tokensFrom_induction {motive : Nat → State → Text → List PlacedToken → Prop}
    (finish : ∀ {line state text}, step state text = some .finish →
      motive line state text [⟨.finish, line⟩])
    (goOn : ∀ {line state text found before behind next rest others},
      step state text = some (.goOn found before behind next rest) →
      motive (line + before + behind) next rest others →
      motive line state text (found.map (⟨·, line + before⟩) ++ others))
    {fuel line : Nat} {state : State} {text : Text} {placed : List PlacedToken}
    (isRead : tokensFrom fuel line state text = some placed) : motive line state text placed := by
  induction fuel generalizing line state text placed with
  | zero => exact absurd isRead (by simp [tokensFrom])
  | succ fuel inductionHypothesis =>
      rw [tokensFrom] at isRead
      split at isRead
      · exact absurd isRead (by simp)
      · next finishes =>
          obtain rfl := Option.some.inj isRead
          exact finish finishes
      · next found before behind next rest moves =>
          obtain ⟨others, later, rfl⟩ := Option.map_eq_some_iff.mp isRead
          exact goOn moves (inductionHypothesis later)

theorem reads_of_tokensFrom {fuel line : Nat} {state : State} {text : Text}
    {placed : List PlacedToken} (isRead : tokensFrom fuel line state text = some placed) :
    Reads state text (placed.map PlacedToken.token) := by
  refine @tokensFrom_induction (fun _ state text placed =>
    Reads state text (placed.map PlacedToken.token)) .finish ?_ _ _ _ _ _ isRead
  intro line state text found before behind next rest others moves reads
  have whole := Reads.goOn moves reads
  rw [List.map_append, List.map_map]
  rwa [← List.map_id found] at whole

end SchemaDoc.Source.Lexer
