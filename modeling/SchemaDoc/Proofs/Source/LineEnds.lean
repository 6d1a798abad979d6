import SchemaDoc.Proofs.Source.Lexer

/-!
Contract: the line ends of a source text, and the lines that hold no token.

Owns:
- `foldLineEnds`, the line ends as line feeds without the one that reading adds at the very end;
- `onlyComments`, the texts of comments and blank lines;
- that such a text changes no token where a line starts (`Reads.comments_append`).
-/

namespace SchemaDoc.Source

/-- Line ends as line feeds. -/
def foldLineEnds : Text → Text
  | [] => []
  | '\r' :: '\n' :: rest => '\n' :: foldLineEnds rest
  | '\r' :: rest => '\n' :: foldLineEnds rest
  | c :: rest => c :: foldLineEnds rest

/-- The character ends a line of a source text. -/
def isLineEnd (c : Char) : Bool :=
  c = '\n' || c = '\r'

/-- The text has nothing but comments and gaps between its line ends; `open_` says that it starts
inside a comment. -/
def onlyCommentsFrom (open_ : Bool) : Text → Bool
  | [] => true
  | c :: rest =>
    if isLineEnd c then onlyCommentsFrom false rest
    else if open_ then onlyCommentsFrom true rest
    else if c = '#' then onlyCommentsFrom true rest
    else Lexer.isGap c && onlyCommentsFrom false rest

/-- The text has nothing but comments and gaps between its line ends. -/
def onlyComments (text : Text) : Bool :=
  onlyCommentsFrom false text

/-! ## Line ends -/

theorem foldLineEnds_of_ne {c : Char} (notReturn : c ≠ '\r') (rest : Text) :
    foldLineEnds (c :: rest) = c :: foldLineEnds rest := by
  rw [foldLineEnds]
  · exact fun _ isReturn _ => notReturn isReturn
  · exact fun isReturn => notReturn isReturn

theorem return_not_mem_foldLineEnds (text : Text) : '\r' ∉ foldLineEnds text := by
  induction text using foldLineEnds.induct with
  | case1 => simp [foldLineEnds]
  | case2 rest inductionHypothesis =>
      rw [foldLineEnds]
      exact List.not_mem_cons_of_ne_of_not_mem (by decide) inductionHypothesis
  | case3 rest notFeed inductionHypothesis =>
      rw [foldLineEnds.eq_3 rest notFeed]
      exact List.not_mem_cons_of_ne_of_not_mem (by decide) inductionHypothesis
  | case4 c rest _ notReturn inductionHypothesis =>
      rw [foldLineEnds_of_ne notReturn]
      exact List.not_mem_cons_of_ne_of_not_mem (fun same => notReturn same.symm)
        inductionHypothesis

/-- The text consists of whole lines. -/
def WholeLines (text : Text) : Prop :=
  text = [] ∨ Lexer.EndsLine text

theorem WholeLines.of_append {front back : Text} (whole : WholeLines (front ++ back)) :
    WholeLines back := by
  rcases List.eq_nil_or_concat back with rfl | ⟨others, last, rfl⟩
  · exact .inl rfl
  · rcases whole with empty | ends
    · exact absurd empty (by simp)
    · exact .inr (.of_append (by simp) ends)

theorem endsLine_foldLineEnds {text : Text} (ends : Lexer.EndsLine text) :
    Lexer.EndsLine (foldLineEnds text) := by
  induction text using foldLineEnds.induct with
  | case1 => exact absurd rfl ends.ne_nil
  | case2 rest inductionHypothesis =>
      rw [foldLineEnds]
      by_cases isLast : rest = []
      · rw [isLast]
        rfl
      · exact (inductionHypothesis (@Lexer.EndsLine.of_append ['\r', '\n'] rest isLast ends)).cons _
  | case3 rest notFeed inductionHypothesis =>
      rw [foldLineEnds.eq_3 rest notFeed]
      exact (inductionHypothesis (ends.of_cons (by decide))).cons _
  | case4 c rest _ notReturn inductionHypothesis =>
      rw [foldLineEnds_of_ne notReturn]
      by_cases isLast : rest = []
      · rw [isLast] at ends ⊢
        exact ends
      · exact (inductionHypothesis (@Lexer.EndsLine.of_append [c] rest isLast ends)).cons c

theorem WholeLines.foldLineEnds {text : Text} (whole : WholeLines text) :
    WholeLines (foldLineEnds text) := by
  rcases whole with rfl | ends
  · exact .inl rfl
  · exact .inr (endsLine_foldLineEnds ends)

/-- Whole lines in front of a text are read by themselves. -/
theorem normalizeLineEnds_append {front back : Text} (whole : WholeLines front)
    (nonempty : back ≠ []) :
    normalizeLineEnds (front ++ back) = foldLineEnds front ++ normalizeLineEnds back := by
  have longer : ∀ {text : Text}, text ++ back = [] → False := by
    intro text empty
    exact nonempty (List.append_eq_nil_iff.mp empty).2
  induction front using foldLineEnds.induct with
  | case1 => rfl
  | case2 rest inductionHypothesis =>
      rw [foldLineEnds, List.cons_append, List.cons_append, normalizeLineEnds.eq_5 _ longer,
        inductionHypothesis (@WholeLines.of_append ['\r', '\n'] rest whole), List.cons_append]
  | case3 rest notFeed inductionHypothesis =>
      have rest_whole := @WholeLines.of_append ['\r'] rest whole
      cases rest with
      | nil => exact absurd whole (by simp [WholeLines, Lexer.EndsLine])
      | cons d rest =>
          have notFeed' : ∀ others, d :: rest ++ back = '\n' :: others → False := by
            intro others same
            exact notFeed rest (by rw [(List.cons.inj same).1])
          rw [foldLineEnds.eq_3 _ notFeed, List.cons_append, normalizeLineEnds.eq_6 _ longer
            (fun same => notFeed' [] same) notFeed', inductionHypothesis rest_whole,
            List.cons_append]
  | case4 c rest _ notReturn inductionHypothesis =>
      have rest_whole := @WholeLines.of_append [c] rest whole
      rw [foldLineEnds_of_ne notReturn, List.cons_append, normalizeLineEnds.eq_7 _ _
        (fun _ empty => longer empty) (fun isReturn => absurd isReturn notReturn)
        (fun isReturn => absurd isReturn notReturn) (fun _ isReturn => absurd isReturn notReturn)
        notReturn, inductionHypothesis rest_whole, List.cons_append]

/-- Reading adds a line feed at the very end, or nothing. -/
theorem normalizeLineEnds_eq (text : Text) :
    Lexer.EndsLine (normalizeLineEnds text) ∧
      (normalizeLineEnds text = foldLineEnds text ∨
        normalizeLineEnds text = foldLineEnds text ++ ['\n']) := by
  have cons : ∀ (c : Char) {front back : Text}, Lexer.EndsLine back ∧
      (back = front ∨ back = front ++ ['\n']) →
      Lexer.EndsLine (c :: back) ∧ (c :: back = c :: front ∨ c :: back = c :: front ++ ['\n']) := by
    rintro c front back ⟨ends, same | longer⟩
    · exact ⟨ends.cons c, .inl (by rw [same])⟩
    · exact ⟨ends.cons c, .inr (by rw [longer]; rfl)⟩
  induction text using normalizeLineEnds.induct with
  | case1 => exact ⟨rfl, .inr rfl⟩
  | case2 => exact ⟨rfl, .inl rfl⟩
  | case3 => exact ⟨rfl, .inl rfl⟩
  | case4 => exact ⟨rfl, .inr rfl⟩
  | case5 rest nonempty inductionHypothesis =>
      rw [normalizeLineEnds.eq_5 rest nonempty, foldLineEnds]
      exact cons _ inductionHypothesis
  | case6 rest nonempty notLast notFeed inductionHypothesis =>
      rw [normalizeLineEnds.eq_6 rest nonempty notLast notFeed, foldLineEnds.eq_3 rest notFeed]
      exact cons _ inductionHypothesis
  | case7 c rest notFeed notLast notPair notLonger notReturn inductionHypothesis =>
      rw [normalizeLineEnds.eq_7 c rest notFeed notLast notPair notLonger notReturn,
        foldLineEnds_of_ne notReturn]
      exact cons _ inductionHypothesis

theorem return_not_mem_normalizeLineEnds (text : Text) : '\r' ∉ normalizeLineEnds text := by
  have folded := return_not_mem_foldLineEnds text
  rcases (normalizeLineEnds_eq text).2 with same | longer
  · rwa [same]
  · rw [longer, List.mem_append, not_or]
    exact ⟨folded, by decide⟩

/-! ## Comments -/

/-- A line end closes the comment in front of it. -/
theorem onlyCommentsFrom_append {c : Char} (ends : isLineEnd c = true) (open_ : Bool)
    (front back : Text) :
    onlyCommentsFrom open_ (front ++ c :: back) =
      (onlyCommentsFrom open_ front && onlyComments back) := by
  induction front generalizing open_ with
  | nil => simp [onlyCommentsFrom, onlyComments, ends]
  | cons d front inductionHypothesis =>
      rw [List.cons_append, onlyCommentsFrom, onlyCommentsFrom]
      split
      · exact inductionHypothesis false
      · split
        · exact inductionHypothesis true
        · split
          · exact inductionHypothesis true
          · rw [inductionHypothesis false, Bool.and_assoc]

theorem onlyCommentsFrom_foldLineEnds (open_ : Bool) (text : Text) :
    onlyCommentsFrom open_ (foldLineEnds text) = onlyCommentsFrom open_ text := by
  induction text using foldLineEnds.induct generalizing open_ with
  | case1 => rfl
  | case2 rest inductionHypothesis =>
      rw [foldLineEnds]
      exact inductionHypothesis false
  | case3 rest notFeed inductionHypothesis =>
      rw [foldLineEnds.eq_3 rest notFeed]
      exact inductionHypothesis false
  | case4 c rest _ notReturn inductionHypothesis =>
      rw [foldLineEnds_of_ne notReturn, onlyCommentsFrom, onlyCommentsFrom, inductionHypothesis,
        inductionHypothesis]

theorem onlyComments_foldLineEnds (text : Text) :
    onlyComments (foldLineEnds text) = onlyComments text :=
  onlyCommentsFrom_foldLineEnds false text

theorem onlyComments_normalizeLineEnds {text : Text} (comments : onlyComments text = true) :
    onlyComments (normalizeLineEnds text) = true := by
  rcases (normalizeLineEnds_eq text).2 with same | longer
  · rw [same, onlyComments_foldLineEnds, comments]
  · rw [longer, onlyComments, onlyCommentsFrom_append (by decide), onlyCommentsFrom_foldLineEnds,
      ← onlyComments, comments]
    rfl

/-- A comment goes on to its line's end. -/
theorem onlyComments_comment {text : Text} (noEnd : ∀ c ∈ text, isLineEnd c = false) :
    onlyComments ('#' :: text) = true := by
  have inside : onlyCommentsFrom true text = true := by
    induction text with
    | nil => rfl
    | cons c text inductionHypothesis =>
        rw [onlyCommentsFrom, if_neg (by simp [noEnd c]), if_pos rfl]
        exact inductionHypothesis fun d member => noEnd d (List.mem_cons_of_mem c member)
  exact inside

namespace Lexer

theorem isLineEnd_eq_false {c : Char} (notFeed : c ≠ '\n') (notReturn : c ≠ '\r') :
    isLineEnd c = false := by
  simp [isLineEnd, notFeed, notReturn]

theorem onlyComments_behindLine {open_ : Bool} {text : Text} (noReturn : '\r' ∉ text)
    (comments : onlyCommentsFrom open_ text = true) : onlyComments (behindLine text) = true := by
  induction text generalizing open_ with
  | nil => rfl
  | cons c rest inductionHypothesis =>
      have restNoReturn : '\r' ∉ rest := fun member => noReturn (List.mem_cons_of_mem c member)
      by_cases isFeed : c = '\n'
      · subst isFeed
        exact comments
      · have inside := isLineEnd_eq_false isFeed fun isReturn => noReturn (by simp [isReturn])
        rw [behindLine_of_ne isFeed]
        rw [onlyCommentsFrom, if_neg (by simp [inside])] at comments
        split at comments
        · exact inductionHypothesis restNoReturn comments
        · split at comments
          · exact inductionHypothesis restNoReturn comments
          · exact inductionHypothesis restNoReturn (Bool.and_eq_true_iff.mp comments).2

/-- The white space in front of a comment or a blank line is passed. -/
theorem measure_comments {text : Text} (noReturn : '\r' ∉ text) (ends : EndsLine text)
    (comments : onlyComments text = true) (column narrow held passed : Nat) :
    ∃ margin, measure column narrow held passed text = some margin ∧ margin.passed = passed ∧
      (margin.rest.head? = some '#' ∨ margin.rest.head? = some '\n') ∧
      behindLine margin.rest = behindLine text := by
  induction text generalizing column narrow with
  | nil => exact absurd rfl ends.ne_nil
  | cons c rest inductionHypothesis =>
      by_cases isFeed : c = '\n'
      · subst isFeed
        exact ⟨_, measure_of_solid (by decide) (by decide) (by decide) (by decide) _ _ _ _ _,
          rfl, .inr rfl, rfl⟩
      · by_cases isComment : c = '#'
        · subst isComment
          exact ⟨_, measure_of_solid (by decide) (by decide) (by decide) (by decide) _ _ _ _ _,
            rfl, .inl rfl, rfl⟩
        · have inside := isLineEnd_eq_false isFeed fun isReturn => noReturn (by simp [isReturn])
          rw [onlyComments, onlyCommentsFrom, if_neg (by simp [inside]), if_neg (by simp),
            if_neg isComment, Bool.and_eq_true] at comments
          obtain ⟨gap, restComments⟩ := comments
          have inRest := inductionHypothesis
            (fun member => noReturn (List.mem_cons_of_mem c member)) (ends.of_cons isFeed)
            restComments
          rw [behindLine_of_ne isFeed]
          simp only [isGap, Bool.or_eq_true, decide_eq_true_eq] at gap
          rcases gap with (rfl | rfl) | rfl
          · rw [measure]
            exact inRest _ _
          · rw [measure]
            exact inRest _ _
          · rw [measure]
            exact inRest _ _

/-- A line without tokens is passed where a line starts. -/
theorem step_comments {state : State} (fresh : state.fresh = true) {text : Text}
    (noReturn : '\r' ∉ text) (ends : EndsLine text) (comments : onlyComments text = true) :
    step state text = some (.goOn [] 0 1 state (behindLine text)) := by
  obtain ⟨margin, measured, passed, head, same⟩ := measure_comments noReturn ends comments 0 0 0 0
  rw [step, if_pos fresh, measured, Option.bind_some, startLine, if_pos (by simpa using head),
    passed, same]

/-- Comments and blank lines change no token where a line starts. -/
theorem Reads.comments_append {state : State} (fresh : state.fresh = true) {run : Text}
    (noReturn : '\r' ∉ run) (whole : WholeLines run) (comments : onlyComments run = true)
    (rest : Text) (tokens : List Token) :
    Reads state (run ++ rest) tokens ↔ Reads state rest tokens := by
  induction size : run.length using Nat.strongRecOn generalizing run with
  | ind size inductionHypothesis =>
      subst size
      rcases whole with rfl | ends
      · exact Iff.rfl
      · have moves := step_comments fresh noReturn ends comments
        obtain ⟨⟨taken, split, progress⟩, movesOn⟩ := step_local moves
        have nonempty : taken ≠ [] := progress.resolve_right (by simp [fresh])
        have shorter : (behindLine run).length < run.length := by
          have longer := List.length_pos_iff.mpr nonempty
          have total := congrArg List.length split
          rw [List.length_append] at total
          omega
        have left : WholeLines (behindLine run) := by
          refine @WholeLines.of_append taken _ ?_
          rw [← split]
          exact .inr ends
        have leftNoReturn : '\r' ∉ behindLine run := by
          intro member
          exact noReturn (split ▸ List.mem_append_right taken member)
        have later := inductionHypothesis _ shorter leftNoReturn left
          (onlyComments_behindLine noReturn comments) rfl
        rw [Reads.of_goOn (movesOn ends (.inr fresh) rest), ← later]
        constructor
        · rintro ⟨others, reads, rfl⟩
          exact reads
        · exact fun reads => ⟨tokens, reads, rfl⟩

end Lexer

end SchemaDoc.Source
