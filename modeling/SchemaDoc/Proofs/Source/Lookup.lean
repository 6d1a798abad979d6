import SchemaDoc.Proofs.Source.LineEnds
import SchemaDoc.Source.Lookup

/-!
Contract: what a source file is read from.

A file is read from its tokens alone (`SourceFile.read_eq_ok_iff`), and comments at a line start
are no part of them (`gives_append_comments`). Where a line starts is said by the text in front of
it (`AtLineStart`): a line of the text is none that starts inside a string or behind a
continuation.
-/

namespace SchemaDoc.Source

open Lexer

/-- The source text has these tokens. -/
def Gives (source : Text) (tokens : List Token) : Prop :=
  Reads .start (normalizeLineEnds source) tokens

/-- A line of a program starts behind the text. -/
def AtLineStart (source : Text) : Prop :=
  ∃ state passed, Passes .start (foldLineEnds source) state passed

/-- The text stands behind the one before as comments and blank lines of a program. -/
def ReadsAsComments (before text : Text) : Prop :=
  AtLineStart before ∧ onlyComments text = true

/-! ## Files -/

theorem gives_iff {source : Text} {tokens : List Token} :
    Gives source tokens ↔
      ∃ placed, Source.tokens source = some placed ∧ placed.map PlacedToken.token = tokens := by
  constructor
  · intro gives
    refine Reads.tokensFrom gives ?_ 1
    change 2 * _ + 1 < 2 * _ + 2
    omega
  · rintro ⟨placed, isRead, rfl⟩
    exact reads_of_tokensFrom isRead

/-- A file that was read has the statements of its tokens, and their lines. -/
theorem SourceFile.tokens_of_read {nameOf : Text → Option Nat} {source : Text} {file : SourceFile}
    (isRead : SourceFile.read nameOf source = .ok file) :
    ∃ placed, Source.tokens source = some placed ∧
      statements? nameOf (placed.map PlacedToken.token) = some file.statements ∧
        file.lines = placed.map PlacedToken.line := by
  unfold SourceFile.read at isRead
  split at isRead
  · exact absurd isRead (by simp)
  · split at isRead
    · exact absurd isRead (by simp)
    · next placed areTokens =>
        split at isRead
        · exact absurd isRead (by simp)
        · next statements parsed =>
            obtain rfl := Except.ok.inj isRead
            exact ⟨placed, areTokens, parsed, rfl⟩

/-- A file has the statements of its tokens, if no character of it is null. -/
theorem SourceFile.read_eq_ok_iff {nameOf : Text → Option Nat} {source : Text}
    {statements : List Stmt} :
    (∃ file, SourceFile.read nameOf source = .ok file ∧ file.statements = statements) ↔
      Char.ofNat 0 ∉ source ∧
        ∃ tokens, Gives source tokens ∧ statements? nameOf tokens = some statements := by
  unfold SourceFile.read
  by_cases null : Char.ofNat 0 ∈ source
  · simp [null]
  · rw [if_neg (by simpa using null)]
    constructor
    · rintro ⟨file, isRead, rfl⟩
      refine ⟨null, ?_⟩
      split at isRead
      · exact absurd isRead (by simp)
      · next placed found =>
          split at isRead
          · exact absurd isRead (by simp)
          · next statements parsed =>
              obtain rfl := Except.ok.inj isRead
              exact ⟨_, gives_iff.mpr ⟨placed, found, rfl⟩, parsed⟩
    · rintro ⟨-, tokens, gives, parsed⟩
      obtain ⟨placed, found, rfl⟩ := gives_iff.mp gives
      rw [found]
      simp only [parsed]
      exact ⟨_, rfl, rfl⟩

/-! ## Comments at a line start -/

/-- Comments that end a program give no tokens. -/
theorem gives_last_comments {before run : Text} {state : State} {passed : List Token}
    (whole : WholeLines before) (passes : Passes .start (foldLineEnds before) state passed)
    (comments : onlyComments run = true) (tokens : List Token) :
    Gives (before ++ run) tokens ↔ ∃ others, Reads state [] others ∧ tokens = passed ++ others := by
  have skipped : ∀ {last : Text}, '\r' ∉ last → WholeLines last → onlyComments last = true →
      ∀ others, Reads state last others ↔ Reads state [] others := by
    intro last noReturn lastWhole lastComments others
    have appended := Reads.comments_append passes.fresh noReturn lastWhole lastComments [] others
    rwa [List.append_nil] at appended
  unfold Gives
  by_cases isEmpty : run = []
  · subst isEmpty
    rw [List.append_nil]
    rcases (normalizeLineEnds_eq before).2 with same | longer
    · rw [same, ← List.append_nil (foldLineEnds before), passes.reads_append]
    · rw [longer, passes.reads_append]
      simp only [@skipped ['\n'] (by decide) (.inr rfl) (by decide)]
  · rw [normalizeLineEnds_append whole isEmpty, passes.reads_append]
    simp only [skipped (return_not_mem_normalizeLineEnds run)
      (.inr (normalizeLineEnds_eq run).1) (onlyComments_normalizeLineEnds comments)]

/-- Comments and blank lines at a line start give no tokens. -/
theorem gives_append_comments {before run rest : Text} (whole : WholeLines before)
    (comments : ReadsAsComments before run) (runWhole : rest ≠ [] → WholeLines run)
    (tokens : List Token) :
    Gives (before ++ (run ++ rest)) tokens ↔ Gives (before ++ rest) tokens := by
  obtain ⟨⟨state, passed, passes⟩, runComments⟩ := comments
  by_cases isLast : rest = []
  · subst isLast
    rw [List.append_nil, gives_last_comments whole passes runComments,
      gives_last_comments whole passes rfl]
  · have longer : run ++ rest ≠ [] := List.append_ne_nil_of_right_ne_nil _ isLast
    have skipped := Reads.comments_append passes.fresh (return_not_mem_foldLineEnds run)
      (runWhole isLast).foldLineEnds
      ((onlyComments_foldLineEnds run).trans runComments) (normalizeLineEnds rest)
    unfold Gives
    rw [normalizeLineEnds_append whole longer, normalizeLineEnds_append whole isLast,
      normalizeLineEnds_append (runWhole isLast) isLast, passes.reads_append, passes.reads_append]
    simp only [skipped]

end SchemaDoc.Source
