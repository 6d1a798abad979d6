import Mathlib.Data.List.Infix
import SchemaDoc.Proofs.Text.Blank
import SchemaDoc.Text.Case

/-!
Contract: the laws of lowercasing.

No character of a lowercase text is one that lowercasing changes, so a second lowercasing changes nothing
(`lower_lower`). What a character becomes depends on its neighbours in one point alone, which of the two
small sigmas a capital sigma gives; a word without these letters that stands in a lowercase text therefore
stands in the lowercase form of every text around it (`isInfix_lower_of_isInfix`).
-/

namespace SchemaDoc.Text

/-! ## The table of lowercase forms -/

namespace Case

/-- No code point of the first run is mapped to one of the second run. -/
def Run.misses (run other : Run) : Bool :=
  run.target run.last < other.first || other.last < run.target run.first ||
    -- The targets lie between the code points of the other run.
    (other.stride == 2 && (run.stride == 2 || run.first == run.last) && 0 ≤ run.shift &&
      (run.target run.first + other.first) % 2 == 1)

theorem Run.holds_iff {run : Run} {code : Nat} :
    run.holds code = true ↔
      run.first ≤ code ∧ code ≤ run.last ∧ (code - run.first) % run.stride = 0 := by
  rw [Run.holds, Bool.and_eq_true, Bool.and_eq_true, decide_eq_true_eq, decide_eq_true_eq,
    beq_iff_eq, and_assoc]

theorem Run.target_eq (run : Run) (code : Nat) : run.target code = ((code : Int) + run.shift).toNat :=
  rfl

theorem Run.not_holds_target {run other : Run} (misses : run.misses other = true) {code : Nat}
    (holds : run.holds code = true) : other.holds (run.target code) = false := by
  simp only [Run.misses, Bool.or_eq_true, Bool.and_eq_true, decide_eq_true_eq, beq_iff_eq] at misses
  simp only [Run.target_eq] at misses
  obtain ⟨first, last, step⟩ := Run.holds_iff.mp holds
  rw [Bool.eq_false_iff, ne_eq, Run.holds_iff, Run.target_eq]
  rintro ⟨above, below, inStep⟩
  rcases misses with (low | high) | ⟨⟨⟨alternate, even⟩, forward⟩, odd⟩
  · omega
  · omega
  · rw [alternate] at inStep
    rcases even with alternates | single
    · rw [alternates] at step
      omega
    · omega

/-- The dotted capital I, which has a lowercase form of two characters. -/
def dotted : Run := ⟨0x130, 0x130, 1, 0⟩

/-- Lowercasing changes the code point. -/
def changes (code : Nat) : Bool :=
  (dotted :: lowerRuns).any (·.holds code)

/-- What the table maps to is in no run of the table. -/
theorem lowerRuns_miss : (lowerRuns.all fun run => (dotted :: lowerRuns).all run.misses) = true := by
  decide +kernel

theorem changes_eq_false_iff {code : Nat} :
    changes code = false ↔ ∀ run ∈ dotted :: lowerRuns, run.holds code = false := by
  unfold changes
  rw [List.any_eq_false]
  simp only [Bool.not_eq_true]

theorem mapCode_eq_self {code : Nat} (kept : changes code = false) : mapCode lowerRuns code = code := by
  have absent : lowerRuns.find? (·.holds code) = none := by
    rw [List.find?_eq_none]
    intro run member
    simp [changes_eq_false_iff.mp kept run (List.mem_cons_of_mem _ member)]
  rw [mapCode, absent]

theorem changes_mapCode {code : Nat} (plain : dotted.holds code = false) :
    changes (mapCode lowerRuns code) = false := by
  unfold mapCode
  split
  · next run found =>
      have misses := List.all_eq_true.mp lowerRuns_miss run (List.mem_of_find?_eq_some found)
      rw [changes_eq_false_iff]
      intro other member
      have held : run.holds code = true := List.find?_some (p := (Run.holds · code)) found
      exact Run.not_holds_target (List.all_eq_true.mp misses other member) held
  · next absent =>
      rw [changes_eq_false_iff]
      intro run member
      rcases List.mem_cons.mp member with rfl | listed
      · exact plain
      · simpa using List.find?_eq_none.mp absent run listed

end Case

/-- A code point that is no character counts as the null character. -/
theorem toNat_ofNat (code : Nat) : (Char.ofNat code).toNat = code ∨ (Char.ofNat code).toNat = 0 := by
  by_cases valid : code.isValidChar
  · rw [Char.ofNat, dif_pos valid]
    exact .inl rfl
  · rw [Char.ofNat, dif_neg valid]
    exact .inr rfl

/-! ## Lowercase texts -/

/-- Lowercasing leaves the character as it is, wherever it stands. -/
def IsLowered (c : Char) : Prop :=
  Case.changes c.toNat = false

theorem isLowered_ofNat {code : Nat} (kept : Case.changes code = false) :
    IsLowered (Char.ofNat code) := by
  unfold IsLowered
  rcases toNat_ofNat code with same | null
  · rw [same]
    exact kept
  · rw [null]
    decide +kernel

theorem holds_dotted {code : Nat} : Case.dotted.holds code = true ↔ code = 0x130 := by
  rw [Case.Run.holds_iff]
  dsimp only [Case.dotted]
  omega

theorem isLowered_of_mem_lowerChar {c d : Char} (member : d ∈ lowerChar c) : IsLowered d := by
  unfold lowerChar at member
  split at member
  · rcases List.mem_pair.mp member with rfl | rfl
    · exact isLowered_ofNat (by decide +kernel)
    · exact isLowered_ofNat (by decide +kernel)
  · next plain =>
      rw [List.mem_singleton.mp member]
      exact isLowered_ofNat (Case.changes_mapCode (Bool.eq_false_iff.mpr (mt holds_dotted.mp plain)))

theorem isLowered_of_mem_lowerAfter {before text : Text} {d : Char} (member : d ∈ lowerAfter before text) :
    IsLowered d := by
  induction text generalizing before with
  | nil => exact absurd member List.not_mem_nil
  | cons c rest inductionHypothesis =>
      rw [lowerAfter] at member
      split at member
      · rcases List.mem_cons.mp member with rfl | behind
        · split
          · exact isLowered_ofNat (by decide +kernel)
          · exact isLowered_ofNat (by decide +kernel)
        · exact inductionHypothesis behind
      · rcases List.mem_append.mp member with front | behind
        · exact isLowered_of_mem_lowerChar front
        · exact inductionHypothesis behind

theorem lowerChar_eq_self {c : Char} (lowered : IsLowered c) : lowerChar c = [c] := by
  have kept := lowered
  unfold IsLowered at kept
  have plain : c.toNat ≠ 0x130 := by
    intro isDotted
    have held := Case.changes_eq_false_iff.mp kept Case.dotted List.mem_cons_self
    rw [holds_dotted.mpr isDotted] at held
    exact absurd held (by decide)
  rw [lowerChar, if_neg plain, Case.mapCode_eq_self kept, Char.ofNat_toNat]

theorem lowerAfter_eq_self {before text : Text} (lowered : ∀ c ∈ text, IsLowered c) :
    lowerAfter before text = text := by
  induction text generalizing before with
  | nil => rfl
  | cons c rest inductionHypothesis =>
      have kept := lowered c List.mem_cons_self
      have noSigma : c.toNat ≠ 0x3A3 := by
        intro isSigma
        rw [IsLowered, isSigma] at kept
        exact absurd kept (by decide +kernel)
      rw [lowerAfter, if_neg noSigma, lowerChar_eq_self kept,
        inductionHypothesis fun d member => lowered d (List.mem_cons_of_mem c member)]
      rfl

/-- Lowercasing a second time changes nothing. -/
theorem lower_lower (text : Text) : lower (lower text) = lower text :=
  lowerAfter_eq_self fun _ member => isLowered_of_mem_lowerAfter member

/-! ## ASCII texts -/

theorem lowerChar_of_ascii {c : Char} (ascii : c.toNat < 128) : lowerChar c = [c.toLower] := by
  have table : ∀ code < 128, lowerChar (Char.ofNat code) = [(Char.ofNat code).toLower] := by
    decide +kernel
  have here := table c.toNat ascii
  rwa [Char.ofNat_toNat] at here

theorem lowerAfter_of_ascii {before text : Text} (ascii : ∀ c ∈ text, c.toNat < 128) :
    lowerAfter before text = text.map Char.toLower := by
  induction text generalizing before with
  | nil => rfl
  | cons c rest inductionHypothesis =>
      have below : c.toNat < 128 := ascii c List.mem_cons_self
      rw [lowerAfter, if_neg (by omega), lowerChar_of_ascii below,
        inductionHypothesis fun d member => ascii d (List.mem_cons_of_mem c member)]
      rfl

/-- Only ASCII letters give an ASCII character when the case of ASCII letters is dropped. -/
theorem ascii_of_toLower {c : Char} (ascii : c.toLower.toNat < 128) : c.toNat < 128 := by
  unfold Char.toLower at ascii
  split at ascii
  · next isCapital =>
      have below : c.val.toNat ≤ 90 := UInt32.le_iff_toNat_le.mp isCapital.2
      exact Nat.lt_of_le_of_lt below (by decide)
  · exact ascii

/-- A text that is an ASCII word but for the case of ASCII letters has that word for its lowercase form. -/
theorem lower_of_map_toLower {text word : Text} (ascii : ∀ c ∈ word, c.toNat < 128)
    (same : text.map Char.toLower = word) : lower text = word := by
  rw [lower, lowerAfter_of_ascii, same]
  intro c member
  exact ascii_of_toLower (ascii c.toLower (same ▸ List.mem_map.mpr ⟨c, member, rfl⟩))

/-! ## Lowercase texts in lowercase texts -/

/-- The small sigma for the one that ends words, and any other character itself. -/
def medial (c : Char) : Char :=
  if c = 'ς' then 'σ' else c

/-- But for the sigma at the end of a word, characters are lowercased one by one. -/
theorem map_medial_lowerAfter (before text : Text) :
    (lowerAfter before text).map medial = text.flatMap fun c => (lowerChar c).map medial := by
  induction text generalizing before with
  | nil => rfl
  | cons c rest inductionHypothesis =>
      rw [lowerAfter, List.flatMap_cons]
      split
      · next isSigma =>
          -- Whichever sigma the neighbours lead to, `medial` makes it the one that stands alone.
          have sigma : c = 'Σ' := Char.toNat_inj.mp isSigma
          have alone : lowerChar 'Σ' = ['σ'] := by decide +kernel
          rw [List.map_cons, inductionHypothesis, sigma, alone]
          split <;> rfl
      · rw [List.map_append, inductionHypothesis]

theorem medial_of_ne {c : Char} (notFinal : c ≠ 'ς') : medial c = c :=
  if_neg notFinal

/-- No letter of the word is a small sigma. -/
def LacksSigma (word : Text) : Prop :=
  'σ' ∉ word ∧ 'ς' ∉ word

instance (word : Text) : Decidable (LacksSigma word) :=
  inferInstanceAs (Decidable (_ ∧ _))

/-- In the texts that `medial` leaves, words without a small sigma stand where they stood before. -/
theorem isInfix_map_medial_iff {word text : Text} (lacks : LacksSigma word) :
    word <:+: text.map medial ↔ word <:+: text := by
  constructor
  · rintro ⟨front, back, cut⟩
    rw [eq_comm, List.map_eq_append_iff] at cut
    obtain ⟨start, rest, rfl, isStart, -⟩ := cut
    obtain ⟨before, same, rfl, -, isWord⟩ := List.map_eq_append_iff.mp isStart
    have kept : same = word := by
      rw [← isWord, List.map_congr_left (g := id), List.map_id]
      intro c member
      by_contra moved
      have isFinal : c = 'ς' := by
        by_contra notFinal
        exact moved (medial_of_ne notFinal)
      refine lacks.1 (isWord ▸ List.mem_map.mpr ⟨c, member, ?_⟩)
      rw [isFinal]
      rfl
    rw [kept]
    exact ⟨before, rest, rfl⟩
  · intro stands
    have kept : word.map medial = word := by
      rw [List.map_congr_left (g := id), List.map_id]
      intro c member
      exact medial_of_ne (ne_of_mem_of_not_mem member lacks.2)
    have mapped := stands.map medial
    rwa [kept] at mapped

/-- What stands in the lowercase form of a part stands in the lowercase form of the whole. -/
theorem isInfix_lower_of_isInfix {word part whole : Text} (lacks : LacksSigma word)
    (inside : part <:+: whole) (stands : word <:+: lower part) : word <:+: lower whole := by
  rw [← isInfix_map_medial_iff lacks, lower, map_medial_lowerAfter] at stands ⊢
  exact stands.trans (inside.flatMap _)

end SchemaDoc.Text
