import SchemaDoc.Text.Basic

/-!
Contract: the laws of trimming, and of cutting at a character.

White space in front of a text and behind it is lost, and nothing else: a text that starts and
ends with other characters is found again inside any white space around it. Nothing is lost where a
text is cut into pieces (`join_splitOnChar`), and texts that are joined by the character are cut one by one
(`splitOnChar_append`).
-/

namespace SchemaDoc.Text

/-- The text is white space. -/
def Blank (text : Text) : Prop :=
  ∀ c ∈ text, isBlank c = true

instance (text : Text) : Decidable (Blank text) :=
  decidable_of_iff (text.all isBlank) (by simp [Blank])

theorem Blank.not_mem {text : Text} (blank : Blank text) {c : Char} (solid : isBlank c = false) :
    c ∉ text := by
  intro member
  rw [blank c member] at solid
  exact absurd solid (by decide)

theorem blank_margin (text : Text) : Blank (margin text) := by
  intro c member
  exact List.all_eq_true.mp List.all_takeWhile c member

theorem trimStart_blank_append {blank : Text} (isBlank : Blank blank) (rest : Text) :
    trimStart (blank ++ rest) = trimStart rest :=
  List.dropWhile_append_of_pos isBlank

theorem trimStart_solid {c : Char} (solid : isBlank c = false) (rest : Text) :
    trimStart (c :: rest) = c :: rest := by
  rw [trimStart, List.dropWhile_cons_of_neg (by simp [solid])]

theorem trimEnd_append_blank {blank : Text} (isBlank : Blank blank) (front : Text) :
    trimEnd (front ++ blank) = trimEnd front := by
  rw [trimEnd, List.reverse_append,
    List.dropWhile_append_of_pos fun c member => isBlank c (List.mem_reverse.mp member)]
  rfl

theorem trimEnd_solid {c : Char} (solid : isBlank c = false) (front : Text) :
    trimEnd (front ++ [c]) = front ++ [c] := by
  rw [trimEnd, List.reverse_append, List.reverse_singleton, List.singleton_append,
    List.dropWhile_cons_of_neg (by simp [solid]), List.reverse_cons, List.reverse_reverse]

/-- Trimming the end leaves the start of the text. -/
theorem trimEnd_prefix (text : Text) : (trimEnd text).IsPrefix text := by
  have suffix : (text.reverse.dropWhile isBlank).IsSuffix text.reverse :=
    List.dropWhile_suffix isBlank
  exact List.reverse_suffix.mp (by simpa [trimEnd] using suffix)

/-- Trimming the end keeps what stands in front of the last solid character. -/
theorem trimEnd_solid_append {c : Char} (solid : isBlank c = false) (front back : Text) :
    trimEnd (front ++ c :: back) = front ++ c :: trimEnd back := by
  have kept : ∀ text : Text,
      (text ++ c :: front.reverse).dropWhile isBlank =
        text.dropWhile isBlank ++ c :: front.reverse := by
    intro text
    induction text with
    | nil => simp [solid]
    | cons d text inductionHypothesis =>
        by_cases blank : isBlank d = true
        · rw [List.cons_append, List.dropWhile_cons_of_pos blank, inductionHypothesis,
            List.dropWhile_cons_of_pos blank]
        · rw [List.cons_append, List.dropWhile_cons_of_neg blank,
            List.dropWhile_cons_of_neg blank, List.cons_append]
  have reversed : (front ++ c :: back).reverse = back.reverse ++ c :: front.reverse := by simp
  rw [trimEnd, reversed, kept]
  simp [trimEnd]

/-- A text whose trimmed form starts with a character starts with it behind its margin. -/
theorem head_trimStart_of_trim {text rest : Text} {c : Char} (trimmed : trim text = c :: rest) :
    (trimStart text).head? = some c := by
  obtain ⟨back, whole⟩ := trimEnd_prefix (trimStart text)
  rw [← whole]
  change (trim text ++ back).head? = some c
  rw [trimmed]
  rfl

/-! ## Openings -/

theorem after?_append (start rest : Text) : after? start (start ++ rest) = some rest := by
  rw [after?, if_pos (List.isPrefixOf_iff_prefix.mpr (List.prefix_append start rest)), List.drop_left]

theorem isInfix_iff {needle text : Text} : isInfix needle text = true ↔ needle <:+: text := by
  induction text with
  | nil => rw [isInfix, List.isEmpty_iff, List.infix_nil]
  | cons c rest inductionHypothesis =>
      rw [isInfix, Bool.or_eq_true, List.isPrefixOf_iff_prefix, inductionHypothesis, List.infix_cons_iff]

/-! ## First occurrences -/

theorem takeWhile_append_cons {front : Text} {c : Char} (absent : c ∉ front) (back : Text) :
    (front ++ c :: back).takeWhile (· != c) = front := by
  have passed : ∀ d ∈ front, (d != c) = true := by
    intro d member
    simp only [bne_iff_ne]
    intro isEnd
    exact absent (isEnd ▸ member)
  rw [List.takeWhile_append_of_pos passed, List.takeWhile_cons_of_neg (by simp), List.append_nil]

/-- The text in front of the first occurrence of a character does not depend on what is behind it. -/
theorem eq_of_append_cons {front other back rest : Text} {c : Char} (absent : c ∉ front)
    (absentOther : c ∉ other) (same : front ++ c :: back = other ++ c :: rest) :
    front = other ∧ back = rest := by
  have sameFront : front = other := by
    rw [← takeWhile_append_cons absent back, same, takeWhile_append_cons absentOther rest]
  subst sameFront
  exact ⟨rfl, (List.cons.inj (List.append_cancel_left same)).2⟩

/-! ## Pieces -/

theorem splitOnChar_ne_nil (separator : Char) (text : Text) : splitOnChar separator text ≠ [] := by
  cases text with
  | nil => simp [splitOnChar]
  | cons c rest =>
      rw [splitOnChar]
      split
      · simp
      · split <;> simp

/-- The pieces between the occurrences of a character make up the text. -/
theorem join_splitOnChar (separator : Char) (text : Text) :
    join [separator] (splitOnChar separator text) = text := by
  induction text with
  | nil => rfl
  | cons c rest inductionHypothesis =>
      rw [splitOnChar]
      cases pieces : splitOnChar separator rest with
      | nil => exact absurd pieces (splitOnChar_ne_nil separator rest)
      | cons first others =>
          rw [pieces] at inductionHypothesis
          split
          · next same => simp [join, inductionHypothesis, same]
          · rw [← inductionHypothesis]
            cases others <;> rfl

theorem mem_join_of_mem {separator piece : Text} {pieces : List Text} (member : piece ∈ pieces)
    {c : Char} (inside : c ∈ piece) : c ∈ join separator pieces := by
  induction pieces with
  | nil => contradiction
  | cons first rest inductionHypothesis =>
      cases rest with
      | nil => rwa [List.mem_singleton.mp member] at inside
      | cons second others =>
          rw [show join separator (first :: second :: others) =
            first ++ separator ++ join separator (second :: others) from rfl]
          rcases List.mem_cons.mp member with rfl | later
          · exact List.mem_append_left _ (List.mem_append_left _ inside)
          · exact List.mem_append_right _ (inductionHypothesis later)

/-- The pieces hold characters of the text alone. -/
theorem mem_of_mem_splitOnChar {text piece : Text} {separator : Char}
    (member : piece ∈ splitOnChar separator text) {c : Char} (inside : c ∈ piece) : c ∈ text := by
  rw [← join_splitOnChar separator text]
  exact mem_join_of_mem member inside

theorem not_mem_of_mem_splitOnChar {text piece : Text} {separator : Char}
    (member : piece ∈ splitOnChar separator text) : separator ∉ piece := by
  induction text generalizing piece with
  | nil =>
      rw [List.mem_singleton.mp member]
      exact List.not_mem_nil
  | cons c rest inductionHypothesis =>
      unfold splitOnChar at member
      split at member
      · rcases List.mem_cons.mp member with rfl | later
        · exact List.not_mem_nil
        · exact inductionHypothesis later
      · next isOther =>
          split at member
          · rw [List.mem_singleton.mp member]
            exact fun isIn => isOther (List.mem_singleton.mp isIn).symm
          · next first others pieces =>
              rw [pieces] at inductionHypothesis
              rcases List.mem_cons.mp member with rfl | later
              · intro isIn
                rcases List.mem_cons.mp isIn with rfl | inside
                · exact isOther rfl
                · exact inductionHypothesis List.mem_cons_self inside
              · exact inductionHypothesis (List.mem_cons_of_mem _ later)

/-- A text without the character is one piece. -/
theorem splitOnChar_of_not_mem {text : Text} {separator : Char} (whole : separator ∉ text) :
    splitOnChar separator text = [text] := by
  induction text with
  | nil => rfl
  | cons c rest inductionHypothesis =>
      rw [List.mem_cons, not_or] at whole
      rw [splitOnChar, if_neg (Ne.symm whole.1), inductionHypothesis whole.2]

/-- The pieces on both sides of the character are those of the whole. -/
theorem splitOnChar_append (separator : Char) (front back : Text) :
    splitOnChar separator (front ++ separator :: back) =
      splitOnChar separator front ++ splitOnChar separator back := by
  induction front with
  | nil => simp [splitOnChar]
  | cons c rest inductionHypothesis =>
      rw [List.cons_append, splitOnChar, splitOnChar, inductionHypothesis]
      split
      · rfl
      · cases pieces : splitOnChar separator rest with
        | nil => exact absurd pieces (splitOnChar_ne_nil separator rest)
        | cons first others => rfl

/-- Ended lines are the pieces between their ends, with an empty piece behind the last one. -/
theorem splitOnChar_flatMap {separator : Char} {lines : List Text}
    (whole : ∀ line ∈ lines, separator ∉ line) :
    splitOnChar separator (lines.flatMap (· ++ [separator])) = lines ++ [[]] := by
  induction lines with
  | nil => rfl
  | cons line rest inductionHypothesis =>
      rw [List.flatMap_cons, List.append_assoc, List.singleton_append, splitOnChar_append,
        splitOnChar_of_not_mem (whole line List.mem_cons_self),
        inductionHypothesis fun other member => whole other (List.mem_cons_of_mem line member)]
      rfl

end SchemaDoc.Text
