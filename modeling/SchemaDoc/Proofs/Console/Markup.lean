import Mathlib.Data.List.TakeWhile
import SchemaDoc.Console.Markup

/-!
Contract: escaped texts between style tags.

An escaped text has no tag that counts (`isPlain_of_mem_piecesFrom_escape`): each tag of the text
stands behind an odd number of backslashes, and the escapes make no other one. A text that is
printed behind closed tags is therefore never refused (`exists_render_eq_ok`).
-/

namespace SchemaDoc.Console.Markup

/-- The character opens or closes a tag. -/
def isBracket (c : Char) : Bool :=
  c = '[' || c = ']'

/-- A text without brackets, as it stands behind an escaped one. -/
def Bracketless (text : Text) : Prop :=
  ∀ c ∈ text, isBracket c = false

/-! ## Tags -/

theorem find?_isBracket_eq {text : Text} :
    text.find? isBracket = (text.drop (text.takeWhile fun c => c != '[' && c != ']').length).head? := by
  induction text with
  | nil => rfl
  | cons c rest inductionHypothesis =>
      by_cases bracket : isBracket c = true
      · have stops : (c != '[' && c != ']') = false := by
          simp only [isBracket, Bool.or_eq_true, decide_eq_true_eq] at bracket
          rcases bracket with rfl | rfl <;> decide
        rw [List.find?_cons_of_pos bracket, List.takeWhile_cons, if_neg (by simp [stops])]
        rfl
      · have goesOn : (c != '[' && c != ']') = true := by
          simp only [isBracket, Bool.or_eq_true, decide_eq_true_eq, not_or] at bracket
          simp [bracket]
        rw [List.find?_cons_of_neg bracket, inductionHypothesis, List.takeWhile_cons, if_pos goesOn]
        rfl

/-- A text opens with the inside of a tag when its first character can open one and the first
bracket behind it is a closing one. -/
theorem isSome_tag?_iff {c : Char} {rest : Text} :
    (tag? (c :: rest)).isSome ↔ opensTag c = true ∧ rest.find? isBracket = some ']' := by
  rw [find?_isBracket_eq, tag?]
  split
  · next after dropped =>
      rw [dropped]
      cases opensTag c <;> simp
  · next noEnd =>
      have otherwise : (rest.drop (rest.takeWhile fun c => c != '[' && c != ']').length).head? ≠
          some ']' := by
        intro ends
        obtain ⟨after, same⟩ := List.head?_eq_some_iff.mp ends
        exact noEnd after same
      simp only [Option.isSome_none, otherwise, and_false, Bool.false_eq_true]

theorem tag?_eq_some_iff {text inside after : Text} :
    tag? text = some (inside, after) ↔
      ∃ c body, inside = c :: body ∧ opensTag c = true ∧ Bracketless body ∧
        text = inside ++ ']' :: after := by
  cases text with
  | nil => simp [tag?]
  | cons c rest =>
      rw [tag?]
      constructor
      · intro found
        split at found
        · next tail dropped =>
            split at found
            · next opens =>
                obtain ⟨rfl, rfl⟩ := Prod.mk.inj (Option.some.inj found)
                refine ⟨c, _, rfl, opens, ?_, ?_⟩
                · intro d member
                  have inner := List.mem_takeWhile_imp member
                  simp only [isBracket, bne_iff_ne, Bool.and_eq_true, ne_eq] at inner ⊢
                  simp [inner]
                · have whole := List.prefix_iff_eq_append.mp
                    (List.takeWhile_prefix (fun c => c != '[' && c != ']') (l := rest))
                  rw [dropped] at whole
                  rw [List.cons_append, whole]
            · contradiction
        · contradiction
      · rintro ⟨d, body, rfl, opens, bracketless, same⟩
        rw [List.cons_append, List.cons.injEq] at same
        obtain ⟨rfl, rfl⟩ := same
        have taken : (body ++ ']' :: after).takeWhile (fun c => c != '[' && c != ']') = body := by
          rw [List.takeWhile_append_of_pos]
          · simp
          · intro e member
            have inner := bracketless e member
            simp only [isBracket, Bool.or_eq_false_iff, decide_eq_false_iff_not] at inner
            simp [inner]
        rw [taken, List.drop_left]
        simp [opens]

theorem escapedTag?_backslash (rest : Text) :
    escapedTag? ('\\' :: rest) =
      (escapedTag? rest).map fun found => (found.1 + 1, found.2.1, found.2.2) := by
  unfold escapedTag?
  rw [List.takeWhile_cons, if_pos (by decide)]
  simp only [List.length_cons, List.drop_succ_cons]
  split
  · next inner same =>
      rw [Option.map_map]
      rfl
  · rfl

theorem escapedTag?_bracket (rest : Text) :
    escapedTag? ('[' :: rest) = (tag? rest).map fun found => (0, found.1, found.2) :=
  rfl

theorem escapedTag?_of_ne {c : Char} (noBackslash : c ≠ '\\') (noBracket : c ≠ '[')
    (rest : Text) : escapedTag? (c :: rest) = none := by
  unfold escapedTag?
  rw [List.takeWhile_cons, if_neg (by simpa using noBackslash)]
  simp only [List.length_nil, List.drop_zero]
  split
  · next same => exact absurd (List.cons.inj same).1 noBracket
  · rfl

theorem escapedTag?_eq_some_iff {text inside after : Text} {count : Nat} :
    escapedTag? text = some (count, inside, after) ↔
      tag? (inside ++ ']' :: after) = some (inside, after) ∧
        text = List.replicate count '\\' ++ '[' :: (inside ++ ']' :: after) := by
  induction text generalizing count with
  | nil => simp [escapedTag?]
  | cons c rest inductionHypothesis =>
      by_cases isBackslash : c = '\\'
      · subst isBackslash
        rw [escapedTag?_backslash]
        cases count with
        | zero => simp
        | succ count =>
            have same := @inductionHypothesis count
            rw [List.replicate_succ, List.cons_append, List.cons.injEq, eq_self, true_and, ← same]
            rw [Option.map_eq_some_iff]
            constructor
            · rintro ⟨⟨n, i, a⟩, found, equal⟩
              simp only [Prod.mk.injEq, Nat.add_right_cancel_iff] at equal
              obtain ⟨rfl, rfl, rfl⟩ := equal
              exact found
            · exact fun found => ⟨_, found, rfl⟩
      · by_cases isOpening : c = '['
        · subst isOpening
          rw [escapedTag?_bracket, Option.map_eq_some_iff]
          cases count with
          | zero =>
              simp only [List.replicate_zero, List.nil_append, List.cons.injEq, true_and]
              constructor
              · rintro ⟨⟨i, a⟩, found, equal⟩
                simp only [Prod.mk.injEq, true_and] at equal
                obtain ⟨rfl, rfl⟩ := equal
                obtain ⟨_, _, _, _, _, same⟩ := tag?_eq_some_iff.mp found
                exact ⟨same ▸ found, same⟩
              · rintro ⟨found, rfl⟩
                exact ⟨_, found, rfl⟩
          | succ count => simp [List.replicate_succ]
        · rw [escapedTag?_of_ne isBackslash isOpening]
          cases count with
          | zero => simp [isOpening]
          | succ count => simp [List.replicate_succ, isBackslash]

theorem Bracketless.find?_eq_none {text : Text} (bracketless : Bracketless text) :
    text.find? isBracket = none := by
  rw [List.find?_eq_none]
  intro c member
  simp [bracketless c member]

theorem Bracketless.tag?_eq_none {text : Text} (bracketless : Bracketless text) :
    tag? text = none := by
  cases found : tag? text with
  | none => rfl
  | some tag =>
      obtain ⟨_, _, -, -, -, split⟩ := tag?_eq_some_iff.mp found
      have closes : ']' ∈ text := by
        rw [split]
        simp
      exact absurd (bracketless ']' closes) (by decide)

theorem Bracketless.escapedTag?_eq_none {text : Text} (bracketless : Bracketless text) :
    escapedTag? text = none := by
  cases found : escapedTag? text with
  | none => rfl
  | some escaped =>
      have opens : '[' ∈ text := by
        rw [(escapedTag?_eq_some_iff.mp found).2]
        simp
      exact absurd (bracketless '[' opens) (by decide)

/-! ## Escaped texts -/

theorem escapeTags_of_none {c : Char} {rest : Text} (noTag : escapedTag? (c :: rest) = none) :
    escapeTags (c :: rest) = c :: escapeTags rest := by
  rw [escapeTags]
  split
  · next found => exact absurd (noTag.symm.trans found) (by simp)
  · rfl

theorem escapeTags_of_some {c : Char} {rest inside after : Text} {count : Nat}
    (found : escapedTag? (c :: rest) = some (count, inside, after)) :
    escapeTags (c :: rest) =
      List.replicate (2 * count + 1) '\\' ++ '[' :: (inside ++ ']' :: escapeTags after) := by
  rw [escapeTags]
  split
  · next same =>
      simp only [found, Option.some.injEq, Prod.mk.injEq] at same
      obtain ⟨rfl, rfl, rfl⟩ := same
      simp
  · next noTag => exact absurd (noTag.symm.trans found) (by simp)

theorem find?_replicate_append (count : Nat) (rest : Text) :
    (List.replicate count '\\' ++ '[' :: rest).find? isBracket = some '[' := by
  have none : (List.replicate count '\\').find? isBracket = none := by
    rw [List.find?_eq_none]
    intro c member
    rw [List.eq_of_mem_replicate member]
    decide
  rw [List.find?_append, none]
  rfl

/-- Escapes do not change which bracket comes first. -/
theorem find?_isBracket_escapeTags {tail : Text} (bracketless : Bracketless tail) (text : Text) :
    (escapeTags text ++ tail).find? isBracket = text.find? isBracket := by
  induction text with
  | nil =>
      rw [escapeTags]
      exact bracketless.find?_eq_none
  | cons c rest inductionHypothesis =>
      cases found : escapedTag? (c :: rest) with
      | none =>
          rw [escapeTags_of_none found, List.cons_append, List.find?_cons, List.find?_cons,
            inductionHypothesis]
      | some escaped =>
          obtain ⟨count, inside, after⟩ := escaped
          have same := (escapedTag?_eq_some_iff.mp found).2
          rw [escapeTags_of_some found, same, List.append_assoc, List.cons_append,
            find?_replicate_append, find?_replicate_append]

/-- Where a text has no tag, its escaped form has none. -/
theorem escapedTag?_escapeTags_none {tail : Text} (bracketless : Bracketless tail) {c : Char}
    {rest : Text} (noTag : escapedTag? (c :: rest) = none) :
    escapedTag? (c :: (escapeTags rest ++ tail)) = none := by
  induction rest generalizing c with
  | nil =>
      rw [escapeTags, List.nil_append]
      by_cases isBackslash : c = '\\'
      · rw [isBackslash, escapedTag?_backslash, bracketless.escapedTag?_eq_none]
        rfl
      · by_cases isOpening : c = '['
        · rw [isOpening, escapedTag?_bracket, bracketless.tag?_eq_none]
          rfl
        · exact escapedTag?_of_ne isBackslash isOpening tail
  | cons d others inductionHypothesis =>
      by_cases isBackslash : c = '\\'
      · rw [isBackslash, escapedTag?_backslash, Option.map_eq_none_iff] at noTag
        rw [isBackslash, escapedTag?_backslash, Option.map_eq_none_iff, escapeTags_of_none noTag]
        exact inductionHypothesis noTag
      · by_cases isOpening : c = '['
        · subst isOpening
          rw [escapedTag?_bracket, Option.map_eq_none_iff, ← Option.not_isSome_iff_eq_none] at noTag ⊢
          cases found : escapedTag? (d :: others) with
          | none =>
              rw [escapeTags_of_none found, List.cons_append, isSome_tag?_iff,
                find?_isBracket_escapeTags bracketless]
              rwa [isSome_tag?_iff] at noTag
          | some escaped =>
              obtain ⟨count, inside, after⟩ := escaped
              rw [escapeTags_of_some found, List.replicate_succ, List.cons_append, List.cons_append,
                isSome_tag?_iff]
              rintro ⟨opens, -⟩
              exact absurd opens (by decide)
        · exact escapedTag?_of_ne isBackslash isOpening _

/-! ## Pieces -/

/-- The piece is text, no tag. -/
def Piece.IsPlain (piece : Piece) : Prop :=
  ∃ text, piece = .plain text

theorem piecesFrom_of_none {c : Char} {rest : Text} (noTag : escapedTag? (c :: rest) = none)
    (done : Text) : piecesFrom done (c :: rest) = piecesFrom (c :: done) rest := by
  rw [piecesFrom]
  split
  · next found => exact absurd (noTag.symm.trans found) (by simp)
  · rfl

theorem piecesFrom_of_some {text inside after : Text} {count : Nat}
    (found : escapedTag? text = some (count, inside, after)) (done : Text) :
    piecesFrom done text =
      .plain (dropEscapes done.reverse) :: .plain (List.replicate (count / 2) '\\') ::
        (if count % 2 = 1 then .plain ('[' :: inside ++ [']']) else .tag inside) ::
          piecesFrom [] after := by
  cases text with
  | nil => exact absurd found (by simp [escapedTag?])
  | cons c rest =>
      rw [piecesFrom]
      split
      · next same =>
          simp only [found, Option.some.injEq, Prod.mk.injEq] at same
          obtain ⟨rfl, rfl, rfl⟩ := same
          rfl
      · next noTag => exact absurd (noTag.symm.trans found) (by simp)

theorem piecesFrom_of_bracketless {text : Text} (bracketless : Bracketless text) (done : Text) :
    piecesFrom done text = [.plain (dropEscapes (done.reverse ++ text))] := by
  induction text generalizing done with
  | nil => rw [piecesFrom, List.append_nil]
  | cons c rest inductionHypothesis =>
      have others : Bracketless rest := fun d member => bracketless d (List.mem_cons_of_mem c member)
      rw [piecesFrom_of_none bracketless.escapedTag?_eq_none, inductionHypothesis others,
        List.reverse_cons, List.append_assoc, List.singleton_append]

/-- The escapes of a tag add to the backslashes in front of it. -/
theorem escapedTag?_escapeTags_some {c : Char} {rest inside after : Text} {count : Nat}
    (found : escapedTag? (c :: rest) = some (count, inside, after)) (tail : Text) :
    escapedTag? (escapeTags (c :: rest) ++ tail) =
      some (2 * count + 1, inside, escapeTags after ++ tail) := by
  obtain ⟨d, body, same, opens, without, -⟩ :=
    tag?_eq_some_iff.mp (escapedTag?_eq_some_iff.mp found).1
  rw [escapeTags_of_some found]
  exact escapedTag?_eq_some_iff.mpr
    ⟨tag?_eq_some_iff.mpr ⟨d, body, same, opens, without, rfl⟩, by simp⟩

theorem isPlain_of_mem_piecesFrom {tail : Text} (bracketless : Bracketless tail) (text : Text)
    (done : Text) : ∀ piece ∈ piecesFrom done (escapeTags text ++ tail), piece.IsPlain := by
  induction text using escapeTags.induct generalizing done with
  | case1 =>
      rw [escapeTags, List.nil_append, piecesFrom_of_bracketless bracketless]
      exact fun piece member => ⟨_, List.mem_singleton.mp member⟩
  | case2 c rest count inside after found shorter inductionHypothesis =>
      rw [piecesFrom_of_some (escapedTag?_escapeTags_some found tail), if_pos (by omega)]
      intro piece member
      simp only [List.mem_cons] at member
      rcases member with rfl | rfl | rfl | later
      · exact ⟨_, rfl⟩
      · exact ⟨_, rfl⟩
      · exact ⟨_, rfl⟩
      · exact inductionHypothesis _ piece later
  | case3 c rest noTag inductionHypothesis =>
      rw [escapeTags_of_none noTag, List.cons_append,
        piecesFrom_of_none (escapedTag?_escapeTags_none bracketless noTag)]
      exact inductionHypothesis _

/-- An escaped text has no tag. -/
theorem isPlain_of_mem_piecesFrom_escape (text done : Text) :
    ∀ piece ∈ piecesFrom done (escape text), piece.IsPlain := by
  unfold escape
  simp only
  split
  · rw [← List.append_nil (escapeTags text)]
    exact isPlain_of_mem_piecesFrom (by simp [Bracketless]) text done
  · exact isPlain_of_mem_piecesFrom (by simp [Bracketless, isBracket]) text done
  · rw [← List.append_nil (escapeTags text)]
    exact isPlain_of_mem_piecesFrom (by simp [Bracketless]) text done

/-! ## Printing -/

theorem exists_renderFrom_eq_ok {found : List Piece} (plain : ∀ piece ∈ found, piece.IsPlain)
    (opened : List Text) : ∃ runs, renderFrom opened found = .ok runs := by
  induction found with
  | nil => exact ⟨[], rfl⟩
  | cons piece rest inductionHypothesis =>
      obtain ⟨text, rfl⟩ := plain piece (by simp)
      obtain ⟨runs, rendered⟩ :=
        inductionHypothesis fun other member => plain other (List.mem_cons_of_mem _ member)
      exact ⟨text :: runs, by rw [renderFrom, rendered]; rfl⟩

/-- The mark in front of a reported fault. -/
def faultMark : Text := "[red]✗[/red] "

theorem pieces_faultMark_append (text : Text) :
    pieces (faultMark ++ text) =
      [.plain [], .plain [], .tag "red", .plain "✗", .plain [], .tag "/red"] ++
        piecesFrom [' '] text := by
  have opening : escapedTag? ('[' :: ("red]✗[/red] ".toList ++ text)) =
      some (0, "red".toList, '✗' :: ("[/red] ".toList ++ text)) := rfl
  have closing : escapedTag? ('[' :: ("/red] ".toList ++ text)) =
      some (0, "/red".toList, ' ' :: text) := rfl
  have unmarked : ∀ {c : Char} (rest : Text), c ≠ '\\' → c ≠ '[' → ∀ done,
      piecesFrom done (c :: rest) = piecesFrom (c :: done) rest :=
    fun rest noBackslash noBracket => piecesFrom_of_none (escapedTag?_of_ne noBackslash noBracket rest)
  change piecesFrom [] ('[' :: ("red]✗[/red] ".toList ++ text)) = _
  rw [piecesFrom_of_some opening, unmarked _ (by decide) (by decide)]
  change _ :: _ :: _ :: piecesFrom ['✗'] ('[' :: ("/red] ".toList ++ text)) = _
  rw [piecesFrom_of_some closing, unmarked _ (by decide) (by decide)]
  rfl

/-- A reported fault is always printed. -/
theorem exists_render_eq_ok (message : Text) :
    ∃ runs, render (faultMark ++ escape message) = .ok runs := by
  obtain ⟨runs, rendered⟩ :=
    exists_renderFrom_eq_ok (isPlain_of_mem_piecesFrom_escape message [' ']) []
  have closed : close (Text.trim "red") [styleName "red"] = .ok [] := by decide
  have opening : "red".toList.takeWhile (· != '=') = ['r', 'e', 'd'] := by decide
  have closing : "/red".toList.takeWhile (· != '=') = '/' :: "red".toList := by decide
  refine ⟨[] :: [] :: "✗".toList :: [] :: runs, ?_⟩
  rw [render, pieces_faultMark_append]
  simp only [List.cons_append, List.nil_append, renderFrom, opening, closing]
  change Except.map _ (Except.map _ (Except.map _ (Except.map _ (do
    renderFrom (← close (Text.trim "red") [styleName "red"]) _)))) = _
  rw [closed]
  change Except.map _ (Except.map _ (Except.map _ (Except.map _ (renderFrom [] _)))) = _
  rw [rendered]
  rfl

end SchemaDoc.Console.Markup
