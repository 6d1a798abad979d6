import SchemaDoc.Proofs.Source.Position
import SchemaDoc.Proofs.Source.Statement

/-!
Contract: where the definition of a class begins.

A definition begins with the sign of its first decorator, and with its first word where it has none
(`ClassHead.BeginsAt`); the physical line on which this token stands is the one that the definition
begins on (`BeginsOn`, `exists_beginsOn`). The line at which a block goes in is that of the first
decorator's expression, which can stand below its sign (`SourceFile.firstLine_eq`).
-/

namespace SchemaDoc.Source

/-- The place at which the definition of a class begins: that of its first word, or that of the sign
of its first decorator, with nothing but opening brackets between the sign and the expression. -/
def ClassHead.BeginsAt (tokens : List Token) (head : ClassHead) (start : Nat) : Prop :=
  match head.decorators with
  | [] => tokens[start]? = some (.keyword "class") ∧ start = head.place
  | first :: _ => tokens[start]? = some (.symbol "@") ∧ start < first.place ∧
      ∀ place, start < place → place < first.place → tokens[place]? = some (.symbol "(")

/-- The definition of the class begins on the physical line between those above and those below. -/
structure BeginsOn (content : Text) (head : ClassHead) (upper : List Text) (line : Text)
    (lower : List Text) : Prop where
  split : Text.physicalLines content = upper ++ line :: lower
  begins : ∃ placed start entry, tokens content = some placed ∧
    head.BeginsAt (placed.map PlacedToken.token) start ∧ placed[start]? = some entry ∧
      entry.line = upper.length + 1

theorem ClassHead.BeginsAt.unique {tokens : List Token} {head : ClassHead} {start other : Nat}
    (begins : head.BeginsAt tokens start) (alsoBegins : head.BeginsAt tokens other) :
    start = other := by
  unfold BeginsAt at begins alsoBegins
  cases isFirst : head.decorators with
  | nil =>
      rw [isFirst] at begins alsoBegins
      exact begins.2.trans alsoBegins.2.symm
  | cons first others =>
      rw [isFirst] at begins alsoBegins
      obtain ⟨isSign, inFront, brackets⟩ := begins
      obtain ⟨isOther, otherInFront, otherBrackets⟩ := alsoBegins
      rcases Nat.lt_trichotomy start other with before | same | behind
      · exact absurd (isOther.symm.trans (brackets other before otherInFront)) (by simp)
      · exact same
      · exact absurd (isSign.symm.trans (otherBrackets start behind inFront)) (by simp)

theorem BeginsOn.unique {content line line' : Text} {head : ClassHead}
    {upper upper' lower lower' : List Text} (begins : BeginsOn content head upper line lower)
    (alsoBegins : BeginsOn content head upper' line' lower') :
    upper = upper' ∧ line = line' ∧ lower = lower' := by
  obtain ⟨placed, start, entry, areTokens, isStart, isEntry, isLine⟩ := begins.begins
  obtain ⟨placed', start', entry', areTokens', isStart', isEntry', isLine'⟩ := alsoBegins.begins
  obtain rfl := Option.some.inj (areTokens.symm.trans areTokens')
  obtain rfl := isStart.unique isStart'
  obtain rfl := Option.some.inj (isEntry.symm.trans isEntry')
  have sameLength : upper.length = upper'.length := by omega
  obtain ⟨sameUpper, sameRest⟩ := List.append_inj (begins.split.symm.trans alsoBegins.split) sameLength
  exact ⟨sameUpper, List.cons.inj sameRest⟩

/-! ## Places of an opening -/

theorem IsDecorator.place_sublist {taken : Tokens} {found : Located}
    (isDecorator : IsDecorator taken found) : [found.place].Sublist (taken.map Prod.snd) := by
  obtain ⟨sign, behind, rfl, opened, token, rest, rfl, -⟩ := isDecorator
  simp

theorem AreDecorators.places_sublist {taken : Tokens} {above : List Located}
    (areDecorators : AreDecorators taken above) :
    (above.map Located.place).Sublist (taken.map Prod.snd) := by
  obtain ⟨pieces, rfl, areTaken⟩ := areDecorators
  induction areTaken with
  | nil => exact List.nil_sublist _
  | cons isDecorator _ inductionHypothesis =>
      rw [List.flatten_cons, List.map_append]
      exact isDecorator.place_sublist.append inductionHypothesis

/-- The decorators of a class and its word stand in the order of the text. -/
theorem IsOpening.places_sublist {taken : Tokens} {head : ClassHead} (isOpening : IsOpening taken head) :
    (head.decorators.map Located.place ++ [head.place]).Sublist (taken.map Prod.snd) := by
  obtain ⟨above, rfl, areDecorators⟩ := isOpening
  rw [List.map_append]
  exact areDecorators.places_sublist.append (List.Sublist.refl _)

theorem getElem?_zipIdx_split {tokens : List Token} {front behind : Tokens} {token : Token} {place : Nat}
    (split : tokens.zipIdx = front ++ (token, place) :: behind) :
    tokens[front.length]? = some token ∧ place = front.length := by
  have isEntry : tokens.zipIdx[front.length]? = some (token, place) := by
    rw [split]
    simp
  rw [List.getElem?_zipIdx] at isEntry
  obtain ⟨found, isFound, same⟩ := Option.map_eq_some_iff.mp isEntry
  obtain ⟨rfl, rfl⟩ := Prod.mk.inj same
  exact ⟨isFound, by simp⟩

/-- The places of a piece in which one token is repeated have this token. -/
theorem getElem?_zipIdx_within {tokens : List Token} {front piece behind : Tokens} {token : Token}
    {place : Nat} (split : tokens.zipIdx = front ++ (piece ++ behind))
    (same : ∀ entry ∈ piece, entry.1 = token) (reached : front.length ≤ place)
    (inside : place < front.length + piece.length) : tokens[place]? = some token := by
  have areTokens : tokens = front.map Prod.fst ++ (piece.map Prod.fst ++ behind.map Prod.fst) := by
    rw [← List.map_append, ← List.map_append, ← split, List.zipIdx_map_fst]
  have isPiece : piece.map Prod.fst = List.replicate piece.length token := by
    rw [List.eq_replicate_iff, List.length_map, List.forall_mem_map]
    exact ⟨rfl, same⟩
  rw [areTokens, List.getElem?_append_right (by rwa [List.length_map]), List.length_map, isPiece,
    List.getElem?_append_left (by rw [List.length_replicate]; omega), List.getElem?_replicate,
    if_pos (by omega)]

/-- The tokens of an opening in a file start where the definition begins. -/
theorem IsOpening.beginsAt {tokens : List Token} {front opening behind : Tokens} {head : ClassHead}
    (isOpening : IsOpening opening head) (split : tokens.zipIdx = front ++ (opening ++ behind)) :
    head.BeginsAt tokens front.length := by
  obtain ⟨above, rfl, pieces, rfl, areTaken⟩ := isOpening
  unfold ClassHead.BeginsAt
  cases isFirst : head.decorators with
  | nil =>
      rw [isFirst] at areTaken
      cases areTaken
      obtain ⟨isWord, isPlace⟩ := getElem?_zipIdx_split split
      exact ⟨isWord, isPlace.symm⟩
  | cons first others =>
      rw [isFirst] at areTaken
      cases areTaken with
      | @cons piece _ pieces _ isDecorator _ =>
          obtain ⟨sign, inside, rfl, opened, token, rest, rfl, brackets⟩ := isDecorator
          simp only [List.flatten_cons, List.cons_append, List.append_assoc] at split
          have behindSign : tokens.zipIdx = (front ++ [(.symbol "@", sign)]) ++ (opened ++
              ((token, first.place) :: (rest ++ (pieces.flatten ++
                ((.keyword "class", head.place) :: behind))))) := by
            rw [split]
            simp
          have atExpression := behindSign
          rw [← List.append_assoc] at atExpression
          have isPlace := (getElem?_zipIdx_split atExpression).2
          rw [List.length_append, List.length_append, List.length_singleton] at isPlace
          refine ⟨(getElem?_zipIdx_split split).1, by omega, fun place isBehind inFront => ?_⟩
          apply getElem?_zipIdx_within behindSign brackets
          · rw [List.length_append, List.length_singleton]
            omega
          · rw [List.length_append, List.length_singleton]
            omega

/-! ## Lines of a definition -/

/-- The tokens in which a class statement of a file opens. -/
structure Opens (content : Text) (file : SourceFile) (head : ClassHead) (placed : List PlacedToken)
    (front opening behind : Tokens) : Prop where
  areTokens : tokens content = some placed
  lines : file.lines = placed.map PlacedToken.line
  split : (placed.map PlacedToken.token).zipIdx = front ++ (opening ++ behind)
  isOpening : IsOpening opening head

section Lines

variable {nameOf : Text → Option Nat} {content : Text} {file : SourceFile} {found : ClassStatement}

theorem exists_opens (isRead : SourceFile.read nameOf content = .ok file)
    (member : found ∈ file.classes.map Prod.snd) :
    ∃ placed front opening behind, Opens content file found.head placed front opening behind := by
  obtain ⟨placed, areTokens, parsed, lines⟩ := SourceFile.tokens_of_read isRead
  have isHead : found.head ∈ statementsHeads file.statements := by
    obtain ⟨entry, isEntry, rfl⟩ := List.mem_map.mp member
    exact List.mem_map.mpr ⟨entry, isEntry, rfl⟩
  obtain ⟨front, opening, behind, split, isOpening⟩ := (statements?_spells parsed).exists_opening isHead
  exact ⟨placed, front, opening, behind, areTokens, lines, split, isOpening⟩

variable {placed : List PlacedToken} {front opening behind : Tokens}

theorem Opens.places_sublist (opens : Opens content file found.head placed front opening behind) :
    (found.head.decorators.map Located.place ++ [found.head.place]).Sublist
      (List.range placed.length) := by
  have inOpening := opens.isOpening.places_sublist
  have places : (List.range placed.length) = (front ++ (opening ++ behind)).map Prod.snd := by
    rw [← opens.split, List.zipIdx_map_snd, List.length_map, List.range_eq_range']
  rw [places, List.map_append, List.map_append]
  exact (inOpening.trans (List.sublist_append_left _ _)).trans (List.sublist_append_right _ _)

theorem Opens.lineOf_le (opens : Opens content file found.head placed front opening behind)
    {place later : Nat} (inFront : place ≤ later) (inside : later < placed.length) :
    file.lineOf place ≤ file.lineOf later := by
  have inOrder := pairwise_line_tokens opens.areTokens
  rw [← opens.lines] at inOrder
  have isInside : later < file.lines.length := by rwa [opens.lines, List.length_map]
  rw [SourceFile.lineOf, SourceFile.lineOf, List.getD_eq_getElem?_getD, List.getD_eq_getElem?_getD,
    List.getElem?_eq_getElem isInside, List.getElem?_eq_getElem (Nat.lt_of_le_of_lt inFront isInside)]
  rcases Nat.eq_or_lt_of_le inFront with rfl | before
  · exact Nat.le_refl _
  · exact List.pairwise_iff_getElem.mp inOrder place later _ isInside before

theorem foldl_min_le (values : List Nat) (start : Nat) : values.foldl min start ≤ start := by
  induction values generalizing start with
  | nil => exact Nat.le_refl start
  | cons value rest inductionHypothesis =>
      exact (inductionHypothesis (min start value)).trans (Nat.min_le_left start value)

theorem foldl_min_eq {values : List Nat} {start : Nat} (isLeast : ∀ value ∈ values, start ≤ value) :
    values.foldl min start = start := by
  induction values with
  | nil => rfl
  | cons value rest inductionHypothesis =>
      obtain ⟨first, others⟩ := List.forall_mem_cons.mp isLeast
      rw [List.foldl_cons, Nat.min_eq_left first]
      exact inductionHypothesis others

/-- A block goes in at the line of the first decorator's expression, or of the class statement. -/
theorem Opens.firstLine_eq (opens : Opens content file found.head placed front opening behind) :
    file.firstLine found =
      file.lineOf ((found.head.decorators.head?.map Located.place).getD found.head.place) := by
  have sublist := opens.places_sublist
  unfold SourceFile.firstLine
  cases isFirst : found.head.decorators with
  | nil => rfl
  | cons first others =>
      rw [isFirst] at sublist
      have inOrder := List.pairwise_lt_range.sublist sublist
      have inFront (place : Nat) (member : place ∈ others.map Located.place ++ [found.head.place]) :
          file.lineOf first.place ≤ file.lineOf place := by
        refine opens.lineOf_le (Nat.le_of_lt (List.rel_of_pairwise_cons inOrder member)) ?_
        exact List.mem_range.mp (sublist.subset (List.mem_cons_of_mem _ member))
      have beforeWord := inFront found.head.place (by simp)
      rw [List.map_cons, List.foldl_cons, Nat.min_eq_right beforeWord]
      apply foldl_min_eq
      intro line member
      obtain ⟨other, isOther, rfl⟩ := List.mem_map.mp member
      exact inFront other.place (List.mem_append_left _ (List.mem_map_of_mem isOther))

/-- The line of a word or symbol in the file is the physical line on which it is written. -/
theorem Opens.exists_physicalLine (opens : Opens content file found.head placed front opening behind)
    {place : Nat} {token : Token} (isToken : (placed.map PlacedToken.token)[place]? = some token)
    {written : String} (isSpelled : Lexer.IsSpelled written token) {c : Char} {rest : Text}
    (starts : written.toList = c :: rest) (notFeed : c ≠ '\n') :
    ∃ upper line lower entry, Text.physicalLines content = upper ++ line :: lower ∧ c ∈ line ∧
      placed[place]? = some entry ∧ entry.line = upper.length + 1 ∧
        file.lineOf place = upper.length + 1 := by
  rw [List.getElem?_map] at isToken
  obtain ⟨entry, isEntry, rfl⟩ := Option.map_eq_some_iff.mp isToken
  obtain ⟨upper, line, lower, split, isLine, inLine⟩ := exists_physicalLine_of_spelled
    opens.areTokens (List.mem_of_getElem? isEntry) isSpelled starts notFeed
  refine ⟨upper, line, lower, entry, split, inLine, isEntry, isLine, ?_⟩
  rw [SourceFile.lineOf, opens.lines, List.getD_eq_getElem?_getD, List.getElem?_map, isEntry]
  exact isLine

/-- The definition begins on a physical line, which is not blank. -/
theorem Opens.exists_beginsOn (opens : Opens content file found.head placed front opening behind) :
    ∃ upper line lower, BeginsOn content found.head upper line lower ∧
      file.lineOf front.length = upper.length + 1 ∧ ∃ c ∈ line, Text.isBlank c = false := by
  have begins := opens.isOpening.beginsAt opens.split
  have onLine {token : Token} {written : String} {c : Char} {rest : Text}
      (isToken : (placed.map PlacedToken.token)[front.length]? = some token)
      (isSpelled : Lexer.IsSpelled written token) (starts : written.toList = c :: rest)
      (notFeed : c ≠ '\n') (notBlank : Text.isBlank c = false) :
      ∃ upper line lower, BeginsOn content found.head upper line lower ∧
        file.lineOf front.length = upper.length + 1 ∧ ∃ c ∈ line, Text.isBlank c = false := by
    obtain ⟨upper, line, lower, entry, split, inLine, isEntry, isLine, isPlace⟩ :=
      opens.exists_physicalLine isToken isSpelled starts notFeed
    exact ⟨upper, line, lower, ⟨split, placed, front.length, entry, opens.areTokens, begins, isEntry,
      isLine⟩, isPlace, c, inLine, notBlank⟩
  have opensWith := begins
  unfold ClassHead.BeginsAt at opensWith
  split at opensWith
  · exact onLine opensWith.1 (.inl rfl) rfl (by decide) (by decide)
  · exact onLine opensWith.1 (.inr rfl) rfl (by decide) (by decide)

/-- The definition does not begin below the line at which a block goes in. -/
theorem Opens.lineOf_le_firstLine (opens : Opens content file found.head placed front opening behind) :
    file.lineOf front.length ≤ file.firstLine found := by
  have begins := opens.isOpening.beginsAt opens.split
  have inside := opens.places_sublist.subset
  rw [opens.firstLine_eq]
  unfold ClassHead.BeginsAt at begins
  cases isFirst : found.head.decorators with
  | nil =>
      rw [isFirst] at begins
      exact Nat.le_of_eq (congrArg file.lineOf begins.2)
  | cons first others =>
      rw [isFirst] at begins inside
      exact opens.lineOf_le (Nat.le_of_lt begins.2.1) (List.mem_range.mp (inside List.mem_cons_self))

/-- A block goes in at the line where the definition begins exactly where the first decorator's
expression stands on that line. -/
theorem Opens.firstLine_eq_iff (opens : Opens content file found.head placed front opening behind) :
    file.firstLine found = file.lineOf front.length ↔
      ∀ first ∈ found.head.decorators.head?, file.lineOf first.place = file.lineOf front.length := by
  have begins := opens.isOpening.beginsAt opens.split
  rw [opens.firstLine_eq]
  unfold ClassHead.BeginsAt at begins
  cases isFirst : found.head.decorators with
  | nil =>
      rw [isFirst] at begins
      simp [begins.2]
  | cons first others => simp

/-- The definition of a class starts on a physical line of the file. -/
theorem SourceFile.firstLine_find? {source qualname : Text}
    (isRead : SourceFile.read nameOf source = .ok file)
    (isFound : file.find? qualname = some found) :
    file.firstLine found - 1 < (Text.physicalLines source).length := by
  obtain ⟨placed, front, opening, behind, opens⟩ := exists_opens isRead (find?_sound isFound).1
  obtain ⟨above, rfl, -⟩ := opens.isOpening
  have split := opens.split
  rw [List.append_assoc, ← List.append_assoc] at split
  obtain ⟨isWord, isPlace⟩ := getElem?_zipIdx_split split
  obtain ⟨upper, line, lower, entry, cut, -, -, -, isLine⟩ :=
    opens.exists_physicalLine isWord (.inl rfl) rfl (by decide)
  have first : file.firstLine found ≤ upper.length + 1 := by
    rw [← isLine, ← isPlace]
    exact foldl_min_le _ _
  rw [cut, List.length_append, List.length_cons]
  omega

end Lines

end SchemaDoc.Source
