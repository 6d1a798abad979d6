import SchemaDoc.Text.Lines

/-!
Contract: the laws of the three cuts of a text into lines.

Owns:
- the shape of the lines that `lines` gives, and that joining lines of that shape loses nothing;
- the display lines of joined texts, parted at a line feed or at a character that ends no line;
- the physical lines of joined lines.

Main statements: `lines_flatten` and `displayLines_append_lineFeed`.
-/

namespace SchemaDoc.Text

/-- No character of the text ends a line on a display. -/
def OneLine (text : Text) : Prop :=
  ∀ c ∈ text, endsDisplayLine c = false

/-- The text is a name: it has characters, and none of them is blank. -/
def Unspaced (text : Text) : Prop :=
  text ≠ [] ∧ ∀ c ∈ text, isBlank c = false

instance (text : Text) : Decidable (OneLine text) :=
  decidable_of_iff (text.all fun c => !endsDisplayLine c) (by simp [OneLine])

instance (text : Text) : Decidable (Unspaced text) :=
  decidable_of_iff (!text.isEmpty && text.all fun c => !isBlank c) (by simp [Unspaced])

/-! ## Line ends and white space -/

/-- A character that ends a line is blank. -/
theorem isBlank_of_endsDisplayLine {c : Char} (ends : endsDisplayLine c = true) :
    isBlank c = true := by
  simp only [endsDisplayLine, Bool.or_eq_true, Bool.and_eq_true, decide_eq_true_eq,
    beq_iff_eq] at ends
  simp only [isBlank, blankRanges, List.any_cons, List.any_nil, Bool.or_eq_true,
    Bool.and_eq_true, decide_eq_true_eq, Bool.or_false]
  omega

theorem OneLine.of_unspaced {text : Text} (unspaced : Unspaced text) : OneLine text := by
  intro c member
  have solid := unspaced.2 c member
  by_cases ends : endsDisplayLine c = true
  · rw [isBlank_of_endsDisplayLine ends] at solid
    exact absurd solid (by decide)
  · simpa using ends

theorem OneLine.append {left right : Text} (first : OneLine left) (second : OneLine right) :
    OneLine (left ++ right) := by
  intro c member
  rcases List.mem_append.mp member with inLeft | inRight
  · exact first c inLeft
  · exact second c inRight

theorem OneLine.padEnd {text : Text} (oneLine : OneLine text) (width : Nat) :
    OneLine (padEnd width text) := by
  refine oneLine.append fun c member => ?_
  rw [(List.mem_replicate.mp member).2]
  decide

theorem OneLine.not_mem {text : Text} (oneLine : OneLine text) {c : Char}
    (ends : endsDisplayLine c = true) : c ∉ text := by
  intro member
  rw [oneLine c member] at ends
  exact absurd ends (by decide)

/-! ## Lines that end at line feeds -/

/-- Lines as `lines` cuts them: each ends with its only line feed, but that the last one may
lack it. -/
inductive AreLines : List Text → Prop
  | nil : AreLines []
  | last {line : Text} : line ≠ [] → '\n' ∉ line → AreLines [line]
  | cons {body : Text} {rest : List Text} :
      '\n' ∉ body → AreLines rest → AreLines ((body ++ ['\n']) :: rest)

/-- A line with its line feed. -/
def IsWhole (line : Text) : Prop :=
  ∃ body, '\n' ∉ body ∧ line = body ++ ['\n']

theorem areLines_lines (text : Text) : AreLines (lines text) := by
  induction text with
  | nil => exact .nil
  | cons c rest inductionHypothesis =>
      unfold lines
      split
      · next isFeed =>
          subst isFeed
          exact @AreLines.cons [] _ (by simp) inductionHypothesis
      · next notFeed =>
          revert inductionHypothesis
          generalize lines rest = cut
          intro shape
          have fresh : ∀ {body : Text}, '\n' ∉ body → '\n' ∉ c :: body := by
            intro body absent member
            rcases List.mem_cons.mp member with isHead | inBody
            · exact notFeed isHead.symm
            · exact absent inBody
          cases shape with
          | nil => exact .last (by simp) (fresh (by simp))
          | last _ absent => exact .last (by simp) (fresh absent)
          | cons absent shape => exact @AreLines.cons (c :: _) _ (fresh absent) shape

theorem lines_line {body : Text} (absent : '\n' ∉ body) (rest : Text) :
    lines (body ++ '\n' :: rest) = (body ++ ['\n']) :: lines rest := by
  induction body with
  | nil => simp [lines]
  | cons c body inductionHypothesis =>
      have notFeed : c ≠ '\n' := fun isFeed => absent (by simp [isFeed])
      have cut := inductionHypothesis (fun member => absent (List.mem_cons_of_mem c member))
      simp only [List.cons_append, lines, if_neg notFeed, cut]

theorem lines_last {line : Text} (nonempty : line ≠ []) (absent : '\n' ∉ line) :
    lines line = [line] := by
  induction line with
  | nil => exact absurd rfl nonempty
  | cons c rest inductionHypothesis =>
      have notFeed : c ≠ '\n' := fun isFeed => absent (by simp [isFeed])
      cases rest with
      | nil => simp [lines, notFeed]
      | cons d others =>
          have cut := inductionHypothesis (by simp)
            (fun member => absent (List.mem_cons_of_mem c member))
          rw [lines, if_neg notFeed, cut]

theorem lines_of_ne {c : Char} (notFeed : c ≠ '\n') (rest : Text) :
    lines (c :: rest) = (c :: (lines rest).headD []) :: (lines rest).tail := by
  rw [lines, if_neg notFeed]
  cases lines rest with
  | nil => rfl
  | cons first others => rfl

/-- A character other than a line feed stands on the line that as many lines are above as there are
line feeds in front of it. -/
theorem exists_line_of_char (front : Text) {c : Char} (notFeed : c ≠ '\n') (back : Text) :
    ∃ above line below, lines (front ++ c :: back) = above ++ line :: below ∧
      above.length = front.count '\n' ∧ c ∈ line := by
  induction front with
  | nil => exact ⟨[], _, _, lines_of_ne notFeed back, rfl, List.mem_cons_self⟩
  | cons d front inductionHypothesis =>
      obtain ⟨above, line, below, cut, counted, member⟩ := inductionHypothesis
      by_cases isFeed : d = '\n'
      · refine ⟨[d] :: above, line, below, ?_, ?_, member⟩
        · rw [List.cons_append, lines, if_pos isFeed, cut, List.cons_append]
        · rw [List.length_cons, counted, isFeed, List.count_cons_self]
      · rw [List.cons_append, lines_of_ne isFeed, cut, List.count_cons_of_ne isFeed, ← counted]
        cases above with
        | nil => exact ⟨[], d :: line, below, rfl, rfl, List.mem_cons_of_mem d member⟩
        | cons first above => exact ⟨(d :: first) :: above, line, below, rfl, rfl, member⟩

/-- Lines are found again in the text that they make up. -/
theorem lines_flatten {cut : List Text} (shape : AreLines cut) : lines cut.flatten = cut := by
  induction shape with
  | nil => rfl
  | last nonempty absent => simpa using lines_last nonempty absent
  | cons absent _ inductionHypothesis =>
      rw [List.flatten_cons, List.append_assoc, List.singleton_append, lines_line absent,
        inductionHypothesis]

theorem AreLines.whole_append {front back : List Text} (whole : ∀ line ∈ front, IsWhole line)
    (shape : AreLines back) : AreLines (front ++ back) := by
  induction front with
  | nil => exact shape
  | cons line front inductionHypothesis =>
      obtain ⟨body, absent, rfl⟩ := whole line (by simp)
      exact .cons absent (inductionHypothesis fun other member =>
        whole other (List.mem_cons_of_mem _ member))

/-- Every line but the last one has its line feed. -/
theorem AreLines.of_append {front back : List Text} (shape : AreLines (front ++ back)) :
    AreLines back ∧ (back ≠ [] → ∀ line ∈ front, IsWhole line) := by
  induction front with
  | nil => exact ⟨shape, by simp⟩
  | cons line front inductionHypothesis =>
      rw [List.cons_append] at shape
      generalize joined : front ++ back = tail at shape
      cases shape with
      | last _ _ =>
          obtain ⟨-, rfl⟩ := List.append_eq_nil_iff.mp joined
          exact ⟨.nil, fun nonempty => absurd rfl nonempty⟩
      | cons absent shape =>
          subst joined
          obtain ⟨tailShape, whole⟩ := inductionHypothesis shape
          refine ⟨tailShape, fun nonempty other member => ?_⟩
          rcases List.mem_cons.mp member with rfl | inFront
          · exact ⟨_, absent, rfl⟩
          · exact whole nonempty other inFront

/-- A line holds a line feed at its end or nowhere. -/
theorem AreLines.isWhole_or {cut : List Text} (shape : AreLines cut) {line : Text}
    (member : line ∈ cut) : IsWhole line ∨ '\n' ∉ line := by
  induction shape with
  | nil => exact absurd member (by simp)
  | last _ absent =>
      rw [List.mem_singleton.mp member]
      exact .inr absent
  | cons absent _ inductionHypothesis =>
      rcases List.mem_cons.mp member with rfl | inRest
      · exact .inl ⟨_, absent, rfl⟩
      · exact inductionHypothesis inRest

/-- White space in front of a line that runs over its end is the whole line. -/
theorem IsWhole.margin_eq_self {line : Text} (whole : IsWhole line) (feed : '\n' ∈ margin line) :
    margin line = line := by
  obtain ⟨body, absent, rfl⟩ := whole
  have split := margin_append_trimStart (body ++ ['\n'])
  rcases List.eq_nil_or_concat (trimStart (body ++ ['\n'])) with empty | ⟨front, last, found⟩
  · rw [empty, List.append_nil] at split
    exact split
  · rw [found, List.concat_eq_append, ← List.append_assoc] at split
    have inBody : margin (body ++ ['\n']) ++ front = body := (List.append_inj' split rfl).1
    exact absurd (inBody ▸ List.mem_append_left front feed) absent

/-- Leaving out lines leaves lines. -/
theorem AreLines.of_sublist {part whole : List Text} (shape : AreLines whole)
    (sublist : part.Sublist whole) : AreLines part := by
  induction shape generalizing part with
  | nil =>
      rw [List.sublist_nil.mp sublist]
      exact .nil
  | last nonempty absent =>
      cases sublist with
      | cons _ inNil =>
          rw [List.sublist_nil.mp inNil]
          exact .nil
      | cons_cons _ inNil =>
          rw [List.sublist_nil.mp inNil]
          exact .last nonempty absent
  | cons absent _ inductionHypothesis =>
      cases sublist with
      | cons _ inRest => exact inductionHypothesis inRest
      | cons_cons _ inRest => exact .cons absent (inductionHypothesis inRest)

/-! ## Display lines -/

@[simp]
theorem displayLines_nil : displayLines [] = [] := by
  simp [displayLines]

@[simp]
theorem displayLines_returnFeed (rest : Text) :
    displayLines ('\r' :: '\n' :: rest) = [] :: displayLines rest := by
  simp [displayLines]

/-- A character that ends a line, other than a carriage return before a line feed. -/
theorem displayLines_of_ends {c : Char} (ends : endsDisplayLine c = true) {rest : Text}
    (alone : c = '\r' → rest.head? ≠ some '\n') :
    displayLines (c :: rest) = [] :: displayLines rest := by
  rw [displayLines, if_pos ends]
  rintro others rfl rfl
  exact alone rfl rfl

theorem displayLines_of_not_ends {c : Char} (inside : endsDisplayLine c = false) (rest : Text) :
    displayLines (c :: rest) =
      (c :: (displayLines rest).headD []) :: (displayLines rest).tail := by
  rw [displayLines, if_neg (by simp [inside])]
  · cases displayLines rest with
    | nil => rfl
    | cons first others => rfl
  · rintro others rfl rfl
    exact absurd inside (by decide)

/-- A text is empty, starts with a carriage return and its line feed, or starts with another
character. -/
theorem returnFeed_induction {motive : Text → Prop} (nil : motive [])
    (pair : ∀ rest, motive rest → motive ('\r' :: '\n' :: rest))
    (single : ∀ c rest, (c = '\r' → rest.head? ≠ some '\n') → motive rest → motive (c :: rest))
    (text : Text) : motive text := by
  have alone : ∀ {c : Char} {rest : Text}, (∀ others, c = '\r' → rest = '\n' :: others → False) →
      c = '\r' → rest.head? ≠ some '\n' := by
    intro c rest notPair isReturn feed
    obtain ⟨others, split⟩ := List.head?_eq_some_iff.mp feed
    exact notPair others isReturn split
  induction text using displayLines.induct with
  | case1 => exact nil
  | case2 rest inductionHypothesis => exact pair rest inductionHypothesis
  | case3 c rest notPair _ inductionHypothesis =>
      exact single c rest (alone notPair) inductionHypothesis
  | case4 c rest notPair _ _ inductionHypothesis =>
      exact single c rest (alone notPair) inductionHypothesis
  | case5 c rest notPair _ _ _ _ inductionHypothesis =>
      exact single c rest (alone notPair) inductionHypothesis

/-- A text is empty, starts with a line end, or goes on its first display line. -/
theorem displayLines_induction {motive : Text → List Text → Prop} (nil : motive [] [])
    (returnFeed : ∀ rest, motive rest (displayLines rest) →
      motive ('\r' :: '\n' :: rest) ([] :: displayLines rest))
    (ends : ∀ c rest, endsDisplayLine c = true → (c = '\r' → rest.head? ≠ some '\n') →
      motive rest (displayLines rest) → motive (c :: rest) ([] :: displayLines rest))
    (inside : ∀ c rest, endsDisplayLine c = false → motive rest (displayLines rest) →
      motive (c :: rest) ((c :: (displayLines rest).headD []) :: (displayLines rest).tail))
    (text : Text) : motive text (displayLines text) := by
  induction text using returnFeed_induction with
  | nil =>
      rw [displayLines_nil]
      exact nil
  | pair rest inductionHypothesis =>
      rw [displayLines_returnFeed]
      exact returnFeed rest inductionHypothesis
  | single c rest alone inductionHypothesis =>
      by_cases isEnd : endsDisplayLine c = true
      · rw [displayLines_of_ends isEnd alone]
        exact ends c rest isEnd alone inductionHypothesis
      · have keeps : endsDisplayLine c = false := by simpa using isEnd
        rw [displayLines_of_not_ends keeps]
        exact inside c rest keeps inductionHypothesis

theorem mem_of_mem_headD {lines : List Text} {c : Char} (member : c ∈ lines.headD []) :
    ∃ line ∈ lines, c ∈ line := by
  cases lines with
  | nil => exact absurd member (by simp)
  | cons line lines => exact ⟨line, by simp, member⟩

/-- Display lines have no other characters than the text. -/
theorem mem_of_mem_displayLines {text entry : Text} {c : Char}
    (member : entry ∈ displayLines text) (inEntry : c ∈ entry) : c ∈ text := by
  revert entry
  induction text using displayLines_induction with
  | nil => simp
  | returnFeed rest inductionHypothesis =>
      intro entry member inEntry
      rcases List.mem_cons.mp member with rfl | inRest
      · exact absurd inEntry (by simp)
      · exact List.mem_cons_of_mem _ (List.mem_cons_of_mem _ (inductionHypothesis inRest inEntry))
  | ends d rest _ _ inductionHypothesis =>
      intro entry member inEntry
      rcases List.mem_cons.mp member with rfl | inRest
      · exact absurd inEntry (by simp)
      · exact List.mem_cons_of_mem _ (inductionHypothesis inRest inEntry)
  | inside d rest _ inductionHypothesis =>
      intro entry member inEntry
      rcases List.mem_cons.mp member with rfl | inRest
      · rcases List.mem_cons.mp inEntry with rfl | inFirst
        · exact List.mem_cons_self
        · obtain ⟨line, inLines, inLine⟩ := mem_of_mem_headD inFirst
          exact List.mem_cons_of_mem _ (inductionHypothesis inLines inLine)
      · exact List.mem_cons_of_mem _
          (inductionHypothesis (List.mem_of_mem_tail inRest) inEntry)

/-- Every character of a text that ends no line stands in a display line. -/
theorem exists_mem_displayLines {text : Text} {c : Char} (member : c ∈ text)
    (keeps : endsDisplayLine c = false) : ∃ entry ∈ displayLines text, c ∈ entry := by
  revert member
  have differs : ∀ {d : Char}, endsDisplayLine d = true → c ≠ d := by
    rintro d ends rfl
    rw [keeps] at ends
    exact absurd ends (by decide)
  induction text using displayLines_induction with
  | nil => simp
  | returnFeed rest inductionHypothesis =>
      intro member
      have inRest : c ∈ rest := by
        have behindReturn := (List.mem_cons.mp member).resolve_left (differs (by decide))
        exact (List.mem_cons.mp behindReturn).resolve_left (differs (by decide))
      obtain ⟨entry, inLines, inEntry⟩ := inductionHypothesis inRest
      exact ⟨entry, List.mem_cons_of_mem _ inLines, inEntry⟩
  | ends d rest isEnd _ inductionHypothesis =>
      intro member
      obtain ⟨entry, inLines, inEntry⟩ :=
        inductionHypothesis ((List.mem_cons.mp member).resolve_left (differs isEnd))
      exact ⟨entry, List.mem_cons_of_mem _ inLines, inEntry⟩
  | inside d rest _ inductionHypothesis =>
      intro member
      rcases List.mem_cons.mp member with rfl | inRest
      · exact ⟨_, List.mem_cons_self, List.mem_cons_self⟩
      · obtain ⟨entry, inLines, inEntry⟩ := inductionHypothesis inRest
        generalize displayLines rest = lines at inLines
        cases lines with
        | nil => exact absurd inLines (by simp)
        | cons first others =>
            rcases List.mem_cons.mp inLines with rfl | inOthers
            · exact ⟨_, List.mem_cons_self, List.mem_cons_of_mem _ inEntry⟩
            · exact ⟨entry, List.mem_cons_of_mem _ inOthers, inEntry⟩

/-- A line without line ends inside is one display line. -/
theorem displayLines_line {line : Text} (oneLine : OneLine line) (rest : Text) :
    displayLines (line ++ '\n' :: rest) = line :: displayLines rest := by
  induction line with
  | nil => exact displayLines_of_ends (by decide) fun isReturn => absurd isReturn (by decide)
  | cons c line inductionHypothesis =>
      rw [List.cons_append, displayLines_of_not_ends (oneLine c (by simp)),
        inductionHypothesis fun d member => oneLine d (List.mem_cons_of_mem c member)]
      rfl

/-- Lines without line ends inside are the display lines of the text that they make up. -/
theorem displayLines_flatMap {entries : List Text} (oneLine : ∀ entry ∈ entries, OneLine entry) :
    displayLines (entries.flatMap (· ++ ['\n'])) = entries := by
  induction entries with
  | nil => rfl
  | cons entry entries inductionHypothesis =>
      rw [List.flatMap_cons, List.append_assoc, List.singleton_append,
        displayLines_line (oneLine entry (by simp)),
        inductionHypothesis fun other member => oneLine other (List.mem_cons_of_mem entry member)]

theorem displayLines_ne_nil {text : Text} (nonempty : text ≠ []) : displayLines text ≠ [] := by
  revert nonempty
  induction text using displayLines_induction with
  | nil => exact fun nonempty => absurd rfl nonempty
  | returnFeed _ _ => exact fun _ => List.cons_ne_nil _ _
  | ends _ _ _ _ _ => exact fun _ => List.cons_ne_nil _ _
  | inside _ _ _ _ => exact fun _ => List.cons_ne_nil _ _

/-- What stands behind a text does not make a line feed of its first character. -/
theorem head?_append_ne_feed {text : Text} (nonempty : text ≠ [])
    (notFeed : text.head? ≠ some '\n') (back : Text) : (text ++ back).head? ≠ some '\n' := by
  obtain ⟨c, rest, rfl⟩ := List.exists_cons_of_ne_nil nonempty
  exact notFeed

/-- A line feed cuts a text, also behind a carriage return. -/
theorem displayLines_append_lineFeed (front back : Text) :
    displayLines (front ++ '\n' :: back) =
      displayLines (front ++ ['\n']) ++ displayLines back := by
  induction front using returnFeed_induction with
  | nil =>
      have feed : ∀ rest, displayLines ('\n' :: rest) = [] :: displayLines rest := fun rest =>
        displayLines_of_ends (by decide) fun isReturn => absurd isReturn (by decide)
      rw [List.nil_append, List.nil_append, feed, feed]
      rfl
  | pair rest inductionHypothesis =>
      simp only [List.cons_append, displayLines_returnFeed, inductionHypothesis]
  | single c rest alone inductionHypothesis =>
      rw [List.cons_append, List.cons_append]
      by_cases ends : endsDisplayLine c = true
      · by_cases isLast : c = '\r' ∧ rest = []
        · -- The carriage return ends its line together with the line feed behind it.
          obtain ⟨rfl, rfl⟩ := isLast
          exact (displayLines_returnFeed back).trans (by simp)
        · have staysAlone : ∀ others, c = '\r' → (rest ++ others).head? ≠ some '\n' := by
            intro others isReturn
            apply head?_append_ne_feed
            · exact fun empty => isLast ⟨isReturn, empty⟩
            · exact alone isReturn
          rw [displayLines_of_ends ends (staysAlone _), displayLines_of_ends ends (staysAlone _),
            inductionHypothesis, List.cons_append]
      · have keeps : endsDisplayLine c = false := by simpa using ends
        have nonempty : displayLines (rest ++ ['\n']) ≠ [] := displayLines_ne_nil (by simp)
        obtain ⟨first, others, split⟩ := List.exists_cons_of_ne_nil nonempty
        rw [displayLines_of_not_ends keeps, displayLines_of_not_ends keeps, inductionHypothesis,
          split]
        rfl

/-- A text without line ends goes on with the first display line of what follows. -/
theorem displayLines_append {front : Text} (oneLine : OneLine front) (nonempty : front ≠ [])
    (back : Text) :
    displayLines (front ++ back) =
      (front ++ (displayLines back).headD []) :: (displayLines back).tail := by
  induction front with
  | nil => exact absurd rfl nonempty
  | cons c front inductionHypothesis =>
      rw [List.cons_append, displayLines_of_not_ends (oneLine c (by simp))]
      by_cases isLast : front = []
      · subst isLast
        rfl
      · rw [inductionHypothesis (fun d member => oneLine d (List.mem_cons_of_mem c member)) isLast]
        rfl

/-- A character that ends no line parts a text into its display lines up to the one that the
character stands on, and those of what follows. -/
theorem displayLines_append_inside {c : Char} (inside : endsDisplayLine c = false) (front : Text) :
    ∃ whole last, ∀ back, displayLines (front ++ c :: back) =
      whole ++ (last ++ c :: (displayLines back).headD []) :: (displayLines back).tail := by
  have notFeed : ∀ back : Text, (c :: back).head? ≠ some '\n' := by
    intro back same
    rw [Option.some.inj same] at inside
    exact absurd inside (by decide)
  induction front using returnFeed_induction with
  | nil => exact ⟨[], [], fun back => displayLines_of_not_ends inside back⟩
  | pair rest inductionHypothesis =>
      obtain ⟨whole, last, goesOn⟩ := inductionHypothesis
      refine ⟨[] :: whole, last, fun back => ?_⟩
      simp only [List.cons_append, displayLines_returnFeed, goesOn]
  | single d rest alone inductionHypothesis =>
      obtain ⟨whole, last, goesOn⟩ := inductionHypothesis
      by_cases ends : endsDisplayLine d = true
      · have staysAlone : ∀ back, d = '\r' → (rest ++ c :: back).head? ≠ some '\n' := by
          intro back isReturn
          by_cases isEmpty : rest = []
          · rw [isEmpty]
            exact notFeed back
          · exact head?_append_ne_feed isEmpty (alone isReturn) _
        refine ⟨[] :: whole, last, fun back => ?_⟩
        rw [List.cons_append, displayLines_of_ends ends (staysAlone back), goesOn,
          List.cons_append]
      · have keeps : endsDisplayLine d = false := by simpa using ends
        cases whole with
        | nil =>
            refine ⟨[], d :: last, fun back => ?_⟩
            rw [List.cons_append, displayLines_of_not_ends keeps, goesOn]
            rfl
        | cons first whole =>
            refine ⟨(d :: first) :: whole, last, fun back => ?_⟩
            rw [List.cons_append, displayLines_of_not_ends keeps, goesOn]
            rfl

/-- No line end stands inside a display line. -/
theorem oneLine_of_mem_displayLines {text entry : Text} (member : entry ∈ displayLines text) :
    OneLine entry := by
  revert entry
  induction text using displayLines_induction with
  | nil => simp
  | returnFeed rest inductionHypothesis =>
      intro entry member
      rcases List.mem_cons.mp member with rfl | inRest
      · exact fun c inEmpty => absurd inEmpty (by simp)
      · exact inductionHypothesis inRest
  | ends c rest _ _ inductionHypothesis =>
      intro entry member
      rcases List.mem_cons.mp member with rfl | inRest
      · exact fun c inEmpty => absurd inEmpty (by simp)
      · exact inductionHypothesis inRest
  | inside c rest keeps inductionHypothesis =>
      intro entry member
      rcases List.mem_cons.mp member with rfl | inRest
      · intro d inEntry
        rcases List.mem_cons.mp inEntry with rfl | inFirst
        · exact keeps
        · obtain ⟨line, inLines, inLine⟩ := mem_of_mem_headD inFirst
          exact inductionHypothesis inLines d inLine
      · exact inductionHypothesis (List.mem_of_mem_tail inRest)

/-! ## Physical lines -/

theorem physicalLines_of_ne {c : Char} (notFeed : c ≠ '\n') (notReturn : c ≠ '\r') (rest : Text) :
    physicalLines (c :: rest) =
      (c :: (physicalLines rest).headD []) :: (physicalLines rest).tail := by
  rw [physicalLines, if_neg (by simp [notFeed, notReturn])]
  · cases physicalLines rest with
    | nil => rfl
    | cons first others => rfl
  · exact fun _ isReturn => absurd isReturn notReturn

theorem physicalLines_pair (rest : Text) :
    physicalLines ('\r' :: '\n' :: rest) = ['\r', '\n'] :: physicalLines rest := by
  rw [physicalLines]

/-- A character that ends a line, other than a carriage return before a line feed. -/
theorem physicalLines_end {c : Char} (ends : c = '\n' ∨ c = '\r') {rest : Text}
    (alone : c = '\r' → rest.head? ≠ some '\n') :
    physicalLines (c :: rest) = [c] :: physicalLines rest := by
  rw [physicalLines, if_pos (by simpa using ends)]
  rintro others rfl rfl
  exact alone rfl rfl

/-- Joining the physical lines of a text gives the text. -/
theorem flatten_physicalLines (text : Text) : (physicalLines text).flatten = text := by
  induction text using returnFeed_induction with
  | nil => rfl
  | pair rest inductionHypothesis =>
      rw [physicalLines_pair, List.flatten_cons, inductionHypothesis]
      rfl
  | single c rest alone inductionHypothesis =>
      by_cases ends : c = '\n' ∨ c = '\r'
      · rw [physicalLines_end ends alone, List.flatten_cons, inductionHypothesis]
        rfl
      · rw [not_or] at ends
        rw [physicalLines_of_ne ends.1 ends.2]
        cases cut : physicalLines rest with
        | nil =>
            rw [cut] at inductionHypothesis
            simp [← inductionHypothesis]
        | cons first others =>
            rw [cut] at inductionHypothesis
            simp [← inductionHypothesis]

/-- The ways in which a physical line ends. -/
def IsPhysicalEnd (ending : Text) : Prop :=
  ending = ['\n'] ∨ ending = ['\r', '\n']

/-- Characters that end no line, and a line end behind them, which the last line of a text may lack. -/
def IsPhysicalLine (line : Text) : Prop :=
  ∃ body ending, line = body ++ ending ∧ '\n' ∉ body ∧ '\r' ∉ body ∧
    (ending = [] ∨ ending = ['\r'] ∨ IsPhysicalEnd ending)

theorem IsPhysicalLine.cons {line : Text} (isLine : IsPhysicalLine line) {c : Char}
    (notFeed : c ≠ '\n') (notReturn : c ≠ '\r') : IsPhysicalLine (c :: line) := by
  obtain ⟨body, ending, rfl, noFeed, noReturn, isEnd⟩ := isLine
  refine ⟨c :: body, ending, rfl, ?_, ?_, isEnd⟩
  · exact List.not_mem_cons_of_ne_of_not_mem (Ne.symm notFeed) noFeed
  · exact List.not_mem_cons_of_ne_of_not_mem (Ne.symm notReturn) noReturn

theorem isPhysicalLine_of_mem {text line : Text} (member : line ∈ physicalLines text) :
    IsPhysicalLine line := by
  induction text using returnFeed_induction generalizing line with
  | nil => exact absurd member List.not_mem_nil
  | pair rest inductionHypothesis =>
      rw [physicalLines_pair] at member
      rcases List.mem_cons.mp member with rfl | later
      · exact ⟨[], _, rfl, List.not_mem_nil, List.not_mem_nil, .inr (.inr (.inr rfl))⟩
      · exact inductionHypothesis later
  | single c rest alone inductionHypothesis =>
      by_cases ends : c = '\n' ∨ c = '\r'
      · rw [physicalLines_end ends alone] at member
        rcases List.mem_cons.mp member with rfl | later
        · refine ⟨[], [c], rfl, List.not_mem_nil, List.not_mem_nil, ?_⟩
          exact ends.elim (fun isFeed => .inr (.inr (.inl (by rw [isFeed]))))
            fun isReturn => .inr (.inl (by rw [isReturn]))
        · exact inductionHypothesis later
      · rw [not_or] at ends
        rw [physicalLines_of_ne ends.1 ends.2] at member
        rcases List.mem_cons.mp member with rfl | later
        · apply IsPhysicalLine.cons _ ends.1 ends.2
          cases cut : physicalLines rest with
          | nil => exact ⟨[], [], rfl, by simp⟩
          | cons first others =>
              rw [cut] at inductionHypothesis
              exact inductionHypothesis List.mem_cons_self
        · exact inductionHypothesis (List.mem_of_mem_tail later)

theorem IsPhysicalLine.count_le {line : Text} (isLine : IsPhysicalLine line) :
    line.count '\n' ≤ 1 := by
  obtain ⟨body, ending, rfl, noFeed, -, isEnd⟩ := isLine
  rw [List.count_append, List.count_eq_zero.mpr noFeed]
  rcases isEnd with rfl | rfl | rfl | rfl <;> decide

/-- A physical line with a line feed has nothing behind it. -/
theorem IsPhysicalLine.isWhole {line : Text} (isLine : IsPhysicalLine line) (feed : '\n' ∈ line) :
    IsWhole line := by
  obtain ⟨body, ending, rfl, noFeed, -, isEnd⟩ := isLine
  rcases isEnd with rfl | rfl | rfl | rfl
  · exact absurd feed (by simpa using noFeed)
  · exact absurd feed (by simpa using noFeed)
  · exact ⟨body, noFeed, rfl⟩
  · exact ⟨body ++ ['\r'], by simpa using noFeed, by simp⟩

/-- A text without line ends is a physical line with the line end behind it. -/
theorem physicalLines_line {body ending : Text} (noFeed : '\n' ∉ body) (noReturn : '\r' ∉ body)
    (isEnd : IsPhysicalEnd ending) (rest : Text) :
    physicalLines (body ++ ending ++ rest) = (body ++ ending) :: physicalLines rest := by
  induction body with
  | nil =>
      rcases isEnd with rfl | rfl
      · rw [List.nil_append, List.singleton_append, physicalLines, if_pos (by decide)]
        exact fun _ isReturn => absurd isReturn (by decide)
      · simp [physicalLines]
  | cons c body inductionHypothesis =>
      rw [List.mem_cons, not_or] at noFeed noReturn
      rw [List.cons_append, List.cons_append,
        physicalLines_of_ne (fun same => noFeed.1 same.symm) fun same => noReturn.1 same.symm,
        inductionHypothesis noFeed.2 noReturn.2]
      rfl

/-- Lines without line ends inside are the physical lines of the text that they make up. -/
theorem physicalLines_flatten {bodies : List Text} {ending : Text} (isEnd : IsPhysicalEnd ending)
    (noEnd : ∀ body ∈ bodies, '\n' ∉ body ∧ '\r' ∉ body) :
    physicalLines (bodies.map (· ++ ending)).flatten = bodies.map (· ++ ending) := by
  induction bodies with
  | nil => rfl
  | cons body bodies inductionHypothesis =>
      obtain ⟨noFeed, noReturn⟩ := noEnd body (by simp)
      rw [List.map_cons, List.flatten_cons, physicalLines_line noFeed noReturn isEnd,
        inductionHypothesis fun other member => noEnd other (List.mem_cons_of_mem body member)]

/-- The first physical line runs through the characters in front of the first line end. -/
theorem physicalLines_first {front : Text} (noFeed : '\n' ∉ front) (noReturn : '\r' ∉ front)
    (c : Char) (rest : Text) :
    ∃ others lines, physicalLines (front ++ c :: rest) = (front ++ c :: others) :: lines := by
  induction front with
  | nil =>
      unfold physicalLines
      split
      · next isNil => exact absurd isNil (by simp)
      · next rest same =>
          obtain ⟨rfl, -⟩ := List.cons.inj same
          exact ⟨['\n'], physicalLines rest, rfl⟩
      · next d others same =>
          obtain ⟨rfl, rfl⟩ := List.cons.inj same
          split
          · exact ⟨[], _, rfl⟩
          · split
            · exact ⟨[], _, rfl⟩
            · exact ⟨_, _, rfl⟩
  | cons d front inductionHypothesis =>
      rw [List.mem_cons, not_or] at noFeed noReturn
      obtain ⟨others, lines, cut⟩ := inductionHypothesis noFeed.2 noReturn.2
      rw [List.cons_append,
        physicalLines_of_ne (fun same => noFeed.1 same.symm) fun same => noReturn.1 same.symm, cut]
      exact ⟨others, lines, rfl⟩

/-- A carriage return stands in front of a character that is no line feed. -/
def HasLoneReturn (text : Text) : Prop :=
  ∃ front c back, c ≠ '\n' ∧ text = front ++ '\r' :: c :: back

theorem HasLoneReturn.behind {back : Text} (lone : HasLoneReturn back) (front : Text) :
    HasLoneReturn (front ++ back) := by
  obtain ⟨before, c, rest, notFeed, rfl⟩ := lone
  exact ⟨front ++ before, c, rest, notFeed, (List.append_assoc _ _ _).symm⟩

theorem hasLoneReturn_cons {c : Char} {rest : Text} :
    HasLoneReturn (c :: rest) ↔
      (c = '\r' ∧ ∃ d, rest.head? = some d ∧ d ≠ '\n') ∨ HasLoneReturn rest := by
  constructor
  · rintro ⟨front, d, back, notFeed, split⟩
    cases front with
    | nil =>
        obtain ⟨rfl, rfl⟩ := List.cons.inj split
        exact .inl ⟨rfl, d, rfl, notFeed⟩
    | cons first front =>
        obtain ⟨-, rfl⟩ := List.cons.inj split
        exact .inr ⟨front, d, back, notFeed, rfl⟩
  · rintro (⟨rfl, d, isHead, notFeed⟩ | lone)
    · obtain ⟨back, rfl⟩ := List.head?_eq_some_iff.mp isHead
      exact ⟨[], d, back, notFeed, rfl⟩
    · exact lone.behind [c]

/-- A lone carriage return stands in front of a line end, or behind it. -/
theorem HasLoneReturn.parted {body rest : Text} (lone : HasLoneReturn (body ++ '\n' :: rest)) :
    HasLoneReturn (body ++ ['\n']) ∨ HasLoneReturn rest := by
  induction body with
  | nil => exact .inr ((hasLoneReturn_cons.mp lone).resolve_left fun found => by simp at found)
  | cons c body inductionHypothesis =>
      rcases hasLoneReturn_cons.mp lone with ⟨isReturn, d, isHead, notFeed⟩ | later
      · refine .inl (hasLoneReturn_cons.mpr (.inl ⟨isReturn, d, ?_, notFeed⟩))
        cases body with
        | nil => exact isHead
        | cons e body => exact isHead
      · rcases inductionHypothesis later with inLine | inRest
        · exact .inl (inLine.behind [c])
        · exact .inr inRest

/-- A lone carriage return stands inside one line. -/
theorem HasLoneReturn.exists_line {cut : List Text} (shape : AreLines cut)
    (lone : HasLoneReturn cut.flatten) : ∃ line ∈ cut, HasLoneReturn line := by
  induction shape with
  | nil =>
      obtain ⟨front, c, back, -, split⟩ := lone
      exact absurd split (by simp)
  | @last line _ _ => exact ⟨line, List.mem_singleton_self line, by simpa using lone⟩
  | @cons body rest _ _ inductionHypothesis =>
      rw [List.flatten_cons, List.append_assoc] at lone
      rcases lone.parted with inLine | inRest
      · exact ⟨_, List.mem_cons_self, inLine⟩
      · obtain ⟨line, member, inLine⟩ := inductionHypothesis inRest
        exact ⟨line, List.mem_cons_of_mem _ member, inLine⟩

theorem HasLoneReturn.of_mem {cut : List Text} {line : Text} (member : line ∈ cut)
    (lone : HasLoneReturn line) : HasLoneReturn cut.flatten := by
  obtain ⟨above, below, rfl⟩ := List.append_of_mem member
  obtain ⟨front, c, back, notFeed, rfl⟩ := lone
  exact ⟨above.flatten ++ front, c, back ++ below.flatten, notFeed, by simp⟩

/-- Without lone carriage returns the physical lines are those that end at line feeds. -/
theorem physicalLines_eq_lines {text : Text} (uniform : ¬ HasLoneReturn text) :
    physicalLines text = lines text := by
  induction text with
  | nil => rfl
  | cons c rest inductionHypothesis =>
      have same := inductionHypothesis fun lone => uniform (lone.behind [c])
      by_cases isFeed : c = '\n'
      · rw [isFeed, physicalLines, lines, if_pos (by decide), if_pos rfl, same]
        exact fun _ isReturn => absurd isReturn (by decide)
      · by_cases isReturn : c = '\r'
        · subst isReturn
          cases rest with
          | nil => rfl
          | cons d others =>
              have isPair : d = '\n' := Decidable.byContradiction fun notFeed =>
                uniform ⟨[], d, others, notFeed, rfl⟩
              subst isPair
              rw [lines_of_ne isFeed, ← same, physicalLines, physicalLines, if_pos (by decide)]
              · rfl
              · exact fun _ isReturn => absurd isReturn (by decide)
        · rw [physicalLines_of_ne isFeed isReturn, lines_of_ne isFeed, same]

end SchemaDoc.Text
