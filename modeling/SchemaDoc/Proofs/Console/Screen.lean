import Mathlib.Data.List.Basic
import SchemaDoc.Console.Screen
import SchemaDoc.Proofs.Text.Blank

/-!
Contract: what a screen shows of a line that is broken.

The parts that a line is broken into make up the line (`flatten_breakWords`), and no part is wider than
the screen when the white space at its end is left out (`widthOf_trimEnd_of_mem_breakWords`). Of each
part the columns of the screen are shown (`breakLine_eq_map_take`), so nothing but white space is lost.

Main statement: `shows_of_fits`.
-/

namespace SchemaDoc.Console.Screen

open Text (Blank)

variable {screen : Screen} {line : Text}

/-! ## Widths -/

@[simp]
theorem widthOf_nil (screen : Screen) : screen.widthOf [] = 0 :=
  rfl

@[simp]
theorem widthOf_cons (screen : Screen) (c : Char) (rest : Text) :
    screen.widthOf (c :: rest) = screen.columns c + screen.widthOf rest :=
  rfl

theorem widthOf_append (screen : Screen) (front back : Text) :
    screen.widthOf (front ++ back) = screen.widthOf front + screen.widthOf back := by
  induction front with
  | nil => rw [List.nil_append, widthOf_nil, Nat.zero_add]
  | cons c rest inductionHypothesis =>
      rw [List.cons_append, widthOf_cons, widthOf_cons, inductionHypothesis, Nat.add_assoc]

theorem widthOf_reverse (screen : Screen) (text : Text) :
    screen.widthOf text.reverse = screen.widthOf text := by
  induction text with
  | nil => rfl
  | cons c rest inductionHypothesis =>
      rw [List.reverse_cons, widthOf_append, inductionHypothesis, widthOf_cons, widthOf_cons,
        widthOf_nil]
      omega

/-- What changes no text of a list leaves the list as it is. -/
theorem map_eq_self {change : Text → Text} {texts : List Text} (same : ∀ text ∈ texts, change text = text) :
    texts.map change = texts :=
  (List.map_congr_left same).trans (List.map_id _)

/-- A text is the same without the white space at its end, and that white space. -/
theorem exists_trimEnd_append (text : Text) : ∃ back, Blank back ∧ text = Text.trimEnd text ++ back := by
  refine ⟨(text.reverse.takeWhile Text.isBlank).reverse, ?_, ?_⟩
  · intro c member
    exact List.all_eq_true.mp List.all_takeWhile c (List.mem_reverse.mp member)
  · unfold Text.trimEnd
    rw [← List.reverse_append, List.takeWhile_append_dropWhile, List.reverse_reverse]

theorem widthOf_trimEnd_le (screen : Screen) (text : Text) :
    screen.widthOf (Text.trimEnd text) ≤ screen.widthOf text := by
  obtain ⟨back, -, whole⟩ := exists_trimEnd_append text
  have width := congrArg screen.widthOf whole
  rw [widthOf_append] at width
  omega

theorem widthOf_eq_length (single : ∀ c ∈ line, screen.columns c = 1) :
    screen.widthOf line = line.length := by
  induction line with
  | nil => rfl
  | cons c rest inductionHypothesis =>
      rw [List.forall_mem_cons] at single
      rw [widthOf_cons, single.1, inductionHypothesis single.2, List.length_cons, Nat.add_comm]

/-! ## Nothing is lost -/

theorem flatten_wordsFrom (done text : Text) : (wordsFrom done text).flatten = done.reverse ++ text := by
  induction text generalizing done with
  | nil => simp [wordsFrom]
  | cons c rest inductionHypothesis =>
      rw [wordsFrom]
      split
      · rw [List.flatten_cons, inductionHypothesis]
        rfl
      · rw [inductionHypothesis, List.reverse_cons, List.append_assoc]
        rfl

theorem flatten_chopFrom (screen : Screen) (column : Nat) (done text : Text) :
    (screen.chopFrom column done text).flatten = done.reverse ++ text := by
  induction text generalizing column done with
  | nil => simp [chopFrom]
  | cons c rest inductionHypothesis =>
      rw [chopFrom]
      split
      · rw [inductionHypothesis, List.reverse_cons, List.append_assoc]
        rfl
      · rw [List.flatten_cons, inductionHypothesis]
        rfl

theorem flatten_dropWhile_isEmpty (parts : List Text) :
    (parts.dropWhile List.isEmpty).flatten = parts.flatten := by
  induction parts with
  | nil => rfl
  | cons part rest inductionHypothesis =>
      rw [List.dropWhile_cons]
      split
      · next isEmpty => rw [inductionHypothesis, List.flatten_cons, List.isEmpty_iff.mp isEmpty, List.nil_append]
      · rfl

theorem flatten_dropLast_append (lines : List Text) :
    lines.dropLast.flatten ++ lines.getLastD [] = lines.flatten := by
  rcases lines.eq_nil_or_concat with rfl | ⟨front, last, rfl⟩
  · rfl
  · simp

/-- The parts of a line make up the line, behind what stands there already. -/
theorem flatten_breakWords (screen : Screen) (line : Text) (column : Nat) (words : List Text) :
    (screen.breakWords line column words).flatten = line ++ words.flatten := by
  induction words generalizing line column with
  | nil => simp [breakWords]
  | cons word rest inductionHypothesis =>
      rw [breakWords]
      extract_lets parts lines last
      split
      · rw [inductionHypothesis, List.flatten_cons, List.append_assoc]
      · split
        · rw [List.flatten_cons, inductionHypothesis, List.flatten_cons]
        · have whole : lines.flatten = line ++ word := by
            have chopped : parts.flatten = word := flatten_chopFrom screen 0 [] word
            unfold lines
            split
            · next isEmpty => rw [flatten_dropWhile_isEmpty, chopped, List.isEmpty_iff.mp isEmpty, List.nil_append]
            · rw [List.flatten_cons, chopped]
          rw [List.flatten_append, inductionHypothesis, ← List.append_assoc, flatten_dropLast_append,
            whole, List.flatten_cons, List.append_assoc]

/-! ## Every part has room -/

theorem widthOf_of_mem_chopFrom {column : Nat} {done text : Text}
    (isColumn : screen.widthOf done = column) (hasRoom : column ≤ screen.width)
    (small : ∀ c ∈ text, screen.columns c ≤ screen.width) :
    ∀ part ∈ screen.chopFrom column done text, screen.widthOf part ≤ screen.width := by
  induction text generalizing column done with
  | nil =>
      intro part member
      rw [List.mem_singleton.mp member, widthOf_reverse, isColumn]
      exact hasRoom
  | cons c rest inductionHypothesis =>
      rw [List.forall_mem_cons] at small
      rw [chopFrom]
      split
      · next fits => exact inductionHypothesis (by rw [widthOf_cons, isColumn, Nat.add_comm]) fits small.2
      · rw [List.forall_mem_cons]
        refine ⟨?_, inductionHypothesis (by simp [widthOf]) small.1 small.2⟩
        rw [widthOf_reverse, isColumn]
        exact hasRoom

/-- A part that is not full goes on with a word that has room. -/
theorem widthOf_trimEnd_append {word : Text} (lineFits : screen.widthOf (Text.trimEnd line) ≤ screen.width)
    (hasRoom : screen.widthOf line + screen.widthOf (Text.trimEnd word) ≤ screen.width) :
    screen.widthOf (Text.trimEnd (line ++ word)) ≤ screen.width := by
  obtain ⟨back, isBlank, whole⟩ := exists_trimEnd_append word
  rw [whole, ← List.append_assoc, Text.trimEnd_append_blank isBlank]
  cases solid : Text.trimEnd word with
  | nil => rwa [List.append_nil]
  | cons c rest =>
      rw [solid] at hasRoom
      have shorter := widthOf_trimEnd_le screen (line ++ c :: rest)
      rw [widthOf_append] at shorter
      omega

theorem widthOf_trimEnd_of_mem_breakWords {words : List Text}
    (small : ∀ word ∈ words, ∀ c ∈ word, screen.columns c ≤ screen.width)
    (lineFits : screen.widthOf (Text.trimEnd line) ≤ screen.width) :
    ∀ part ∈ screen.breakWords line (screen.widthOf line) words,
      screen.widthOf (Text.trimEnd part) ≤ screen.width := by
  induction words generalizing line with
  | nil =>
      intro part member
      rwa [List.mem_singleton.mp member]
  | cons word rest inductionHypothesis =>
      rw [List.forall_mem_cons] at small
      rw [breakWords]
      extract_lets parts lines last
      split
      · next hasRoom =>
          rw [← widthOf_append]
          exact inductionHypothesis small.2 (widthOf_trimEnd_append lineFits hasRoom)
      · split
        · next wordFits => exact List.forall_mem_cons.mpr ⟨lineFits, inductionHypothesis small.2 wordFits⟩
        · have partFits : ∀ part ∈ parts, screen.widthOf (Text.trimEnd part) ≤ screen.width := by
            intro part member
            have fits : screen.widthOf part ≤ screen.width :=
              widthOf_of_mem_chopFrom (show screen.widthOf [] = 0 from rfl) (Nat.zero_le _) small.1
                part member
            exact Nat.le_trans (widthOf_trimEnd_le screen part) fits
          have fits : ∀ part ∈ lines, screen.widthOf (Text.trimEnd part) ≤ screen.width := by
            unfold lines
            split
            · exact fun part member => partFits part ((List.dropWhile_suffix _).subset member)
            · exact List.forall_mem_cons.mpr ⟨lineFits, partFits⟩
          have lastFits : screen.widthOf (Text.trimEnd last) ≤ screen.width := by
            rcases lines.eq_nil_or_concat with isNil | ⟨front, final, isConcat⟩
            · rw [show last = [] by simp [last, isNil]]
              exact Nat.zero_le _
            · rw [show last = final by simp [last, isConcat]]
              exact fits final (by simp [isConcat])
          rw [List.forall_mem_append]
          exact ⟨fun part member => fits part (List.dropLast_subset _ member),
            inductionHypothesis small.2 lastFits⟩

/-! ## Shown columns -/

/-- What is cut has room. -/
theorem widthOf_cut_le (space : screen.columns ' ' ≤ 1) (room : Nat) (text : Text) :
    screen.widthOf (screen.cut room text) ≤ room := by
  induction text generalizing room with
  | nil => exact Nat.zero_le _
  | cons c rest inductionHypothesis =>
      rw [cut]
      split
      · have behind := inductionHypothesis (room - screen.columns c)
        rw [widthOf_cons]
        omega
      · split
        · exact Nat.zero_le _
        · rw [widthOf_cons, widthOf_nil]
          omega

/-- No line on the screen is wider than the screen. -/
theorem widthOf_of_mem_breakLine (space : screen.columns ' ' ≤ 1) (line : Text) :
    ∀ part ∈ screen.breakLine line, screen.widthOf part ≤ screen.width := by
  unfold breakLine
  exact List.forall_mem_map.mpr fun part _ => widthOf_cut_le space _ _

theorem cut_of_fits {room : Nat} (single : ∀ c ∈ line, screen.columns c = 1)
    (fits : line.length ≤ room) : screen.cut room line = line := by
  induction line generalizing room with
  | nil => rfl
  | cons c rest inductionHypothesis =>
      rw [List.forall_mem_cons] at single
      rw [List.length_cons] at fits
      rw [cut, if_pos (by omega), inductionHypothesis single.2 (by omega)]

/-- White space at the end is dropped up to the last column. -/
theorem dropBeyond_of_fits (fits : (Text.trimEnd line).length ≤ screen.width) :
    screen.dropBeyond line = line.take screen.width := by
  have blanks : (line.reverse.takeWhile Text.isBlank).length + (Text.trimEnd line).length =
      line.length := by
    have whole : line.reverse.takeWhile Text.isBlank ++ line.reverse.dropWhile Text.isBlank =
        line.reverse := List.takeWhile_append_dropWhile
    rw [Text.trimEnd, List.length_reverse, ← List.length_append, whole, List.length_reverse]
  unfold dropBeyond
  extract_lets count
  by_cases isWide : screen.width < line.length
  · rw [show line.length - min count (line.length - screen.width) = screen.width by omega]
  · rw [List.take_of_length_le (by omega), List.take_of_length_le (by omega)]

/-- A line of ordinary characters is broken into parts; each part is shown up to the last column, and
only white space stands behind that. -/
theorem breakLine_eq_map_take (single : ∀ c ∈ line, screen.columns c = 1) (room : 0 < screen.width) :
    ∃ parts : List Text, parts.flatten = line ∧
      screen.breakLine line = parts.map (List.take screen.width) ∧
        ∀ part ∈ parts, Blank (part.drop screen.width) := by
  have flat : (wordsFrom [] line).flatten = line := flatten_wordsFrom [] line
  have whole : (screen.breakWords [] 0 (wordsFrom [] line)).flatten = line :=
    (flatten_breakWords screen [] 0 _).trans flat
  have fits : ∀ part ∈ screen.breakWords [] 0 (wordsFrom [] line),
      (Text.trimEnd part).length ≤ screen.width := by
    intro part member
    have partSingle : ∀ c ∈ Text.trimEnd part, screen.columns c = 1 := by
      intro c inside
      have inPart : c ∈ part := (Text.trimEnd_prefix part).subset inside
      exact single c (whole ▸ List.mem_flatten_of_mem member inPart)
    rw [← widthOf_eq_length partSingle]
    refine widthOf_trimEnd_of_mem_breakWords ?_ (Nat.zero_le _) part member
    intro word isWord c inside
    rw [single c (flat ▸ List.mem_flatten_of_mem isWord inside)]
    exact room
  refine ⟨_, whole, ?_, ?_⟩
  · refine List.map_congr_left fun part member => ?_
    rw [dropBeyond_of_fits (fits part member), cut_of_fits _ (List.length_take_le _ _)]
    intro c inside
    exact single c (whole ▸ List.mem_flatten_of_mem member (List.mem_of_mem_take inside))
  · intro part member
    obtain ⟨back, isBlank, split⟩ := exists_trimEnd_append part
    have short := fits part member
    rw [split, List.drop_append, List.drop_eq_nil_of_le short, List.nil_append]
    exact fun c inside => isBlank c (List.mem_of_mem_drop inside)

/-! ## What fits -/

theorem breakWords_of_fits {column : Nat} {words : List Text}
    (fits : column + screen.widthOf words.flatten ≤ screen.width) :
    screen.breakWords line column words = [line ++ words.flatten] := by
  induction words generalizing line column with
  | nil => simp [breakWords]
  | cons word rest inductionHypothesis =>
      rw [List.flatten_cons, widthOf_append] at fits
      have trimmed := widthOf_trimEnd_le screen word
      rw [breakWords, if_pos (by omega), inductionHypothesis (by omega), List.flatten_cons,
        List.append_assoc]

theorem dropBeyond_of_length_le (fits : line.length ≤ screen.width) : screen.dropBeyond line = line := by
  have trimmed := (Text.trimEnd_prefix line).length_le
  rw [dropBeyond_of_fits (by omega), List.take_of_length_le fits]

theorem breakLine_of_fits (single : ∀ c ∈ line, screen.columns c = 1)
    (fits : line.length ≤ screen.width) : screen.breakLine line = [line] := by
  have flat : (wordsFrom [] line).flatten = line := flatten_wordsFrom [] line
  have whole : screen.breakWords [] 0 (wordsFrom [] line) = [line] := by
    rw [breakWords_of_fits, flat, List.nil_append]
    rw [flat, widthOf_eq_length single]
    omega
  rw [breakLine, whole, List.map_singleton, dropBeyond_of_length_le fits, cut_of_fits single fits]

theorem showSymbols_of_plain (screen : Screen) {text : Text} (plain : ':' ∉ text) :
    screen.showSymbols text = text := by
  induction text with
  | nil => rw [showSymbols]
  | cons c rest inductionHypothesis =>
      rw [List.mem_cons, not_or] at plain
      rw [showSymbols, if_neg (Ne.symm plain.1), inductionHypothesis plain.2]

theorem expandTabs_of_plain (screen : Screen) (column : Nat) {text : Text} (plain : '\t' ∉ text) :
    screen.expandTabs column text = text := by
  induction text generalizing column with
  | nil => rfl
  | cons c rest inductionHypothesis =>
      rw [List.mem_cons, not_or] at plain
      rw [expandTabs, if_neg (Ne.symm plain.1), inductionHypothesis _ plain.2]

theorem linesOf_of_plain (screen : Screen) {text : Text}
    (plain : ∀ c ∈ text, c ≠ '\t' ∧ movesCursor c = false) :
    screen.linesOf text = Text.splitOnChar '\n' text := by
  have kept : text.filter (fun c => !movesCursor c) = text :=
    List.filter_eq_self.mpr fun c member => by rw [(plain c member).2, Bool.not_false]
  have tabless : '\t' ∉ text := fun member => (plain _ member).1 rfl
  rw [linesOf, kept]
  refine map_eq_self fun line member => ?_
  exact expandTabs_of_plain screen 0 fun inside => tabless (Text.mem_of_mem_splitOnChar member inside)

/-- Runs of ordinary characters whose lines fit are shown as they are. -/
theorem shows_of_fits {runs : List Text}
    (plain : ∀ c ∈ runs.flatten, c ≠ ':' ∧ c ≠ '\t' ∧ movesCursor c = false)
    (single : ∀ c ∈ runs.flatten, screen.columns c = 1)
    (fits : ∀ line ∈ Text.splitOnChar '\n' runs.flatten, line.length ≤ screen.width)
    (breaks : Bool) : screen.shows breaks runs = runs.flatten := by
  have unchanged : runs.flatMap screen.showSymbols = runs.flatten := by
    rw [List.flatMap_def, map_eq_self]
    intro text member
    exact showSymbols_of_plain screen fun inside =>
      (plain _ (List.mem_flatten_of_mem member inside)).1 rfl
  rw [shows, unchanged, linesOf_of_plain screen fun c member => (plain c member).2]
  generalize isLines : Text.splitOnChar '\n' runs.flatten = lines at fits ⊢
  have inText {line : Text} (member : line ∈ lines) {c : Char} (inside : c ∈ line) :
      c ∈ runs.flatten := Text.mem_of_mem_splitOnChar (isLines ▸ member) inside
  have broken : lines.flatMap screen.breakLine = lines := by
    refine (List.flatMap_congr fun line member => ?_).trans (List.flatMap_singleton' lines)
    exact breakLine_of_fits (fun c inside => single c (inText member inside)) (fits line member)
  have unbroken : lines.map screen.dropBeyond = lines :=
    map_eq_self fun line member => dropBeyond_of_length_le (fits line member)
  rw [broken, unbroken, ite_self, ← isLines]
  exact Text.join_splitOnChar '\n' runs.flatten

end SchemaDoc.Console.Screen
