import Mathlib.Data.List.Basic
import SchemaDoc.Proofs.Block.WellMarked

/-!
Contract: the blocks of several classes of one text, replaced one after the other.

The classes start on lines of code that move with the blocks above them and with nothing else
(`FollowsLines`), and every begin marker opens a complete block. Then the replacements succeed in
every order, every order gives the same text, and each class has its one block directly above its
definition (`replaceEach_perm`). What one removal and one insertion preserve is `Arranged`.
-/

namespace SchemaDoc.Block

/-- A class and the block that is rendered for it. -/
structure Entry where
  qualname : Text
  block : Text
  unspaced : Text.Unspaced qualname
  plain : IsPlain qualname block

variable {locate : Text → Text → Except PlacementFault Nat} {entries : List Entry}
  {content text qualname : Text} {entry other : Entry}

/-- The blocks of several classes, replaced one after the other. -/
def replaceEach (locate : Text → Text → Except PlacementFault Nat) (entries : List Entry)
    (content : Text) : Except PlacementFault Text :=
  entries.foldlM (fun text entry => replaceWith locate text entry.qualname entry.block) content

/-- The definition of the class starts on the line at a place, counted from zero. -/
def StartsOn (locate : Text → Text → Except PlacementFault Nat) (text qualname : Text)
    (place : Nat) : Prop :=
  ∃ line, locate text qualname = .ok line ∧ place = line - 1

/-- The texts that removing and inserting the blocks of classes leads to. -/
inductive Reached (locate : Text → Text → Except PlacementFault Nat) (entries : List Entry)
    (content : Text) : Text → Prop
  | start : Reached locate entries content content
  | removed {text : Text} {entry : Entry} : Reached locate entries content text →
      entry ∈ entries → Reached locate entries content (strip entry.qualname text)
  | inserted {text result : Text} {entry : Entry} : Reached locate entries content text →
      entry ∈ entries → strip entry.qualname text = text →
      insertWith locate text entry.qualname entry.block = .ok result →
      Reached locate entries content result

/-- Removing and inserting blocks of the classes moves each class by the lines that go and come
above it, and by nothing else. -/
structure FollowsLines (locate : Text → Text → Except PlacementFault Nat) (entries : List Entry)
    (content : Text) : Prop where
  removing : ∀ {text : Text} {entry other : Entry} {place : Nat},
    Reached locate entries content text → entry ∈ entries → other ∈ entries →
    StartsOn locate text other.qualname place →
    StartsOn locate (strip entry.qualname text) other.qualname
      (stripLines entry.qualname ((Text.lines text).take place)).length
  inserting : ∀ {text result : Text} {entry other : Entry} {insertion place : Nat},
    Reached locate entries content text → entry ∈ entries → other ∈ entries →
    strip entry.qualname text = text →
    insertWith locate text entry.qualname entry.block = .ok result →
    StartsOn locate text entry.qualname insertion → StartsOn locate text other.qualname place →
    StartsOn locate result other.qualname
      (if insertion ≤ place then place + (Text.displayLines entry.block).length else place)

/-- The line is neither blank nor a comment. -/
def IsCode (line : Text) : Prop :=
  ¬ Text.Blank line ∧ isComment line = false

/-- The text is reached, every begin marker in it opens a complete block, and the classes start on
lines of code, each on one of its own. -/
structure Arranged (locate : Text → Text → Except PlacementFault Nat) (entries : List Entry)
    (content text : Text) : Prop where
  reached : Reached locate entries content text
  marked : WellMarked (Text.lines text)
  starts : ∀ entry ∈ entries, ∃ above statement below,
    StartsAt locate text entry.qualname above statement below ∧ IsCode statement
  distinct : ∀ entry ∈ entries, ∀ other ∈ entries, entry.qualname ≠ other.qualname →
    ∀ place, StartsOn locate text entry.qualname place →
      ¬ StartsOn locate text other.qualname place

/-- The class has one begin marker, and its block stands directly above its definition. -/
structure Documented (locate : Text → Text → Except PlacementFault Nat) (text : Text)
    (entry : Entry) : Prop where
  single : (Text.lines text).countP (isBegin entry.qualname) = 1
  placed : ∃ above statement below,
    StartsAt locate text entry.qualname (above ++ linesAbove statement entry.block) statement below

/-! ## Places of classes -/

theorem StartsOn.unique {first second : Nat} (isFirst : StartsOn locate text qualname first)
    (isSecond : StartsOn locate text qualname second) : first = second := by
  obtain ⟨line, located, rfl⟩ := isFirst
  obtain ⟨line', located', rfl⟩ := isSecond
  rw [Except.ok.inj (located.symm.trans located')]

theorem StartsAt.startsOn {above below : List Text} {statement : Text}
    (starts : StartsAt locate text qualname above statement below) :
    StartsOn locate text qualname above.length :=
  starts.located

/-- Two classes start on the same line, or one of them below the other. -/
theorem StartsAt.order {qualname' : Text} {above above' below below' : List Text}
    {statement statement' : Text} (first : StartsAt locate text qualname above statement below)
    (second : StartsAt locate text qualname' above' statement' below') :
    above = above' ∨
      (∃ between, above' = above ++ statement :: between ∧
        below = between ++ statement' :: below') ∨
      ∃ between, above = above' ++ statement' :: between ∧
        below' = between ++ statement :: below := by
  have same := first.split.symm.trans second.split
  rcases List.append_eq_append_iff.mp same with ⟨others, rfl, tail⟩ | ⟨others, rfl, tail⟩
  · cases others with
    | nil => exact .inl (by simp)
    | cons line others =>
        obtain ⟨rfl, rfl⟩ := List.cons.inj tail
        exact .inr (.inl ⟨others, rfl, rfl⟩)
  · cases others with
    | nil => exact .inl (by simp)
    | cons line others =>
        obtain ⟨rfl, rfl⟩ := List.cons.inj tail
        exact .inr (.inr ⟨others, rfl, rfl⟩)

theorem Arranged.isCode (arranged : Arranged locate entries content text)
    (inEntries : entry ∈ entries) {above below : List Text} {statement : Text}
    (starts : StartsAt locate text entry.qualname above statement below) : IsCode statement := by
  obtain ⟨above', statement', below', starts', code⟩ := arranged.starts entry inEntries
  rw [(starts.unique starts').2.1]
  exact code

theorem Arranged.ne_of_distinct (arranged : Arranged locate entries content text)
    (inEntries : entry ∈ entries) (otherIn : other ∈ entries)
    (differ : entry.qualname ≠ other.qualname) {above above' below below' : List Text}
    {statement statement' : Text}
    (starts : StartsAt locate text entry.qualname above statement below)
    (otherStarts : StartsAt locate text other.qualname above' statement' below') :
    above ≠ above' := by
  rintro rfl
  exact arranged.distinct entry inEntries other otherIn differ _ starts.startsOn
    otherStarts.startsOn

/-! ## Removal -/

section Removal

variable (follows : FollowsLines locate entries content)
  (arranged : Arranged locate entries content text) (inEntries : entry ∈ entries)
include follows arranged inEntries

theorem StartsAt.removed (otherIn : other ∈ entries) {above below : List Text} {statement : Text}
    (starts : StartsAt locate text other.qualname above statement below) :
    StartsAt locate (strip entry.qualname text) other.qualname
      (stripLines entry.qualname above) statement (stripLines entry.qualname below) := by
  have marked := arranged.marked
  rw [starts.split] at marked
  refine ⟨?_, ?_⟩
  · rw [lines_strip, starts.split, marked.stripLines_solid (arranged.isCode otherIn starts).2]
  · have moved := follows.removing arranged.reached inEntries otherIn starts.startsOn
    rwa [starts.split, List.take_left] at moved

/-- Removal of the blocks of one class keeps the arrangement. -/
theorem Arranged.removed : Arranged locate entries content (strip entry.qualname text) where
  reached := .removed arranged.reached inEntries
  marked := by
    rw [lines_strip]
    exact arranged.marked.stripLines
  starts := by
    intro other otherIn
    obtain ⟨above, statement, below, starts, code⟩ := arranged.starts other otherIn
    exact ⟨_, _, _, starts.removed follows arranged inEntries otherIn, code⟩
  distinct := by
    intro first firstIn second secondIn differ place onFirst onSecond
    obtain ⟨above, statement, below, starts, -⟩ := arranged.starts first firstIn
    obtain ⟨above', statement', below', starts', -⟩ := arranged.starts second secondIn
    have isFirst := onFirst.unique (starts.removed follows arranged inEntries firstIn).startsOn
    have isSecond := onSecond.unique (starts'.removed follows arranged inEntries secondIn).startsOn
    have sameLength := isFirst.symm.trans isSecond
    have marked := arranged.marked
    rcases starts.order starts' with same | ⟨between, rfl, -⟩ | ⟨between, rfl, -⟩
    · exact arranged.ne_of_distinct firstIn secondIn differ starts starts' same
    · rw [starts'.split] at marked
      have aboveMarked := marked.above (.inl (arranged.isCode secondIn starts').2)
      rw [aboveMarked.stripLines_solid (arranged.isCode firstIn starts).2] at sameLength
      simp at sameLength
    · rw [starts.split] at marked
      have aboveMarked := marked.above (.inl (arranged.isCode firstIn starts).2)
      rw [aboveMarked.stripLines_solid (arranged.isCode secondIn starts').2] at sameLength
      simp at sameLength

theorem Documented.removed (otherIn : other ∈ entries) (differ : other.qualname ≠ entry.qualname)
    (documented : Documented locate text other) :
    Documented locate (strip entry.qualname text) other := by
  obtain ⟨above, statement, below, starts⟩ := documented.placed
  refine ⟨?_, ?_⟩
  · rw [lines_strip, arranged.marked.countP_stripLines, if_neg differ]
    exact documented.single
  · have complete := other.plain.isComplete_linesAbove other.unspaced statement
    have aboveMarked : WellMarked above := by
      obtain ⟨marker, comments, closing, isBlock, begins, -⟩ := complete
      have marked := arranged.marked
      rw [starts.split, isBlock, List.append_assoc, List.cons_append] at marked
      exact marked.above (.inr (beginsBlock_iff.mpr ⟨_, begins⟩))
    have kept : stripLines entry.qualname (linesAbove statement other.block) =
        linesAbove statement other.block := by
      simpa using complete.stripLines_other (Ne.symm differ) []
    have moved := starts.removed follows arranged inEntries otherIn
    rw [aboveMarked.stripLines_append, kept] at moved
    exact ⟨_, _, _, moved⟩

end Removal

/-! ## Insertion -/

section Insertion

variable (follows : FollowsLines locate entries content)
  (arranged : Arranged locate entries content text) (inEntries : entry ∈ entries)
  (noBlock : strip entry.qualname text = text) {above below : List Text} {statement : Text}
  (starts : StartsAt locate text entry.qualname above statement below)

/-- The text with a block above a class. -/
def withBlock (entry : Entry) (above : List Text) (statement : Text) (below : List Text) : Text :=
  (above ++ (linesAbove statement entry.block ++ statement :: below)).flatten

theorem StartsAt.insertWith_eq
    (starts : StartsAt locate text entry.qualname above statement below) :
    insertWith locate text entry.qualname entry.block =
      .ok (withBlock entry above statement below) :=
  insertWith_eq_ok_iff.mpr ⟨above, statement, below, starts, rfl⟩

section

include arranged inEntries starts

theorem Arranged.lines_withBlock :
    Text.lines (withBlock entry above statement below) =
      above ++ (linesAbove statement entry.block ++ statement :: below) :=
  starts.lines_insert entry.plain entry.unspaced fun feed =>
    (arranged.isCode inEntries starts).1 (starts.isWhole_blank feed).2

end

include follows arranged inEntries noBlock starts

/-- Where a class starts after an insertion. -/
theorem StartsOn.inserted (otherIn : other ∈ entries) {place : Nat}
    (onPlace : StartsOn locate text other.qualname place) :
    StartsOn locate (withBlock entry above statement below) other.qualname
      (if above.length ≤ place then place + (linesAbove statement entry.block).length
        else place) := by
  have moved := follows.inserting arranged.reached inEntries otherIn noBlock starts.insertWith_eq
    starts.startsOn onPlace
  rwa [linesAbove, List.length_map]

theorem StartsAt.inserted_own :
    StartsAt locate (withBlock entry above statement below) entry.qualname
      (above ++ linesAbove statement entry.block) statement below := by
  refine ⟨?_, ?_⟩
  · rw [arranged.lines_withBlock inEntries starts, List.append_assoc]
  · have moved := starts.startsOn.inserted follows arranged inEntries noBlock starts inEntries
    rw [if_pos (Nat.le_refl _)] at moved
    rwa [List.length_append]

theorem StartsAt.inserted_below (otherIn : other ∈ entries) {between below' : List Text}
    {statement' : Text} (isBelow : below = between ++ statement' :: below')
    (otherStarts : StartsAt locate text other.qualname (above ++ statement :: between) statement'
      below') :
    StartsAt locate (withBlock entry above statement below) other.qualname
      (above ++ (linesAbove statement entry.block ++ statement :: between)) statement' below' := by
  refine ⟨?_, ?_⟩
  · rw [arranged.lines_withBlock inEntries starts, isBelow]
    simp
  · have moved := otherStarts.startsOn.inserted follows arranged inEntries noBlock starts otherIn
    rw [if_pos (by simp)] at moved
    have same : (above ++ (linesAbove statement entry.block ++ statement :: between)).length =
        (above ++ statement :: between).length + (linesAbove statement entry.block).length := by
      simp only [List.length_append, List.length_cons]
      omega
    rwa [← same] at moved

theorem StartsAt.inserted_above (otherIn : other ∈ entries) {above' between : List Text}
    {statement' : Text} (isAbove : above = above' ++ statement' :: between)
    (otherStarts : StartsAt locate text other.qualname above' statement'
      (between ++ statement :: below)) :
    StartsAt locate (withBlock entry above statement below) other.qualname above' statement'
      (between ++ (linesAbove statement entry.block ++ statement :: below)) := by
  refine ⟨?_, ?_⟩
  · rw [arranged.lines_withBlock inEntries starts, isAbove]
    simp
  · have moved := otherStarts.startsOn.inserted follows arranged inEntries noBlock starts otherIn
    rwa [if_neg (by rw [isAbove]; simp)] at moved

/-- Insertion of the block of a class that has none keeps the arrangement. -/
theorem Arranged.inserted :
    Arranged locate entries content (withBlock entry above statement below) where
  reached := .inserted arranged.reached inEntries noBlock starts.insertWith_eq
  marked := by
    have marked := arranged.marked
    rw [starts.split] at marked
    rw [arranged.lines_withBlock inEntries starts]
    exact (marked.above (.inl (arranged.isCode inEntries starts).2)).append
      (.block_append (entry.plain.isComplete_linesAbove entry.unspaced statement)
        marked.of_append)
  starts := by
    intro other otherIn
    obtain ⟨above', statement', below', otherStarts, code⟩ := arranged.starts other otherIn
    rcases starts.order otherStarts with rfl | ⟨between, rfl, isBelow⟩ | ⟨between, isAbove, rfl⟩
    · have moved := otherStarts.startsOn.inserted follows arranged inEntries noBlock starts otherIn
      rw [if_pos (Nat.le_refl _), ← List.length_append] at moved
      have isSame := List.append_cancel_left (starts.split.symm.trans otherStarts.split)
      obtain ⟨rfl, rfl⟩ := List.cons.inj isSame
      refine ⟨_, statement, below, ⟨?_, moved⟩, code⟩
      rw [arranged.lines_withBlock inEntries starts, List.append_assoc]
    · exact ⟨_, _, _, starts.inserted_below follows arranged inEntries noBlock otherIn isBelow
        otherStarts, code⟩
    · exact ⟨_, _, _, starts.inserted_above follows arranged inEntries noBlock otherIn isAbove
        otherStarts, code⟩
  distinct := by
    intro first firstIn second secondIn differ place onFirst onSecond
    obtain ⟨above', statement', below', starts', -⟩ := arranged.starts first firstIn
    obtain ⟨above'', statement'', below'', starts'', -⟩ := arranged.starts second secondIn
    have apart : above'.length ≠ above''.length := fun same =>
      arranged.distinct first firstIn second secondIn differ _ starts'.startsOn
        (same ▸ starts''.startsOn)
    have isFirst := onFirst.unique
      (starts'.startsOn.inserted follows arranged inEntries noBlock starts firstIn)
    have isSecond := onSecond.unique
      (starts''.startsOn.inserted follows arranged inEntries noBlock starts secondIn)
    have sameLength := isFirst.symm.trans isSecond
    split at sameLength <;> split at sameLength <;> omega

theorem Documented.inserted_own (unmarked : (Text.lines text).countP (isBegin entry.qualname) = 0) :
    Documented locate (withBlock entry above statement below) entry := by
  have complete := entry.plain.isComplete_linesAbove entry.unspaced statement
  refine ⟨?_, above, statement, below,
    starts.inserted_own follows arranged inEntries noBlock⟩
  rw [starts.split, List.countP_append] at unmarked
  rw [arranged.lines_withBlock inEntries starts, List.countP_append, List.countP_append,
    complete.countP_own]
  omega

theorem Documented.inserted_other (otherIn : other ∈ entries)
    (differ : other.qualname ≠ entry.qualname) (documented : Documented locate text other) :
    Documented locate (withBlock entry above statement below) other := by
  obtain ⟨above', statement', below', otherStarts⟩ := documented.placed
  have complete := entry.plain.isComplete_linesAbove entry.unspaced statement
  refine ⟨?_, ?_⟩
  · have single := documented.single
    rw [starts.split, List.countP_append] at single
    rw [arranged.lines_withBlock inEntries starts, List.countP_append, List.countP_append,
      complete.countP_other differ, Nat.zero_add]
    exact single
  · rcases starts.order otherStarts with same | ⟨between, split, isBelow⟩ | ⟨between, isAbove, rfl⟩
    · exact absurd same (arranged.ne_of_distinct inEntries otherIn (Ne.symm differ) starts
        otherStarts)
    · -- The line of code between the two classes is no line of the other block.
      have solid := (arranged.isCode inEntries starts).2
      have notInBlock : statement ∉ linesAbove statement' other.block := by
        intro member
        rw [(other.plain.isBlock_linesAbove other.unspaced statement').isComment statement
          member] at solid
        exact absurd solid (by decide)
      obtain ⟨between', rfl, isAbove⟩ : ∃ between', between =
          between' ++ linesAbove statement' other.block ∧
          above' = above ++ statement :: between' := by
        rcases List.append_eq_append_iff.mp split with ⟨others, rfl, tail⟩ | ⟨others, rfl, tail⟩
        · exact absurd (tail ▸ by simp) notInBlock
        · cases others with
          | nil => exact absurd (by simp [← show _ = linesAbove _ _ from tail]) notInBlock
          | cons line others =>
              obtain ⟨rfl, rfl⟩ := List.cons.inj tail
              exact ⟨others, rfl, rfl⟩
      rw [split] at otherStarts
      have moved := starts.inserted_below follows arranged inEntries noBlock otherIn isBelow
        otherStarts
      refine ⟨above ++ (linesAbove statement entry.block ++ statement :: between'), statement',
        below', ?_⟩
      simpa using moved
    · exact ⟨_, _, _, starts.inserted_above follows arranged inEntries noBlock otherIn isAbove
        otherStarts⟩

end Insertion

/-! ## Replacement -/

theorem stripLines_unmarked {qualname : Text} {lines : List Text}
    (unmarked : ∀ line ∈ lines, isBegin qualname line = false) :
    stripLines qualname lines = lines := by
  simpa using stripLines_append_unmarked unmarked []

theorem strip_strip (qualname text : Text) :
    strip qualname (strip qualname text) = strip qualname text :=
  strip_eq_self_iff.mpr (stripped_lines_strip qualname text)

section Replacement

variable (follows : FollowsLines locate entries content)
  (arranged : Arranged locate entries content text) (inEntries : entry ∈ entries)
  {above below : List Text} {statement : Text}
  (starts : StartsAt locate text entry.qualname above statement below)
include follows arranged inEntries starts

theorem Arranged.replaceWith_eq :
    replaceWith locate text entry.qualname entry.block =
      .ok (withBlock entry (stripLines entry.qualname above) statement
        (stripLines entry.qualname below)) :=
  (starts.removed follows arranged inEntries inEntries).insertWith_eq

theorem Arranged.replaced :
    Arranged locate entries content (withBlock entry (stripLines entry.qualname above) statement
      (stripLines entry.qualname below)) :=
  (arranged.removed follows inEntries).inserted follows inEntries (strip_strip _ _)
    (starts.removed follows arranged inEntries inEntries)

theorem Documented.replaced_own :
    Documented locate (withBlock entry (stripLines entry.qualname above) statement
      (stripLines entry.qualname below)) entry := by
  refine Documented.inserted_own follows (arranged.removed follows inEntries) inEntries
    (strip_strip _ _) (starts.removed follows arranged inEntries inEntries) ?_
  rw [lines_strip, arranged.marked.countP_stripLines, if_pos rfl]

theorem Documented.replaced_other (otherIn : other ∈ entries)
    (differ : other.qualname ≠ entry.qualname) (documented : Documented locate text other) :
    Documented locate (withBlock entry (stripLines entry.qualname above) statement
      (stripLines entry.qualname below)) other :=
  .inserted_other follows (arranged.removed follows inEntries) inEntries (strip_strip _ _)
    (starts.removed follows arranged inEntries inEntries) otherIn differ
    (documented.removed follows arranged inEntries otherIn differ)

end Replacement

theorem replaceEach_cons {result : Text}
    (replaced : replaceWith locate text entry.qualname entry.block = .ok result)
    (order : List Entry) :
    replaceEach locate (entry :: order) text = replaceEach locate order result := by
  rw [replaceEach, List.foldlM_cons, replaced]
  rfl

section Swap

variable (follows : FollowsLines locate entries content)
  (arranged : Arranged locate entries content text) (inEntries : entry ∈ entries)
  (otherIn : other ∈ entries) (differ : entry.qualname ≠ other.qualname)
  {above between below : List Text} {statement statement' : Text}
  (starts : StartsAt locate text entry.qualname above statement (between ++ statement' :: below))
  (otherStarts : StartsAt locate text other.qualname (above ++ statement :: between) statement'
    below)

/-- The text with the blocks of two classes, the first one above the second one. -/
def withBoth (entry other : Entry) (above : List Text) (statement : Text) (between : List Text)
    (statement' : Text) (below : List Text) : Text :=
  (above ++ (linesAbove statement entry.block ++ statement ::
    (between ++ (linesAbove statement' other.block ++ statement' :: below)))).flatten

include arranged inEntries otherIn starts otherStarts

/-- The parts of a text around two classes are texts of complete blocks. -/
theorem Arranged.marked_parts :
    WellMarked above ∧ WellMarked between ∧ WellMarked below ∧
      WellMarked (above ++ statement :: between) ∧
      WellMarked (between ++ statement' :: below) := by
  have code := (arranged.isCode inEntries starts).2
  have otherCode := (arranged.isCode otherIn otherStarts).2
  have marked := arranged.marked
  rw [starts.split] at marked
  have aboveMarked := marked.above (.inl code)
  have restMarked : WellMarked (between ++ statement' :: below) :=
    @WellMarked.of_append (above ++ [statement]) _ (by simpa using marked)
  have betweenMarked := restMarked.above (.inl otherCode)
  have belowMarked : WellMarked below :=
    @WellMarked.of_append (between ++ [statement']) _ (by simpa using restMarked)
  exact ⟨aboveMarked, betweenMarked, belowMarked,
    aboveMarked.append (.cons_plain (beginsBlock_of_solid code) betweenMarked), restMarked⟩

include follows differ

/-- The upper class first. -/
theorem replaceEach_upper_first (order : List Entry) :
    replaceEach locate (entry :: other :: order) text =
      replaceEach locate order (withBoth entry other
        (stripLines other.qualname (stripLines entry.qualname above)) statement
        (stripLines other.qualname (stripLines entry.qualname between)) statement'
        (stripLines other.qualname (stripLines entry.qualname below))) := by
  obtain ⟨aboveMarked, betweenMarked, -, frontMarked, restMarked⟩ :=
    arranged.marked_parts inEntries otherIn starts otherStarts
  have code := (arranged.isCode inEntries starts).2
  have otherCode := (arranged.isCode otherIn otherStarts).2
  have complete := entry.plain.isComplete_linesAbove entry.unspaced statement
  have otherRemoved := otherStarts.removed follows arranged inEntries otherIn
  rw [frontMarked.stripLines_solid code] at otherRemoved
  have otherPlaced := (starts.removed follows arranged inEntries inEntries).inserted_below follows
    (arranged.removed follows inEntries) inEntries (strip_strip _ _) otherIn
    (restMarked.stripLines_solid otherCode) otherRemoved
  have first := arranged.replaced follows inEntries starts
  rw [replaceEach_cons (arranged.replaceWith_eq follows inEntries starts),
    replaceEach_cons (first.replaceWith_eq follows otherIn otherPlaced)]
  have front : stripLines other.qualname (stripLines entry.qualname above ++
      (linesAbove statement entry.block ++ statement :: stripLines entry.qualname between)) =
      stripLines other.qualname (stripLines entry.qualname above) ++
        (linesAbove statement entry.block ++ statement ::
          stripLines other.qualname (stripLines entry.qualname between)) := by
    rw [aboveMarked.stripLines.stripLines_append, complete.stripLines_other (Ne.symm differ),
      stripLines_plain (beginsBlock_of_solid code)]
  rw [front, withBlock, withBoth]
  simp only [List.append_assoc, List.cons_append]

/-- The lower class first. -/
theorem replaceEach_lower_first (order : List Entry) :
    replaceEach locate (other :: entry :: order) text =
      replaceEach locate order (withBoth entry other
        (stripLines entry.qualname (stripLines other.qualname above)) statement
        (stripLines entry.qualname (stripLines other.qualname between)) statement'
        (stripLines entry.qualname (stripLines other.qualname below))) := by
  obtain ⟨-, betweenMarked, -, frontMarked, restMarked⟩ :=
    arranged.marked_parts inEntries otherIn starts otherStarts
  have code := (arranged.isCode inEntries starts).2
  have otherCode := (arranged.isCode otherIn otherStarts).2
  have complete := other.plain.isComplete_linesAbove other.unspaced statement'
  have removed := starts.removed follows arranged otherIn inEntries
  rw [restMarked.stripLines_solid otherCode] at removed
  have placed := (otherStarts.removed follows arranged otherIn otherIn).inserted_above follows
    (arranged.removed follows otherIn) otherIn (strip_strip _ _) inEntries
    (frontMarked.stripLines_solid code) removed
  have first := arranged.replaced follows otherIn otherStarts
  rw [replaceEach_cons (arranged.replaceWith_eq follows otherIn otherStarts),
    replaceEach_cons (first.replaceWith_eq follows inEntries placed)]
  have rest : stripLines entry.qualname (stripLines other.qualname between ++
      (linesAbove statement' other.block ++ statement' :: stripLines other.qualname below)) =
      stripLines entry.qualname (stripLines other.qualname between) ++
        (linesAbove statement' other.block ++ statement' ::
          stripLines entry.qualname (stripLines other.qualname below)) := by
    rw [betweenMarked.stripLines.stripLines_append, complete.stripLines_other differ,
      stripLines_plain (beginsBlock_of_solid otherCode)]
  rw [rest, withBlock, withBoth]

theorem replaceEach_swap_of_below (order : List Entry) :
    replaceEach locate (entry :: other :: order) text =
      replaceEach locate (other :: entry :: order) text := by
  obtain ⟨aboveMarked, betweenMarked, belowMarked, -⟩ :=
    arranged.marked_parts inEntries otherIn starts otherStarts
  rw [replaceEach_upper_first follows arranged inEntries otherIn differ starts otherStarts,
    replaceEach_lower_first follows arranged inEntries otherIn differ starts otherStarts,
    aboveMarked.stripLines_comm, betweenMarked.stripLines_comm, belowMarked.stripLines_comm]

end Swap

/-- Two classes can change places in the order. -/
theorem replaceEach_swap (follows : FollowsLines locate entries content)
    (arranged : Arranged locate entries content text) (inEntries : entry ∈ entries)
    (otherIn : other ∈ entries) (differ : entry.qualname ≠ other.qualname) (order : List Entry) :
    replaceEach locate (entry :: other :: order) text =
      replaceEach locate (other :: entry :: order) text := by
  obtain ⟨above, statement, below, starts, -⟩ := arranged.starts entry inEntries
  obtain ⟨above', statement', below', otherStarts, -⟩ := arranged.starts other otherIn
  rcases starts.order otherStarts with same | ⟨between, rfl, rfl⟩ | ⟨between, rfl, rfl⟩
  · exact absurd same (arranged.ne_of_distinct inEntries otherIn differ starts otherStarts)
  · exact replaceEach_swap_of_below follows arranged inEntries otherIn differ starts otherStarts
      order
  · exact (replaceEach_swap_of_below follows arranged otherIn inEntries (Ne.symm differ)
      otherStarts starts order).symm

/-! ## Runs over all classes -/

/-- A run over classes of different names succeeds, documents each of them, and leaves the classes
documented that were so before. -/
theorem replaceEach_run (follows : FollowsLines locate entries content) {order : List Entry}
    (inEntries : ∀ entry ∈ order, entry ∈ entries) (names : (order.map Entry.qualname).Nodup)
    (arranged : Arranged locate entries content text) :
    ∃ result, replaceEach locate order text = .ok result ∧
      Arranged locate entries content result ∧
      (∀ entry ∈ order, Documented locate result entry) ∧
      ∀ other ∈ entries, other.qualname ∉ order.map Entry.qualname →
        Documented locate text other → Documented locate result other := by
  induction order generalizing text with
  | nil => exact ⟨text, rfl, arranged, by simp, fun _ _ _ documented => documented⟩
  | cons entry order inductionHypothesis =>
      have entryIn := inEntries entry List.mem_cons_self
      obtain ⟨absent, laterNames⟩ := List.nodup_cons.mp names
      obtain ⟨above, statement, below, starts, -⟩ := arranged.starts entry entryIn
      obtain ⟨result, isRun, resultArranged, documented, kept⟩ := inductionHypothesis
        (fun other member => inEntries other (List.mem_cons_of_mem entry member)) laterNames
        (arranged.replaced follows entryIn starts)
      refine ⟨result, ?_, resultArranged, ?_, ?_⟩
      · rw [replaceEach_cons (arranged.replaceWith_eq follows entryIn starts), isRun]
      · intro other member
        rcases List.mem_cons.mp member with rfl | inOrder
        · exact kept other entryIn absent
            (Documented.replaced_own follows arranged entryIn starts)
        · exact documented other inOrder
      · intro other otherIn notIn isDocumented
        rw [List.map_cons, List.mem_cons, not_or] at notIn
        exact kept other otherIn notIn.2
          (isDocumented.replaced_other follows arranged entryIn starts otherIn notIn.1)

/-- The order of the classes does not matter. -/
theorem replaceEach_eq_of_perm (follows : FollowsLines locate entries content)
    {order order' : List Entry} (permutation : order.Perm order')
    (inEntries : ∀ entry ∈ order, entry ∈ entries) (names : (order.map Entry.qualname).Nodup)
    (arranged : Arranged locate entries content text) :
    replaceEach locate order text = replaceEach locate order' text := by
  induction permutation generalizing text with
  | nil => rfl
  | cons entry _ inductionHypothesis =>
      have entryIn := inEntries entry List.mem_cons_self
      obtain ⟨above, statement, below, starts, -⟩ := arranged.starts entry entryIn
      have replaced := arranged.replaceWith_eq follows entryIn starts
      rw [replaceEach_cons replaced, replaceEach_cons replaced]
      exact inductionHypothesis
        (fun other member => inEntries other (List.mem_cons_of_mem entry member))
        (List.nodup_cons.mp names).2 (arranged.replaced follows entryIn starts)
  | swap first second order =>
      have differ : second.qualname ≠ first.qualname := by
        rintro same
        simp [same] at names
      exact replaceEach_swap follows arranged (inEntries second (by simp))
        (inEntries first (by simp)) differ order
  | trans firstStep _ first second =>
      rw [first inEntries names arranged]
      exact second (fun entry member => inEntries entry (firstStep.mem_iff.mpr member))
        ((firstStep.map Entry.qualname).nodup_iff.mp names) arranged

/-- Replacing the blocks of several classes succeeds in every order and gives the same text; in
it each class has one begin marker, and its block, indented and ended like the first line of the
class, stands directly above that line. -/
theorem replaceEach_perm (follows : FollowsLines locate entries content)
    (marked : WellMarked (Text.lines content)) (names : (entries.map Entry.qualname).Nodup)
    (starts : ∀ entry ∈ entries, ∃ above statement below,
      StartsAt locate content entry.qualname above statement below ∧ IsCode statement)
    (distinct : ∀ entry ∈ entries, ∀ other ∈ entries, entry.qualname ≠ other.qualname →
      ∀ place, StartsOn locate content entry.qualname place →
        ¬ StartsOn locate content other.qualname place) :
    ∃ result, (∀ order : List Entry, order.Perm entries →
        replaceEach locate order content = .ok result) ∧
      ∀ entry ∈ entries, (Text.lines result).countP (isBegin entry.qualname) = 1 ∧
        ∃ above statement below, StartsAt locate result entry.qualname
          (above ++ linesAbove statement entry.block) statement below := by
  have arranged : Arranged locate entries content content := ⟨.start, marked, starts, distinct⟩
  obtain ⟨result, isRun, -, documented, -⟩ :=
    replaceEach_run follows (fun _ member => member) names arranged
  refine ⟨result, fun order permutation => ?_, fun entry member =>
    ⟨(documented entry member).single, (documented entry member).placed⟩⟩
  rw [replaceEach_eq_of_perm follows permutation
    (fun entry member => permutation.mem_iff.mp member)
    ((permutation.map Entry.qualname).nodup_iff.mpr names) arranged, isRun]

namespace Sample

def otherRendered : Text := otherBlock.flatten

theorem isPlain_otherRendered : IsPlain otherName otherRendered :=
  ⟨"orders", columns, [], by decide, by decide, by decide, by decide⟩

theorem lines_otherRendered : Text.lines otherRendered = otherBlock := by
  decide

theorem linesAbove_block : linesAbove "class User:\n" block = Text.lines block := by
  decide

theorem linesAbove_otherRendered : linesAbove "class Order:\n" otherRendered = otherBlock := by
  decide

theorem isComplete_block : IsComplete className (Text.lines block) := by
  rw [← linesAbove_block]
  exact isPlain_block.isComplete_linesAbove (by decide) _

def userEntry : Entry := ⟨className, block, by decide, isPlain_block⟩

def orderEntry : Entry := ⟨otherName, otherRendered, by decide, isPlain_otherRendered⟩

/-- The lines of a block that may be missing. -/
def blockLines (block : Text) (isPresent : Bool) : List Text :=
  if isPresent then Text.lines block else []

/-- The lines above the second of two classes. -/
def aboveOther (first second : Bool) : List Text :=
  blockLines block first ++ (Text.lines source ++ blockLines otherRendered second)

/-- A source file with two classes, each with or without its block. -/
def twoClasses (first second : Bool) : Text :=
  (aboveOther first second ++ otherClass).flatten

theorem locate_twoClasses : ∀ first second,
    Block.locate (fun _ => none) (twoClasses first second) className =
        .ok ((blockLines block first).length + 1) ∧
      Block.locate (fun _ => none) (twoClasses first second) otherName =
        .ok ((aboveOther first second).length + 1) := by
  decide +kernel

theorem lines_twoClasses : ∀ first second,
    Text.lines (twoClasses first second) = aboveOther first second ++ otherClass := by
  decide

theorem stripLines_own {qualname block : Text} (complete : IsComplete qualname (Text.lines block))
    (isPresent : Bool) (rest : List Text) :
    stripLines qualname (blockLines block isPresent ++ rest) = stripLines qualname rest := by
  cases isPresent with
  | false => rfl
  | true => exact complete.isBlock.stripLines_append rest

theorem stripLines_className (first second : Bool) {rest : List Text}
    (unmarked : ∀ line ∈ rest, isBegin className line = false) :
    stripLines className (aboveOther first second ++ rest) = aboveOther false second ++ rest := by
  have below : ∀ isPresent, ∀ line ∈ Text.lines source ++ blockLines otherRendered isPresent,
      isBegin className line = false := by
    decide
  rw [aboveOther, List.append_assoc, stripLines_own isComplete_block,
    stripLines_append_unmarked (below second), stripLines_unmarked unmarked]
  rfl

theorem stripLines_otherName (first second : Bool) {rest : List Text}
    (unmarked : ∀ line ∈ rest, isBegin otherName line = false) :
    stripLines otherName (aboveOther first second ++ rest) = aboveOther first false ++ rest := by
  have above : ∀ isPresent, ∀ line ∈ blockLines block isPresent ++ Text.lines source,
      isBegin otherName line = false := by
    decide
  have complete : IsComplete otherName (Text.lines otherRendered) := by
    rw [lines_otherRendered]
    exact isComplete_otherBlock
  rw [aboveOther, ← List.append_assoc, List.append_assoc, stripLines_append_unmarked (above first),
    stripLines_own complete, stripLines_unmarked unmarked, aboveOther,
    show blockLines otherRendered false = [] from rfl, List.append_nil]

theorem stripLines_aboveOther (first second : Bool) :
    stripLines className (aboveOther first second) = aboveOther false second ∧
      stripLines otherName (aboveOther first second) = aboveOther first false := by
  have own := @stripLines_className first second []
  have other := @stripLines_otherName first second []
  simp only [List.append_nil] at own other
  exact ⟨own (by simp), other (by simp)⟩

theorem stripLines_blockLines (isPresent : Bool) :
    stripLines className (blockLines block isPresent) = blockLines block false ∧
      stripLines otherName (blockLines block isPresent) = blockLines block isPresent := by
  have unmarked : ∀ isPresent, ∀ line ∈ blockLines block isPresent,
      isBegin otherName line = false := by
    decide
  have own := stripLines_own isComplete_block isPresent []
  rw [List.append_nil, stripLines_nil] at own
  exact ⟨own, stripLines_unmarked (unmarked isPresent)⟩

theorem strip_twoClasses (first second : Bool) :
    strip className (twoClasses first second) = twoClasses false second ∧
      strip otherName (twoClasses first second) = twoClasses first false := by
  rw [strip, strip, lines_twoClasses, stripLines_className first second (by decide),
    stripLines_otherName first second (by decide)]
  exact ⟨rfl, rfl⟩

theorem twoClasses_injective {first second first' second' : Bool}
    (same : twoClasses first second = twoClasses first' second') :
    first = first' ∧ second = second' := by
  have apart : ∀ first second first' second', aboveOther first second = aboveOther first' second' →
      first = first' ∧ second = second' := by
    decide
  have sameLines := congrArg Text.lines same
  rw [lines_twoClasses, lines_twoClasses] at sameLines
  exact apart _ _ _ _ (List.append_cancel_right sameLines)

section

variable (first second : Bool)

theorem startsAt_userEntry :
    StartsAt (Block.locate fun _ => none) (twoClasses first second) userEntry.qualname
      (blockLines block first) "class User:\n"
      ("    pass\n".toList :: (blockLines otherRendered second ++ otherClass)) := by
  refine ⟨?_, _, (locate_twoClasses first second).1, rfl⟩
  rw [lines_twoClasses, aboveOther, List.append_assoc, List.append_assoc]
  rfl

theorem startsAt_orderEntry :
    StartsAt (Block.locate fun _ => none) (twoClasses first second) orderEntry.qualname
      (aboveOther first second) "class Order:\n" ["    pass\n"] :=
  ⟨lines_twoClasses first second, _, (locate_twoClasses first second).2, rfl⟩

end

theorem insert_userEntry (isPresent : Bool) :
    withBlock userEntry (blockLines block false) "class User:\n"
      ("    pass\n".toList :: (blockLines otherRendered isPresent ++ otherClass)) =
        twoClasses true isPresent := by
  refine congrArg List.flatten ?_
  rw [userEntry, linesAbove_block, aboveOther, List.append_assoc, List.append_assoc]
  rfl

theorem insert_orderEntry (isPresent : Bool) :
    withBlock orderEntry (aboveOther isPresent false) "class Order:\n" ["    pass\n"] =
      twoClasses isPresent true := by
  refine congrArg List.flatten ?_
  rw [orderEntry, linesAbove_otherRendered, ← lines_otherRendered, aboveOther, aboveOther,
    show blockLines otherRendered false = [] from rfl, List.append_nil, List.append_assoc,
    List.append_assoc, List.append_assoc]
  rfl

variable {text result : Text}

/-- Only a class without its block gets one. -/
theorem inserted_twoClasses {entry : Entry} {first second : Bool}
    (member : entry ∈ [userEntry, orderEntry])
    (noBlock : strip entry.qualname (twoClasses first second) = twoClasses first second)
    (inserted : insertWith (Block.locate fun _ => none) (twoClasses first second) entry.qualname
      entry.block = .ok result) :
    entry = userEntry ∧ first = false ∧ result = twoClasses true second ∨
      entry = orderEntry ∧ second = false ∧ result = twoClasses first true := by
  rcases List.mem_pair.mp member with rfl | rfl
  · obtain ⟨rfl, -⟩ :=
      twoClasses_injective ((strip_twoClasses first second).1.symm.trans noBlock)
    rw [(startsAt_userEntry false second).insertWith_eq, insert_userEntry second] at inserted
    exact .inl ⟨rfl, rfl, (Except.ok.inj inserted).symm⟩
  · obtain ⟨-, rfl⟩ :=
      twoClasses_injective ((strip_twoClasses first second).2.symm.trans noBlock)
    rw [(startsAt_orderEntry first false).insertWith_eq, insert_orderEntry first] at inserted
    exact .inr ⟨rfl, rfl, (Except.ok.inj inserted).symm⟩

theorem reached_twoClasses {first second : Bool}
    (reached : Reached (Block.locate fun _ => none) [userEntry, orderEntry]
      (twoClasses first second) text) :
    ∃ first second, text = twoClasses first second := by
  induction reached with
  | start => exact ⟨first, second, rfl⟩
  | removed _ member inductionHypothesis =>
      obtain ⟨first, second, rfl⟩ := inductionHypothesis
      rcases List.mem_pair.mp member with rfl | rfl
      · exact ⟨false, second, (strip_twoClasses first second).1⟩
      · exact ⟨first, false, (strip_twoClasses first second).2⟩
  | inserted _ member noBlock inserted inductionHypothesis =>
      obtain ⟨first, second, rfl⟩ := inductionHypothesis
      rcases inserted_twoClasses member noBlock inserted with ⟨-, -, isResult⟩ | ⟨-, -, isResult⟩
      · exact ⟨true, second, isResult⟩
      · exact ⟨first, true, isResult⟩

theorem take_twoClasses (first second : Bool) :
    (Text.lines (twoClasses first second)).take (blockLines block first).length =
        blockLines block first ∧
      (Text.lines (twoClasses first second)).take (aboveOther first second).length =
        aboveOther first second := by
  rw [lines_twoClasses, List.take_left, aboveOther, List.append_assoc, List.take_left]
  exact ⟨rfl, rfl⟩

theorem length_aboveOther : ∀ isPresent,
    (aboveOther isPresent true).length =
        (aboveOther isPresent false).length + (Text.displayLines otherRendered).length ∧
      ¬ (aboveOther isPresent false).length ≤ (blockLines block isPresent).length := by
  decide

/-- The reader follows the classes of the file. -/
theorem followsLines_twoClasses (first second : Bool) :
    FollowsLines (Block.locate fun _ => none) [userEntry, orderEntry]
      (twoClasses first second) where
  removing := by
    intro text entry other place reached inEntries otherIn starts
    obtain ⟨first, second, rfl⟩ := reached_twoClasses reached
    have noUser := (strip_twoClasses first second).1
    have noOrder := (strip_twoClasses first second).2
    rcases List.mem_pair.mp otherIn with rfl | rfl
    · rw [starts.unique (startsAt_userEntry first second).startsOn, (take_twoClasses _ _).1]
      rcases List.mem_pair.mp inEntries with rfl | rfl
      · rw [userEntry, noUser, (stripLines_blockLines first).1]
        exact (startsAt_userEntry false second).startsOn
      · rw [orderEntry, noOrder, (stripLines_blockLines first).2]
        exact (startsAt_userEntry first false).startsOn
    · rw [starts.unique (startsAt_orderEntry first second).startsOn, (take_twoClasses _ _).2]
      rcases List.mem_pair.mp inEntries with rfl | rfl
      · rw [userEntry, noUser, (stripLines_aboveOther first second).1]
        exact (startsAt_orderEntry false second).startsOn
      · rw [orderEntry, noOrder, (stripLines_aboveOther first second).2]
        exact (startsAt_orderEntry first false).startsOn
  inserting := by
    intro text result entry other insertion place reached inEntries otherIn noBlock inserted
      isInsertion starts
    obtain ⟨first, second, rfl⟩ := reached_twoClasses reached
    rcases inserted_twoClasses inEntries noBlock inserted with ⟨rfl, rfl, rfl⟩ | ⟨rfl, rfl, rfl⟩
    · rw [isInsertion.unique (startsAt_userEntry false second).startsOn]
      rcases List.mem_pair.mp otherIn with rfl | rfl
      · rw [starts.unique (startsAt_userEntry false second).startsOn]
        exact (startsAt_userEntry true second).startsOn
      · rw [starts.unique (startsAt_orderEntry false second).startsOn]
        exact (startsAt_orderEntry true second).startsOn
    · rw [isInsertion.unique (startsAt_orderEntry first false).startsOn]
      rcases List.mem_pair.mp otherIn with rfl | rfl
      · rw [starts.unique (startsAt_userEntry first false).startsOn,
          if_neg (length_aboveOther first).2]
        exact (startsAt_userEntry first true).startsOn
      · rw [starts.unique (startsAt_orderEntry first false).startsOn, if_pos (Nat.le_refl _),
          orderEntry, ← (length_aboveOther first).1]
        exact (startsAt_orderEntry first true).startsOn

theorem isCode_userClass : IsCode "class User:\n" :=
  ⟨by decide, by decide⟩

theorem isCode_orderClass : IsCode "class Order:\n" :=
  ⟨by decide, by decide⟩

theorem wellMarked_twoClasses : WellMarked (Text.lines (twoClasses false true)) := by
  have otherMarked : WellMarked (otherClass ++ []) := .plain_append (by decide) trivial
  rw [lines_twoClasses, aboveOther, blockLines, blockLines, if_neg (by decide), if_pos rfl,
    List.nil_append, List.append_assoc, lines_otherRendered]
  exact .plain_append (by decide) (.block_append isComplete_otherBlock otherMarked)

end Sample

/-- The block of the second class is there already. -/
theorem replaceEach_perm_sample :
    ∃ result, (∀ order : List Entry, order.Perm [Sample.userEntry, Sample.orderEntry] →
        replaceEach (Block.locate fun _ => none) order (Sample.twoClasses false true) =
          .ok result) ∧
      ∀ entry ∈ [Sample.userEntry, Sample.orderEntry],
        (Text.lines result).countP (isBegin entry.qualname) = 1 ∧
        ∃ above statement below, StartsAt (Block.locate fun _ => none) result entry.qualname
          (above ++ linesAbove statement entry.block) statement below := by
  have first := Sample.startsAt_userEntry false true
  have second := Sample.startsAt_orderEntry false true
  have apart : (Sample.blockLines Sample.block false).length ≠
      (Sample.aboveOther false true).length := by
    obtain ⟨longer, below⟩ := Sample.length_aboveOther false
    omega
  have names : ([Sample.userEntry, Sample.orderEntry].map Entry.qualname).Nodup := by
    decide
  refine replaceEach_perm (Sample.followsLines_twoClasses false true)
    Sample.wellMarked_twoClasses names ?_ ?_
  · intro entry member
    rcases List.mem_pair.mp member with rfl | rfl
    · exact ⟨_, _, _, first, Sample.isCode_userClass⟩
    · exact ⟨_, _, _, second, Sample.isCode_orderClass⟩
  · intro entry member other otherMember differ place starts otherStarts
    rcases List.mem_pair.mp member with rfl | rfl
    · rcases List.mem_pair.mp otherMember with rfl | rfl
      · exact absurd rfl differ
      · exact apart (first.startsOn.unique starts |>.trans (otherStarts.unique second.startsOn))
    · rcases List.mem_pair.mp otherMember with rfl | rfl
      · exact apart (first.startsOn.unique otherStarts |>.trans (starts.unique second.startsOn))
      · exact absurd rfl differ

end SchemaDoc.Block
