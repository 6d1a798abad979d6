import Mathlib.Data.List.Basic
import Mathlib.Logic.Relation
import SchemaDoc.Proofs.PackageSearch.Resolution

/-!
Contract: the mapping that a package is resolved by.

A mapping applies to a package when its name is the front of the package's, up to a dot, and the directory
that the rest of the name leads to exists (`Applies`). Of these mappings the one with the longest name is
taken, the first of the list among equals (`locate?_eq_some_iff`). Mappings that do not apply may be added,
removed and moved, and two of different names may change places when none of either name stands between
them (`locate?_unseen`).
-/

namespace SchemaDoc

variable {tree : FileTree} {mapping : Mapping} {mappings : List Mapping} {package : Text}
  {directory : Path}

/-! ## Mappings that apply -/

/-- The name of the mapping is the front of the package's name, part by part; the rest of the package's
name is what is below the mapping. -/
inductive Covers (mapping : Mapping) (package : Text) : Text → Prop where
  | root (isRoot : mapping.package = []) : Covers mapping package package
  | whole (isWhole : package = mapping.package) : Covers mapping package []
  | part {rest : Text} (isPart : package = mapping.package ++ '.' :: rest) :
      Covers mapping package rest

/-- The directory that the parts of a dotted name lead to; empty parts lead nowhere. -/
def joinParts (directory : Path) (dotted : Text) : Path :=
  (Text.splitOnChar '.' dotted).foldl (fun directory part => directory.join (Path.parse part)) directory

/-- The mapping gives the package this directory, and the directory exists. -/
structure Applies (tree : FileTree) (package : Text) (mapping : Mapping) (directory : Path) : Prop where
  covers : ∃ rest, Covers mapping package rest ∧ directory = joinParts mapping.directory rest
  isDirectory : tree.isDirectory directory = true

/-- The mapping gives the package a directory that exists. -/
def Applicable (tree : FileTree) (package : Text) (mapping : Mapping) : Prop :=
  ∃ directory, Applies tree package mapping directory

theorem Covers.isPrefix {rest : Text} (covers : Covers mapping package rest) :
    mapping.package <+: package := by
  cases covers with
  | root isRoot =>
      rw [isRoot]
      exact List.nil_prefix
  | whole isWhole =>
      obtain rfl := isWhole
      exact List.prefix_rfl
  | part isPart =>
      rw [isPart]
      exact List.prefix_append mapping.package _

theorem join_parse_nil (directory : Path) : directory.join (Path.parse []) = directory := by
  have isEmpty : Path.parse [] = ⟨.relative, []⟩ := by decide
  rw [isEmpty]
  simp [Path.join]

theorem joinParts_nil (directory : Path) : joinParts directory [] = directory :=
  join_parse_nil directory

/-- Dots in front of a name make no difference. -/
theorem joinParts_dropWhile (directory : Path) (dotted : Text) :
    joinParts directory (dotted.dropWhile (· = '.')) = joinParts directory dotted := by
  induction dotted with
  | nil => rfl
  | cons c rest inductionHypothesis =>
      by_cases isDot : c = '.'
      · rw [List.dropWhile_cons_of_pos (by simpa using isDot), inductionHypothesis]
        unfold joinParts
        rw [Text.splitOnChar, if_pos isDot, List.foldl_cons, join_parse_nil]
      · rw [List.dropWhile_cons_of_neg (by simpa using isDot)]

theorem remainder?_eq_some_iff {found : Text} :
    mapping.remainder? package = some found ↔
      ∃ rest, Covers mapping package rest ∧ found = rest.dropWhile (· = '.') := by
  unfold Mapping.remainder?
  constructor
  · intro remains
    dsimp only at remains
    split at remains
    · next covered =>
        obtain rfl := Option.some.inj remains
        simp only [Bool.or_eq_true, List.isEmpty_iff, beq_iff_eq, List.isPrefixOf_iff_prefix] at covered
        rcases covered with (isRoot | isWhole) | ⟨rest, isPart⟩
        · exact ⟨package, .root isRoot, by simp [isRoot]⟩
        · exact ⟨[], .whole isWhole, by simp [isWhole]⟩
        · rw [List.append_assoc, List.singleton_append] at isPart
          refine ⟨rest, .part isPart.symm, ?_⟩
          rw [← isPart, List.drop_left, List.dropWhile_cons_of_pos (by simp)]
    · exact absurd remains (by simp)
  · rintro ⟨rest, covers, rfl⟩
    cases covers with
    | root isRoot => simp [isRoot]
    | whole isWhole => simp [isWhole]
    | part isPart =>
        rw [if_pos (by simp [isPart, List.isPrefixOf_iff_prefix]), isPart, List.drop_left,
          List.dropWhile_cons_of_pos (by simp)]

theorem directoryFor?_eq_some_iff :
    mapping.directoryFor? package = some directory ↔
      ∃ rest, Covers mapping package rest ∧ directory = joinParts mapping.directory rest := by
  have given : mapping.directoryFor? package =
      (mapping.remainder? package).map (joinParts mapping.directory) := by
    unfold Mapping.directoryFor?
    cases mapping.remainder? package with
    | none => rfl
    | some rest =>
        cases rest with
        | nil => exact congrArg some (joinParts_nil mapping.directory).symm
        | cons c rest => rfl
  rw [given, Option.map_eq_some_iff]
  constructor
  · rintro ⟨found, remains, rfl⟩
    obtain ⟨rest, covers, rfl⟩ := remainder?_eq_some_iff.mp remains
    exact ⟨rest, covers, joinParts_dropWhile mapping.directory rest⟩
  · rintro ⟨rest, covers, rfl⟩
    exact ⟨_, remainder?_eq_some_iff.mpr ⟨rest, covers, rfl⟩, joinParts_dropWhile mapping.directory rest⟩

theorem filter_directoryFor?_eq_some_iff :
    (mapping.directoryFor? package).filter tree.isDirectory = some directory ↔
      Applies tree package mapping directory := by
  rw [Option.filter_eq_some_iff, directoryFor?_eq_some_iff]
  constructor
  · rintro ⟨covers, isDirectory⟩
    exact ⟨covers, isDirectory⟩
  · rintro ⟨covers, isDirectory⟩
    exact ⟨covers, isDirectory⟩

theorem filter_directoryFor?_eq_none_iff :
    (mapping.directoryFor? package).filter tree.isDirectory = none ↔
      ¬ Applicable tree package mapping := by
  rw [Option.eq_none_iff_forall_ne_some, Applicable, not_exists]
  exact forall_congr' fun directory => not_congr filter_directoryFor?_eq_some_iff

/-- A mapping gives a package one directory. -/
theorem Applies.unique {other : Path} (first : Applies tree package mapping directory)
    (second : Applies tree package mapping other) : directory = other := by
  rw [← filter_directoryFor?_eq_some_iff] at first second
  exact Option.some.inj (first.symm.trans second)

/-- Mappings that apply to one package have one name when their names are of one length. -/
theorem Applicable.package_eq {other : Mapping} (first : Applicable tree package mapping)
    (second : Applicable tree package other)
    (sameLength : other.package.length = mapping.package.length) :
    other.package = mapping.package := by
  obtain ⟨_, ⟨_, covers, -⟩, -⟩ := first
  obtain ⟨_, ⟨_, otherCovers, -⟩, -⟩ := second
  have isPrefix := List.prefix_of_prefix_length_le otherCovers.isPrefix covers.isPrefix
    (Nat.le_of_eq sameLength)
  exact isPrefix.eq_of_length sameLength

/-! ## The order of the candidates -/

theorem candidates_perm (mappings : List Mapping) : (Resolver.candidates mappings).Perm mappings :=
  List.mergeSort_perm mappings _

theorem mem_candidates : mapping ∈ Resolver.candidates mappings ↔ mapping ∈ mappings :=
  (candidates_perm mappings).mem_iff

/-- No candidate has a longer name than one before it. -/
theorem pairwise_candidates (mappings : List Mapping) :
    (Resolver.candidates mappings).Pairwise fun first second =>
      second.package.length ≤ first.package.length := by
  have sorted : (Resolver.candidates mappings).Pairwise fun first second =>
      decide (second.package.length ≤ first.package.length) = true := by
    apply List.pairwise_mergeSort
    · intro first second third
      simp only [decide_eq_true_eq]
      omega
    · intro first second
      simp only [Bool.or_eq_true, decide_eq_true_eq]
      omega
  exact sorted.imp of_decide_eq_true

/-- Mappings whose names are of one length keep their order. -/
theorem filter_candidates (size : Nat) (mappings : List Mapping) :
    (Resolver.candidates mappings).filter (fun mapping => mapping.package.length = size) =
      mappings.filter fun mapping => mapping.package.length = size := by
  let sized : Mapping → Bool := fun mapping => mapping.package.length = size
  have inOrder : (mappings.filter sized).Sublist (Resolver.candidates mappings) := by
    apply List.sublist_mergeSort
    · intro first second third
      simp only [decide_eq_true_eq]
      omega
    · intro first second
      simp only [Bool.or_eq_true, decide_eq_true_eq]
      omega
    · apply List.pairwise_of_forall_mem_list
      intro first isFirst second isSecond
      have firstSize := of_decide_eq_true (List.mem_filter.mp isFirst).2
      have secondSize := of_decide_eq_true (List.mem_filter.mp isSecond).2
      simp only [decide_eq_true_eq]
      omega
    · exact List.filter_sublist
  have inFilter := inOrder.filter sized
  rw [List.filter_filter] at inFilter
  simp only [Bool.and_self] at inFilter
  symm
  apply inFilter.eq_of_length
  exact ((candidates_perm mappings).filter sized).length_eq.symm

/-! ## The mapping that is taken -/

/-- Of the mappings that apply to the package, the one with the longest name that stands first. -/
structure IsChosen (tree : FileTree) (mappings : List Mapping) (package : Text) (mapping : Mapping)
    (directory : Path) : Prop where
  applies : Applies tree package mapping directory
  isLongest : ∀ other ∈ mappings, Applicable tree package other →
    other.package.length ≤ mapping.package.length
  isFirst : ∃ above below, mappings = above ++ mapping :: below ∧
    ∀ other ∈ above, Applicable tree package other →
      other.package.length ≠ mapping.package.length

instance (tree : FileTree) (package : Text) (mapping : Mapping) :
    Decidable (Applicable tree package mapping) :=
  decidable_of_iff (¬ (mapping.directoryFor? package).filter tree.isDirectory = none)
    ((not_congr filter_directoryFor?_eq_none_iff).trans not_not)

/-- The mapping applies to the package, and its name is of this length. -/
def isRival (tree : FileTree) (package : Text) (size : Nat) (mapping : Mapping) : Bool :=
  decide (mapping.package.length = size) && decide (Applicable tree package mapping)

theorem isRival_iff {size : Nat} :
    isRival tree package size mapping = true ↔
      mapping.package.length = size ∧ Applicable tree package mapping := by
  simp [isRival]

/-- The chosen mapping is the first one among its rivals, none of which has a longer name. -/
theorem isChosen_iff :
    IsChosen tree mappings package mapping directory ↔
      Applies tree package mapping directory ∧
        (∀ other ∈ mappings, Applicable tree package other →
          other.package.length ≤ mapping.package.length) ∧
        mappings.find? (isRival tree package mapping.package.length) = some mapping := by
  rw [List.find?_eq_some_iff_append]
  constructor
  · rintro ⟨applies, isLongest, above, below, split, isFirst⟩
    refine ⟨applies, isLongest, isRival_iff.mpr ⟨rfl, directory, applies⟩, above, below, split, ?_⟩
    intro other member
    rw [Bool.not_eq_true', Bool.eq_false_iff, Ne, isRival_iff]
    rintro ⟨sameLength, isApplicable⟩
    exact isFirst other member isApplicable sameLength
  · rintro ⟨applies, isLongest, -, above, below, split, isFirst⟩
    refine ⟨applies, isLongest, above, below, split, ?_⟩
    intro other member isApplicable sameLength
    have isRival := isRival_iff.mpr ⟨sameLength, isApplicable⟩
    have notRival := isFirst other member
    rw [isRival] at notRival
    exact absurd notRival (by decide)

theorem IsChosen.mem (isChosen : IsChosen tree mappings package mapping directory) :
    mapping ∈ mappings := by
  obtain ⟨above, below, split, -⟩ := isChosen.isFirst
  rw [split]
  exact List.mem_append_right above List.mem_cons_self

theorem IsChosen.unique {other : Mapping} {otherDirectory : Path}
    (first : IsChosen tree mappings package mapping directory)
    (second : IsChosen tree mappings package other otherDirectory) :
    mapping = other ∧ directory = otherDirectory := by
  have atMost := first.isLongest other second.mem ⟨_, second.applies⟩
  have atLeast := second.isLongest mapping first.mem ⟨_, first.applies⟩
  have isFound := (isChosen_iff.mp first).2.2
  have isOther := (isChosen_iff.mp second).2.2
  rw [Nat.le_antisymm atLeast atMost, isOther] at isFound
  obtain rfl := Option.some.inj isFound
  exact ⟨rfl, first.applies.unique second.applies⟩

/-- The first candidate with a directory that exists is the chosen mapping. -/
theorem exists_isChosen
    (found : (Resolver.candidates mappings).findSome? (fun mapping =>
      (mapping.directoryFor? package).filter tree.isDirectory) = some directory) :
    ∃ mapping, IsChosen tree mappings package mapping directory := by
  obtain ⟨front, mapping, back, isSplit, gives, noneBefore⟩ := List.findSome?_eq_some_iff.mp found
  have idle : ∀ other ∈ front, ¬ Applicable tree package other := fun other member =>
    filter_directoryFor?_eq_none_iff.mp (noneBefore other member)
  have sorted := pairwise_candidates mappings
  rw [isSplit, List.pairwise_append, List.pairwise_cons] at sorted
  refine ⟨mapping, filter_directoryFor?_eq_some_iff.mp gives, ?_, ?_⟩
  · intro other member isApplicable
    have isCandidate := mem_candidates.mpr member
    rw [isSplit] at isCandidate
    rcases List.mem_append.mp isCandidate with isBefore | isBehind
    · exact absurd isApplicable (idle other isBefore)
    · rcases List.mem_cons.mp isBehind with rfl | isBehind
      · exact Nat.le_refl _
      · exact sorted.2.1.1 other isBehind
  · -- Among the mappings with names of this length, the sort has changed nothing.
    have kept := filter_candidates mapping.package.length mappings
    rw [isSplit, List.filter_append, List.filter_cons_of_pos (by simp)] at kept
    obtain ⟨above, rest, isMappings, isAbove, isRest⟩ := List.filter_eq_append_iff.mp kept.symm
    obtain ⟨between, below, rfl, noSize, -, -⟩ := List.filter_eq_cons_iff.mp isRest
    refine ⟨above ++ between, below, by rw [isMappings, List.append_assoc], ?_⟩
    intro other member isApplicable sameLength
    rcases List.mem_append.mp member with inAbove | inBetween
    · have isKept : other ∈ above.filter fun other =>
          other.package.length = mapping.package.length :=
        List.mem_filter.mpr ⟨inAbove, by simpa using sameLength⟩
      rw [isAbove] at isKept
      exact idle other (List.mem_filter.mp isKept).1 isApplicable
    · exact noSize other inBetween (by simpa using sameLength)

/-- A package is located by the chosen mapping. -/
theorem locate?_eq_some_iff {located : Mapping} :
    Resolver.locate? tree mappings package = some located ↔
      ∃ mapping directory, IsChosen tree mappings package mapping directory ∧
        located = ⟨package, FileTree.resolve directory⟩ := by
  unfold Resolver.locate?
  rw [Option.map_eq_some_iff]
  constructor
  · rintro ⟨directory, found, rfl⟩
    obtain ⟨mapping, isChosen⟩ := exists_isChosen found
    exact ⟨mapping, directory, isChosen, rfl⟩
  · rintro ⟨mapping, directory, isChosen, rfl⟩
    cases found : (Resolver.candidates mappings).findSome? fun mapping =>
        (mapping.directoryFor? package).filter tree.isDirectory with
    | none =>
        have idle := List.findSome?_eq_none_iff.mp found mapping (mem_candidates.mpr isChosen.mem)
        exact absurd ⟨directory, isChosen.applies⟩ (filter_directoryFor?_eq_none_iff.mp idle)
    | some other =>
        obtain ⟨_, isOther⟩ := exists_isChosen found
        obtain ⟨-, rfl⟩ := isChosen.unique isOther
        exact ⟨directory, rfl, rfl⟩

theorem locate?_eq_none_iff :
    Resolver.locate? tree mappings package = none ↔
      ∀ mapping ∈ mappings, ¬ Applicable tree package mapping := by
  unfold Resolver.locate?
  rw [Option.map_eq_none_iff, List.findSome?_eq_none_iff]
  constructor
  · intro idle mapping member
    exact filter_directoryFor?_eq_none_iff.mp (idle mapping (mem_candidates.mpr member))
  · intro idle mapping member
    exact filter_directoryFor?_eq_none_iff.mpr (idle mapping (mem_candidates.mp member))

/-! ## Changes that make no difference -/

/-- A change of the mappings that the search for the package does not see: one that does not apply comes
or goes, or two of different names change places, with none of either name between them. -/
inductive Unseen (tree : FileTree) (package : Text) : List Mapping → List Mapping → Prop where
  | added {above below : List Mapping} {mapping : Mapping}
      (idle : ¬ Applicable tree package mapping) :
      Unseen tree package (above ++ below) (above ++ mapping :: below)
  | removed {above below : List Mapping} {mapping : Mapping}
      (idle : ¬ Applicable tree package mapping) :
      Unseen tree package (above ++ mapping :: below) (above ++ below)
  | swapped {above between below : List Mapping} {first second : Mapping}
      (differ : first.package ≠ second.package)
      (apart : ∀ other ∈ between, other.package ≠ first.package ∧ other.package ≠ second.package) :
      Unseen tree package (above ++ first :: (between ++ second :: below))
        (above ++ second :: (between ++ first :: below))

theorem isRival_eq_false (idle : ¬ Applicable tree package mapping) (size : Nat) :
    isRival tree package size mapping = false := by
  rw [Bool.eq_false_iff, Ne, isRival_iff]
  rintro ⟨-, isApplicable⟩
  exact idle isApplicable

/-- Rivals have one name. -/
theorem isRival_package_eq {size : Nat} {other : Mapping}
    (first : isRival tree package size mapping = true)
    (second : isRival tree package size other = true) : mapping.package = other.package := by
  rw [isRival_iff] at first second
  exact second.2.package_eq first.2 (first.1.trans second.1.symm)

section Unseen

variable {others : List Mapping}

theorem Unseen.find?_eq (unseen : Unseen tree package mappings others) (size : Nat) :
    others.find? (isRival tree package size) = mappings.find? (isRival tree package size) := by
  cases unseen with
  | added idle =>
      rw [List.find?_append, List.find?_append,
        List.find?_cons_of_neg (by simp [isRival_eq_false idle])]
  | removed idle =>
      rw [List.find?_append, List.find?_append,
        List.find?_cons_of_neg (by simp [isRival_eq_false idle])]
  | @swapped above between below first second differ apart =>
      have noneBetween {rival : Mapping} (isTaken : isRival tree package size rival = true)
          (others : ∀ other ∈ between, other.package ≠ rival.package) :
          between.find? (isRival tree package size) = none := by
        apply List.find?_eq_none.mpr
        intro other member isOther
        exact others other member (isRival_package_eq isOther isTaken)
      rw [List.find?_append, List.find?_append]
      cases isFirst : isRival tree package size first with
      | true =>
          have notSecond : isRival tree package size second = false :=
            Bool.eq_false_iff.mpr fun isSecond => differ (isRival_package_eq isFirst isSecond)
          have none := noneBetween isFirst fun other member => (apart other member).1
          simp [List.find?_append, isFirst, notSecond, none]
      | false =>
          cases isSecond : isRival tree package size second with
          | true =>
              have none := noneBetween isSecond fun other member => (apart other member).2
              simp [List.find?_append, isFirst, isSecond, none]
          | false =>
              simp [List.find?_append, isFirst, isSecond]

theorem Unseen.mem_iff (unseen : Unseen tree package mappings others)
    (isApplicable : Applicable tree package mapping) : mapping ∈ others ↔ mapping ∈ mappings := by
  have notIdle {other : Mapping} (idle : ¬ Applicable tree package other) : mapping ≠ other := by
    rintro rfl
    exact idle isApplicable
  cases unseen with
  | added idle => simp [notIdle idle]
  | removed idle => simp [notIdle idle]
  | swapped differ apart => simp [or_left_comm]

theorem Unseen.isChosen_iff (unseen : Unseen tree package mappings others) :
    IsChosen tree others package mapping directory ↔
      IsChosen tree mappings package mapping directory := by
  rw [SchemaDoc.isChosen_iff, SchemaDoc.isChosen_iff, unseen.find?_eq]
  apply and_congr_right
  intro _
  apply and_congr_left
  intro _
  constructor
  · intro isLongest other member isApplicable
    exact isLongest other ((unseen.mem_iff isApplicable).mpr member) isApplicable
  · intro isLongest other member isApplicable
    exact isLongest other ((unseen.mem_iff isApplicable).mp member) isApplicable

/-- Changes that are not seen leave a package where it is located. -/
theorem locate?_unseen (unseen : Relation.ReflTransGen (Unseen tree package) mappings others) :
    Resolver.locate? tree others package = Resolver.locate? tree mappings package := by
  induction unseen with
  | refl => rfl
  | tail _ step inductionHypothesis =>
      rw [← inductionHypothesis]
      apply Option.ext
      intro located
      rw [locate?_eq_some_iff, locate?_eq_some_iff]
      simp only [step.isChosen_iff]

end Unseen

namespace Search

/-! ## Main statement -/

/-- A package is resolved by the mapping with the longest name among those that apply, the first one among
equals, and then the imported program is neither asked nor changed. It is asked where none applies.
Mappings that do not apply may come, go and move, and two of different names may change places, when none
of either name stands between them. -/
theorem resolve_longest {search : SearchState}
    (reads : (search.resolver.mappings tree).2.2 = .ok mappings) (package : Text) :
    let name := Resolver.packageName package
    let outcome := (Search.resolve tree package).run search
    (∀ mapping directory, IsChosen tree mappings name mapping directory →
      outcome = (.ok (some ⟨name, FileTree.resolve directory⟩), search.reading tree)) ∧
    ((∃ mapping ∈ mappings, Applicable tree name mapping) →
      ∃ mapping directory, IsChosen tree mappings name mapping directory) ∧
    ((∀ mapping ∈ mappings, ¬ Applicable tree name mapping) →
      outcome = Prod.map (Except.map (Option.map fun directory => ⟨name, FileTree.resolve directory⟩)) id
        ((Search.installed tree name).run (search.reading tree))) ∧
    ∀ (changed : SearchState) (others : List Mapping), changed.world = search.world →
      (changed.resolver.mappings tree).2.2 = .ok others →
      Relation.ReflTransGen (Unseen tree name) mappings others →
      ((Search.resolve tree package).run changed).1 = outcome.1 ∧
        ((Search.resolve tree package).run changed).2.world = outcome.2.world := by
  intro name outcome
  refine ⟨?_, ?_, ?_, ?_⟩
  · intro mapping directory isChosen
    apply run_resolve_located reads
    exact locate?_eq_some_iff.mpr ⟨mapping, directory, isChosen, rfl⟩
  · rintro ⟨mapping, member, isApplicable⟩
    cases isLocated : Resolver.locate? tree mappings name with
    | none => exact absurd isApplicable (locate?_eq_none_iff.mp isLocated mapping member)
    | some located =>
        obtain ⟨chosen, directory, isChosen, -⟩ := locate?_eq_some_iff.mp isLocated
        exact ⟨chosen, directory, isChosen⟩
  · intro idle
    rw [run_installed]
    exact run_resolve_installed reads (locate?_eq_none_iff.mpr idle)
  · intro changed others sameWorld readsOthers unseen
    have sameLocation := locate?_unseen unseen
    cases isLocated : Resolver.locate? tree mappings name with
    | none =>
        rw [isLocated] at sameLocation
        rw [show outcome = _ from run_resolve_installed reads isLocated,
          run_resolve_installed readsOthers sameLocation, sameWorld]
        exact ⟨rfl, rfl⟩
    | some located =>
        rw [isLocated] at sameLocation
        rw [show outcome = _ from run_resolve_located reads isLocated,
          run_resolve_located readsOthers sameLocation]
        exact ⟨rfl, sameWorld⟩

namespace Sample

/-- Two directories, the first of which has the package `models`. -/
def directories : FileTree :=
  ⟨[], [["one".toList, "models".toList], ["two".toList]]⟩

/-- A mapping to a directory of the project. -/
def mapped (package directory : String) : Mapping :=
  ⟨package.toList, ⟨.project, [directory.toList]⟩⟩

/-- A search that has read these mappings. -/
def searchWith (mappings : List Mapping) : SearchState :=
  ⟨.create [] [], ⟨.project, "modules".toList, some mappings⟩, []⟩

/-- Of the mappings with the longest name only the second one has the directory. -/
def overlapping : List Mapping :=
  [⟨[], .project⟩, mapped "shop" "two", mapped "shop" "one"]

theorem isChosen_overlapping :
    IsChosen directories overlapping "shop.models".toList (mapped "shop" "one")
      ⟨.project, ["one".toList, "models".toList]⟩ := by
  refine ⟨⟨⟨"models".toList, .part (by decide), by decide⟩, by decide +kernel⟩, ?_, ?_⟩
  · intro other member _
    have atMost : ∀ other ∈ overlapping, other.package.length ≤ 4 := by decide
    exact atMost other member
  · refine ⟨[⟨[], .project⟩, mapped "shop" "two"], [], rfl, ?_⟩
    decide +kernel

end Sample

theorem resolve_longest_sample :
    ((Sample.searchWith Sample.overlapping).resolver.mappings Sample.directories).2.2 =
        .ok Sample.overlapping ∧
      (Search.resolve Sample.directories " shop.models. ".toList).run
          (Sample.searchWith Sample.overlapping) =
        (.ok (some ⟨"shop.models".toList, ⟨.project, ["one".toList, "models".toList]⟩⟩),
          (Sample.searchWith Sample.overlapping).reading Sample.directories) := by
  have reads : ((Sample.searchWith Sample.overlapping).resolver.mappings Sample.directories).2.2 =
      .ok Sample.overlapping := rfl
  refine ⟨reads, ?_⟩
  exact (resolve_longest reads " shop.models. ".toList).1 _ _ Sample.isChosen_overlapping

namespace Sample

def shopOne : Mapping := mapped "shop" "one"

def shopTwo : Mapping := mapped "shop" "two"

def otherOne : Mapping := mapped "other" "one"

theorem packageName_shop : Resolver.packageName "shop".toList = "shop".toList := by
  decide +kernel

theorem isChosen_shopOne :
    IsChosen directories [shopOne, shopTwo, otherOne] "shop".toList shopOne
      ⟨.project, ["one".toList]⟩ := by
  refine ⟨⟨⟨[], .whole rfl, by decide⟩, by decide +kernel⟩, by decide +kernel, ?_⟩
  exact ⟨[], [shopTwo, otherOne], rfl, by simp⟩

theorem isChosen_shopTwo :
    IsChosen directories [otherOne, shopTwo, shopOne] "shop".toList shopTwo
      ⟨.project, ["two".toList]⟩ := by
  refine ⟨⟨⟨[], .whole rfl, by decide⟩, by decide +kernel⟩, by decide +kernel, ?_⟩
  exact ⟨[otherOne], [shopOne], rfl, by decide +kernel⟩

theorem locate?_of_isChosen {mappings : List Mapping} {mapping : Mapping} {directory : Path}
    (isChosen : IsChosen directories mappings "shop".toList mapping directory) :
    Resolver.locate? directories mappings (Resolver.packageName "shop".toList) =
      some ⟨"shop".toList, FileTree.resolve directory⟩ := by
  rw [packageName_shop]
  exact locate?_eq_some_iff.mpr ⟨mapping, directory, isChosen, rfl⟩

end Sample

/-- Mappings of different names may not change places when another one of the first one's name stands
between them. -/
theorem resolve_swapped :
    Sample.shopOne.package ≠ Sample.otherOne.package ∧
      ((Search.resolve Sample.directories "shop".toList).run
        (Sample.searchWith [Sample.shopOne, Sample.shopTwo, Sample.otherOne])).1 =
          .ok (some ⟨"shop".toList, ⟨.project, ["one".toList]⟩⟩) ∧
      ((Search.resolve Sample.directories "shop".toList).run
        (Sample.searchWith [Sample.otherOne, Sample.shopTwo, Sample.shopOne])).1 =
          .ok (some ⟨"shop".toList, ⟨.project, ["two".toList]⟩⟩) := by
  have isOne := Sample.locate?_of_isChosen Sample.isChosen_shopOne
  have isTwo := Sample.locate?_of_isChosen Sample.isChosen_shopTwo
  refine ⟨by decide, ?_, ?_⟩
  · rw [run_resolve_located rfl isOne]
    rfl
  · rw [run_resolve_located rfl isTwo]
    rfl

end Search

end SchemaDoc
