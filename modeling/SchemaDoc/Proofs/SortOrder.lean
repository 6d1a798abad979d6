import Mathlib.Data.Char
import Mathlib.Data.List.Lex
import Mathlib.Data.List.Nodup
import Mathlib.Data.Prod.Lex
import SchemaDoc.Block.Basic

/-!
Contract: the orders of the columns of a block.

Texts are compared by code points and lists of texts by their first difference, so the key of a column is
a place in a linear order (`notAfter_iff`). The place gives the name away (`name_eq_of_place_eq`): columns of
distinct names have one ascending arrangement, whatever arrangement they come in (`sort_settles`).
-/

namespace SchemaDoc

/-! ## Texts -/

theorem Text.nil_le {α : Type} [LinearOrder α] (list : List α) : [] ≤ list :=
  not_lt.mp (List.not_lt_nil list)

/-- The first difference of two lists decides which one is the smaller one. -/
theorem Text.cons_le_cons_iff {α : Type} [LinearOrder α] {a b : α} {left right : List α} :
    a :: left ≤ b :: right ↔ a < b ∨ a = b ∧ left ≤ right := by
  rw [← not_lt, List.cons_lt_cons_iff, ← not_lt (a := right)]
  rcases lt_trichotomy a b with before | same | behind
  · simp [before, lt_asymm before, ne_of_gt before]
  · simp [same]
  · simp [behind, lt_asymm behind, ne_of_gt behind]

theorem Text.notAfter_iff (first second : Text) : Text.notAfter first second = true ↔ first ≤ second := by
  induction first generalizing second with
  | nil => exact iff_of_true rfl (nil_le second)
  | cons a left inductionHypothesis =>
      cases second with
      | nil => simp [Text.notAfter]
      | cons b right =>
          rw [Text.notAfter, cons_le_cons_iff]
          rcases lt_trichotomy a b with before | same | behind
          · have below : a.toNat < b.toNat := before
            simp [below, before]
          · subst same
            simp [inductionHypothesis]
          · have above : b.toNat < a.toNat := behind
            simp [Nat.lt_asymm above, above, lt_asymm behind, ne_of_gt behind]

theorem Text.listNotAfter_iff (first second : List Text) :
    Text.listNotAfter first second = true ↔ first ≤ second := by
  induction first generalizing second with
  | nil => exact iff_of_true rfl (nil_le second)
  | cons a left inductionHypothesis =>
      cases second with
      | nil => simp [Text.listNotAfter]
      | cons b right =>
          rw [Text.listNotAfter, cons_le_cons_iff]
          by_cases same : a = b
          · simp [same, inductionHypothesis]
          · simp [same, Text.notAfter_iff, le_iff_lt_or_eq]

namespace SortOrder

variable {order : SortOrder} {columns others : List Column} {one other : Column}

/-! ## Places -/

/-- The place of a column in an order: no flag stands before a flag, and the texts decide among equals. -/
def place (order : SortOrder) (column : Column) : Bool ×ₗ List Text :=
  toLex (order.key column)

theorem notAfter_iff : order.notAfter one other = true ↔ order.place one ≤ order.place other := by
  rw [Prod.Lex.le_iff]
  unfold notAfter place
  dsimp only [ofLex_toLex]
  split
  · next same => simp [same, Text.listNotAfter_iff]
  · next differ =>
      cases left : (order.key one).1 <;> cases right : (order.key other).1 <;> simp_all

/-- The last text of every key is the name. -/
theorem getLast?_key (order : SortOrder) (column : Column) :
    (order.key column).2.getLast? = some column.name := by
  cases order <;> rfl

theorem name_eq_of_place_eq (same : order.place one = order.place other) : one.name = other.name := by
  have sameKey : order.key one = order.key other := toLex.injective same
  have named := getLast?_key order one
  rw [sameKey, getLast?_key] at named
  exact (Option.some.inj named).symm

/-- Where types decide, a built-in type stands before every other one. -/
theorem isBuiltinType_of_place_le (typed : order ≠ .byName) (before : order.place one ≤ order.place other)
    (isBuiltin : isBuiltinType other.documented = true) : isBuiltinType one.documented = true := by
  have flags : (order.key one).1 ≤ (order.key other).1 := by
    rcases Prod.Lex.le_iff.mp before with less | ⟨same, -⟩
    · exact le_of_lt less
    · exact le_of_eq same
  cases order with
  | byName => exact absurd rfl typed
  | byType => simpa [key, isBuiltin, Bool.le_iff_imp] using flags
  | byDatabase => simpa [key, isBuiltin, Bool.le_iff_imp] using flags

/-! ## Columns in order -/

theorem sort_perm (order : SortOrder) (columns : List Column) : (order.sort columns).Perm columns :=
  List.mergeSort_perm columns _

theorem pairwise_sort (order : SortOrder) (columns : List Column) :
    (order.sort columns).Pairwise fun one other => order.place one ≤ order.place other := by
  have sorted : (order.sort columns).Pairwise fun one other => order.notAfter one other = true := by
    apply List.pairwise_mergeSort
    · intro first second third
      simp only [notAfter_iff]
      exact le_trans
    · intro first second
      simp only [Bool.or_eq_true, notAfter_iff]
      exact le_total _ _
  exact sorted.imp notAfter_iff.mp

theorem sort_of_pairwise
    (sorted : columns.Pairwise fun one other => order.place one ≤ order.place other) :
    order.sort columns = columns :=
  List.mergeSort_of_pairwise (sorted.imp notAfter_iff.mpr)

section Named

variable (named : (columns.map Column.name).Nodup)
include named

/-- Columns of distinct names stand at distinct places. -/
theorem eq_of_place_eq (isOne : one ∈ columns) (isOther : other ∈ columns)
    (same : order.place one = order.place other) : one = other :=
  List.inj_on_of_nodup_map named isOne isOther (name_eq_of_place_eq same)

theorem sort_eq_of_perm (shuffled : others.Perm columns) : order.sort others = order.sort columns := by
  have rearranged : (order.sort others).Perm (order.sort columns) :=
    (sort_perm order others).trans (shuffled.trans (sort_perm order columns).symm)
  refine rearranged.eq_of_pairwise ?_ (pairwise_sort order others) (pairwise_sort order columns)
  intro one other isOne isOther before behind
  have oneMember : one ∈ columns := shuffled.mem_iff.mp ((sort_perm order others).mem_iff.mp isOne)
  have otherMember : other ∈ columns := (sort_perm order columns).mem_iff.mp isOther
  exact eq_of_place_eq named oneMember otherMember (le_antisymm before behind)

theorem pairwise_lt_sort (order : SortOrder) :
    (order.sort columns).Pairwise fun one other => order.place one < order.place other := by
  have sortedNames : ((order.sort columns).map Column.name).Nodup :=
    ((sort_perm order columns).map Column.name).nodup_iff.mpr named
  refine (pairwise_sort order columns).imp₂ ?_ (List.pairwise_map.mp sortedNames)
  intro one other before differ
  exact lt_of_le_of_ne before fun same => differ (name_eq_of_place_eq same)

/-- Columns of distinct names are put in one order, each at its own place, and the block that shows them
does not depend on the order in which they came. -/
theorem sort_settles (order : SortOrder) (filled : columns ≠ []) :
    (order.sort columns).Perm columns ∧
      ((order.sort columns).Pairwise fun one other => order.place one < order.place other) ∧
      (order ≠ .byName → (order.sort columns).Pairwise fun one other =>
        isBuiltinType other.documented = true → isBuiltinType one.documented = true) ∧
      order.sort (order.sort columns) = order.sort columns ∧
      ∀ others : List Column, others.Perm columns →
        order.sort others = order.sort columns ∧
        ∀ qualname table relations, ∃ block,
          Block.render? qualname table (order.sort columns) relations = some block ∧
          Block.render? qualname table (order.sort others) relations = some block := by
  refine ⟨sort_perm order columns, pairwise_lt_sort named order, ?_,
    sort_of_pairwise (pairwise_sort order columns), ?_⟩
  · intro typed
    exact (pairwise_sort order columns).imp fun before => isBuiltinType_of_place_le typed before
  · intro others shuffled
    have sameSorted : order.sort others = order.sort columns := sort_eq_of_perm named shuffled
    refine ⟨sameSorted, fun qualname table relations => ?_⟩
    have sortedFilled : order.sort columns ≠ [] := by
      intro isNil
      exact filled (List.Perm.nil_eq (isNil ▸ sort_perm order columns)).symm
    refine ⟨_, if_neg (mt List.isEmpty_iff.mp sortedFilled), ?_⟩
    rw [sameSorted]
    exact if_neg (mt List.isEmpty_iff.mp sortedFilled)

end Named

/-- Columns of one documented type, in two native types, and one column whose type is built in. -/
def visitColumns : List Column :=
  [("id", "bigint"), ("left", "date"), ("made", "timestamp"), ("seen", "timestamp")].map fun column =>
    .ofNative column.1.toList column.2.toList

theorem sort_settles_visitColumns :
    (visitColumns.map Column.name).Nodup ∧ visitColumns ≠ [] ∧ SortOrder.byDatabase ≠ .byName ∧
      byDatabase.sort visitColumns.reverse = visitColumns ∧
      ∃ block, Block.render? "Visit".toList "visits".toList visitColumns [] = some block ∧
        Block.render? "Visit".toList "visits".toList (byDatabase.sort visitColumns.reverse) [] =
          some block := by
  have named : (visitColumns.map Column.name).Nodup := by decide +kernel
  have filled : visitColumns ≠ [] := by decide
  have inOrder : byDatabase.sort visitColumns = visitColumns :=
    List.mergeSort_of_pairwise (by decide +kernel)
  obtain ⟨-, -, -, -, settles⟩ := sort_settles named byDatabase filled
  obtain ⟨sameSorted, sameBlock⟩ := settles visitColumns.reverse (List.reverse_perm _)
  rw [inOrder] at sameSorted sameBlock
  exact ⟨named, filled, by decide, sameSorted, sameBlock "Visit".toList "visits".toList []⟩

end SortOrder

end SchemaDoc
