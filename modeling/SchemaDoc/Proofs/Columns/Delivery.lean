import SchemaDoc.ColumnReader

/-!
Contract: the columns that the rows of a delivery make up.

Rows are taken one after the other, each into the columns of the rows in front of it. Between two rows the
columns show the rows that have arrived (`addColumn_merged`), so those of a complete delivery show all of
its rows (`columns_eq`).
-/

namespace SchemaDoc.Delivery

/-- The type in the last row of a name, in lower case; a missing one is empty. -/
def lastType (rows : List (Text × Option Text)) (name : Text) : Text :=
  Text.lower (((rows.findRev? (·.1 = name)).bind Prod.snd).getD [])

/-- Each name of the rows once, in the order in which the names first appear, with its last type. -/
def merged (rows : List (Text × Option Text)) : List (Text × Text) :=
  (rows.map Prod.fst).eraseDups.map fun name => (name, lastType rows name)

variable (rows : List (Text × Option Text)) (row : Text × Option Text)

theorem lastType_concat (name : Text) :
    lastType (rows ++ [row]) name =
      if row.1 = name then Text.lower (row.2.getD []) else lastType rows name := by
  unfold lastType
  rw [List.findRev?_eq_find?_reverse, List.reverse_concat, List.find?_cons]
  by_cases same : row.1 = name
  · simp [same]
  · simp [same]

theorem map_fst_merged : (merged rows).map Prod.fst = (rows.map Prod.fst).eraseDups := by
  rw [merged, List.map_map]
  exact List.map_id _

theorem eraseDups_concat (names : List Text) (name : Text) :
    (names ++ [name]).eraseDups = if name ∈ names then names.eraseDups else names.eraseDups ++ [name] := by
  rw [List.eraseDups_append]
  by_cases known : name ∈ names
  · simp [List.removeAll, known]
  · simp [List.removeAll, known, List.eraseDups_cons]

/-- One more row leaves the columns that show all rows up to it. -/
theorem addColumn_merged : addColumn (merged rows) row = merged (rows ++ [row]) := by
  have isKnown : (merged rows).any (·.1 = row.1) = true ↔ row.1 ∈ rows.map Prod.fst := by
    rw [← List.mem_eraseDups, ← map_fst_merged, List.any_eq_true, List.mem_map]
    simp only [decide_eq_true_eq]
  unfold addColumn
  -- An old name keeps its place and gets a new type, a new name goes behind the others.
  by_cases known : row.1 ∈ rows.map Prod.fst
  · rw [if_pos (isKnown.mpr known), merged, merged, List.map_append, List.map_singleton,
      eraseDups_concat, if_pos known, List.map_map]
    apply List.map_congr_left
    intro name _
    rw [lastType_concat]
    by_cases same : row.1 = name
    · simp [same]
    · simp [same, Ne.symm same]
  · rw [if_neg (mt isKnown.mp known), merged, merged, List.map_append, List.map_singleton,
      eraseDups_concat, if_neg known, List.map_append, List.map_singleton, lastType_concat, if_pos rfl]
    congr 1
    apply List.map_congr_left
    intro name member
    have differs : row.1 ≠ name := fun same => known (same ▸ List.mem_eraseDups.mp member)
    rw [lastType_concat, if_neg differs]

/-- The rest of a delivery is taken into columns that show all rows, or a fault discards them. -/
theorem gather_merged (fault : Option QueryFault) (rest : List (Text × Option Text)) :
    gather fault (merged rows) rest =
      match fault with
      | some fault => .error fault
      | none => .ok (merged (rows ++ rest)) := by
  induction rest generalizing rows with
  | nil =>
      rw [List.append_nil]
      rfl
  | cons row rest inductionHypothesis =>
      rw [gather, addColumn_merged, inductionHypothesis, List.append_assoc, List.singleton_append]

theorem columns_eq (delivery : Delivery) :
    delivery.columns =
      match delivery.fault with
      | some fault => .error fault
      | none => .ok (merged delivery.rows) :=
  gather_merged [] delivery.fault delivery.rows

end SchemaDoc.Delivery
