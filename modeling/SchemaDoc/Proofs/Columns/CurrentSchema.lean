import SchemaDoc.Proofs.Columns.Delivery

/-!
Contract: which rows of a catalogue the columns of a table are read from.

A catalogue may hold tables of one name in several schemas. The queries of two dialects pick the rows of
the connection's own schema; that of a third one picks the rows of all namesakes, and their columns are
merged with those of the table (`read_catalogue`).

Main statement: `read_current_iff`.
-/

namespace SchemaDoc

/-! ## Rows of a table -/

namespace Catalogue

/-- The row is about the table of a name in the schema of the connection. -/
def IsOwn (catalogue : Catalogue) (table : Text) (row : CatalogueRow) : Prop :=
  row.table = some table ∧ row.schema ≠ none ∧ row.schema = catalogue.current

instance (catalogue : Catalogue) (table : Text) : DecidablePred (catalogue.IsOwn table) :=
  fun row => inferInstanceAs
    (Decidable (row.table = some table ∧ row.schema ≠ none ∧ row.schema = catalogue.current))

/-- The row is about a table of the same name in another schema. -/
def IsNamesake (catalogue : Catalogue) (table : Text) (row : CatalogueRow) : Prop :=
  row.table = some table ∧ ¬ catalogue.IsOwn table row

instance (catalogue : Catalogue) (table : Text) : DecidablePred (catalogue.IsNamesake table) :=
  fun row => inferInstanceAs (Decidable (row.table = some table ∧ ¬ catalogue.IsOwn table row))

/-- Two catalogues differ at most in the rows of namesakes of a table. -/
def SameButNamesakes (catalogue other : Catalogue) (table : Text) : Prop :=
  other.current = catalogue.current ∧
    (other.rows.filter fun row => ¬ other.IsNamesake table row) =
      catalogue.rows.filter fun row => ¬ catalogue.IsNamesake table row

/-- Rows are those of a catalogue that meet a condition, by ascending position. -/
structure IsListing (catalogue : Catalogue) (condition : CatalogueRow → Prop) [DecidablePred condition]
    (rows : List CatalogueRow) : Prop where
  perm : rows.Perm (catalogue.rows.filter condition)
  ordered : rows.Pairwise fun one other => Database.positionNotAfter one.position other.position = true

/-- The rows about the table in the schema of the connection. -/
def own (catalogue : Catalogue) (table : Text) : List CatalogueRow :=
  Database.select catalogue (Database.isCurrent catalogue table)

/-- The rows about the tables of the name in all schemas. -/
def named (catalogue : Catalogue) (table : Text) : List CatalogueRow :=
  Database.select catalogue (Database.isNamed table)

theorem isCurrent_iff {catalogue : Catalogue} {table : Text} {row : CatalogueRow} :
    Database.isCurrent catalogue table row = true ↔ catalogue.IsOwn table row := by
  unfold Database.isCurrent IsOwn
  simp [Option.isSome_iff_ne_none, and_assoc]

theorem positionNotAfter_trans {first second third : Option Int}
    (before : Database.positionNotAfter first second = true)
    (behind : Database.positionNotAfter second third = true) :
    Database.positionNotAfter first third = true := by
  cases first with
  | none => rfl
  | some a =>
      cases second with
      | none => contradiction
      | some b =>
          cases third with
          | none => contradiction
          | some c =>
              have low : a ≤ b := of_decide_eq_true before
              have high : b ≤ c := of_decide_eq_true behind
              exact decide_eq_true (show a ≤ c by omega)

theorem positionNotAfter_total (first second : Option Int) :
    (Database.positionNotAfter first second || Database.positionNotAfter second first) = true := by
  cases first with
  | none => rfl
  | some a =>
      cases second with
      | none => rfl
      | some b =>
          rw [Bool.or_eq_true]
          rcases Int.le_total a b with before | behind
          · exact .inl (decide_eq_true before)
          · exact .inr (decide_eq_true behind)

theorem isListing_select {catalogue : Catalogue} {selected : CatalogueRow → Bool}
    {condition : CatalogueRow → Prop} [DecidablePred condition]
    (means : ∀ row, selected row = true ↔ condition row) :
    catalogue.IsListing condition (Database.select catalogue selected) := by
  have sameRows : catalogue.rows.filter selected = catalogue.rows.filter condition := by
    apply List.filter_congr
    intro row _
    rw [Bool.eq_iff_iff, means, decide_eq_true_iff]
  refine ⟨sameRows ▸ List.mergeSort_perm _ _, List.pairwise_mergeSort ?_ ?_ _⟩
  · intro one other third before behind
    exact positionNotAfter_trans before behind
  · intro one other
    exact positionNotAfter_total one.position other.position

theorem SameButNamesakes.own_eq {catalogue other : Catalogue} {table : Text}
    (same : catalogue.SameButNamesakes other table) : other.own table = catalogue.own table := by
  obtain ⟨sameSchema, sameRows⟩ := same
  -- A row of the current schema is no namesake's, so it stands among the rows that both catalogues have.
  have kept (either : Catalogue) : either.rows.filter (Database.isCurrent either table) =
      (either.rows.filter fun row => ¬ either.IsNamesake table row).filter
        (Database.isCurrent either table) := by
    rw [List.filter_filter]
    apply List.filter_congr
    intro row _
    rw [Bool.eq_iff_iff, Bool.and_eq_true, isCurrent_iff, decide_eq_true_iff]
    exact ⟨fun isOwn => ⟨isOwn, fun isNamesake => isNamesake.2 isOwn⟩, And.left⟩
  have sameCondition : Database.isCurrent other table = Database.isCurrent catalogue table := by
    unfold Database.isCurrent
    rw [sameSchema]
  unfold own Database.select
  rw [kept other, kept catalogue, sameRows, sameCondition]

end Catalogue

/-! ## Columns of more rows -/

namespace Delivery

/-- The columns of rows stay what they are among more rows: the same names appear, in the same order, and
the last row of each name has the type that it had. -/
structure StaysAmong (rows all : List (Text × Option Text)) : Prop where
  names : (all.map Prod.fst).eraseDups = (rows.map Prod.fst).eraseDups
  types : ∀ name ∈ rows.map Prod.fst, lastType all name = lastType rows name

theorem merged_eq_iff {rows all : List (Text × Option Text)} :
    merged all = merged rows ↔ StaysAmong rows all := by
  constructor
  · intro same
    have names : (all.map Prod.fst).eraseDups = (rows.map Prod.fst).eraseDups := by
      rw [← map_fst_merged, ← map_fst_merged, same]
    rw [merged, merged, names] at same
    refine ⟨names, ?_⟩
    intro name member
    have sameEntry := List.map_inj_left.mp same name (List.mem_eraseDups.mpr member)
    exact (Prod.mk.inj sameEntry).2
  · intro stays
    rw [merged, merged, stays.names]
    apply List.map_congr_left
    intro name member
    rw [stays.types name (List.mem_eraseDups.mp member)]

end Delivery

/-! ## Readings -/

namespace ColumnReader

/-- The names and types that rows of a catalogue show. -/
def shown (rows : List CatalogueRow) : List (Text × Option Text) :=
  rows.map fun row => (row.column, row.type)

theorem settle_ofRows (table : Text) (rows : List (Text × Option Text)) :
    settle table (.ofRows rows) = ([], Delivery.merged rows) := by
  rw [settle, Delivery.columns_eq]
  rfl

variable {reader : ColumnReader}

theorem read_catalogue (hasCatalogue : reader.dialect ∈ [.mysql, .postgresql, .sqlServer])
    (tables : List Table) (catalogue : Catalogue) (name table : Text) :
    (reader.read ⟨true, tables, some catalogue, name⟩ table).2 =
      ([], Delivery.merged (shown
        (if reader.dialect = .sqlServer then catalogue.named table else catalogue.own table))) := by
  obtain ⟨dialect, connected, hasWarned⟩ := reader
  simp only [List.mem_cons, List.not_mem_nil, or_false] at hasCatalogue
  rcases hasCatalogue with rfl | rfl | rfl
  · exact settle_ofRows table (shown (catalogue.own table))
  · exact settle_ofRows table (shown (catalogue.own table))
  · exact settle_ofRows table (shown (catalogue.named table))

/-- A table of users in the schema of the connection. -/
def users : Catalogue where
  current := some "dbo".toList
  rows := [⟨some "dbo".toList, some "users".toList, "id", some "int".toList, some 1⟩]

/-- One more table of users, in another schema. -/
def auditedUsers : Catalogue :=
  { users with rows := users.rows ++
      [⟨some "audit".toList, some "users".toList, "id", some "varchar".toList, some 1⟩] }

theorem users_sameButNamesakes : users.SameButNamesakes auditedUsers "users".toList :=
  ⟨rfl, by decide⟩

theorem named_users : users.named "users".toList = users.rows :=
  List.mergeSort_of_pairwise (by decide)

theorem named_auditedUsers : auditedUsers.named "users".toList = auditedUsers.rows :=
  List.mergeSort_of_pairwise (by decide)

theorem own_auditedUsers : auditedUsers.own "users".toList = users.rows :=
  List.mergeSort_of_pairwise (by decide)

theorem merged_users : Delivery.merged (shown users.rows) = [("id".toList, "int".toList)] := by
  decide +kernel

theorem merged_auditedUsers :
    Delivery.merged (shown auditedUsers.rows) = [("id".toList, "varchar".toList)] := by
  decide +kernel

/-- Two dialects always read the columns of the table in the schema of the connection, by position, and
namesakes in other schemas make no difference to them. The third one reads those columns exactly where they
stay what they are among the rows of all namesakes, which can make a difference. -/
theorem read_current_iff (hasCatalogue : reader.dialect ∈ [.mysql, .postgresql, .sqlServer]) :
    (∀ tables catalogue name table,
      catalogue.IsListing (catalogue.IsOwn table) (catalogue.own table) ∧
        catalogue.IsListing (·.table = some table) (catalogue.named table) ∧
        ((reader.read ⟨true, tables, some catalogue, name⟩ table).2 =
            ([], Delivery.merged (shown (catalogue.own table))) ↔
          (reader.dialect = .sqlServer →
            Delivery.StaysAmong (shown (catalogue.own table)) (shown (catalogue.named table))))) ∧
      ((∀ tables catalogue other name table, catalogue.SameButNamesakes other table →
          (reader.read ⟨true, tables, some other, name⟩ table).2 =
            (reader.read ⟨true, tables, some catalogue, name⟩ table).2) ↔
        reader.dialect ≠ .sqlServer) := by
  constructor
  · intro tables catalogue name table
    have isOwn : catalogue.IsListing (catalogue.IsOwn table) (catalogue.own table) :=
      Catalogue.isListing_select fun _ => Catalogue.isCurrent_iff
    have isNamed : catalogue.IsListing (·.table = some table) (catalogue.named table) :=
      Catalogue.isListing_select fun _ => decide_eq_true_iff
    refine ⟨isOwn, isNamed, ?_⟩
    rw [read_catalogue hasCatalogue]
    by_cases isThird : reader.dialect = .sqlServer
    · rw [if_pos isThird, Prod.mk.injEq, Delivery.merged_eq_iff]
      simp only [isThird, true_and, true_implies]
    · rw [if_neg isThird]
      simp only [isThird, false_implies]
  · constructor
    · intro unmoved isThird
      have same := unmoved [] users auditedUsers "mssql".toList "users".toList
        users_sameButNamesakes
      rw [read_catalogue hasCatalogue, read_catalogue hasCatalogue, if_pos isThird, if_pos isThird,
        named_users, named_auditedUsers, merged_users, merged_auditedUsers] at same
      exact absurd same (by decide)
    · intro notThird tables catalogue other name table same
      rw [read_catalogue hasCatalogue, read_catalogue hasCatalogue, if_neg notThird, if_neg notThird,
        same.own_eq]

theorem read_current_auditedUsers :
    (ColumnReader.mk .postgresql "postgresql" false).dialect ∈
        [Dialect.mysql, .postgresql, .sqlServer] ∧
      users.SameButNamesakes auditedUsers "users".toList ∧
      ((ColumnReader.mk .postgresql "postgresql" false).read
          ⟨true, [], some auditedUsers, "postgresql"⟩ "users".toList).2 =
        ([], [("id".toList, "int".toList)]) ∧
      ((ColumnReader.mk .postgresql "postgresql" false).read
          ⟨true, [], some auditedUsers, "postgresql"⟩ "users".toList).2 =
        ((ColumnReader.mk .postgresql "postgresql" false).read
          ⟨true, [], some users, "postgresql"⟩ "users".toList).2 := by
  have hasCatalogue : (ColumnReader.mk .postgresql "postgresql" false).dialect ∈
      [Dialect.mysql, .postgresql, .sqlServer] := by decide
  obtain ⟨reads, unmoved⟩ := read_current_iff hasCatalogue
  obtain ⟨-, -, readsOwn⟩ := reads [] auditedUsers "postgresql".toList "users".toList
  rw [own_auditedUsers, merged_users] at readsOwn
  have notThird : Dialect.postgresql ≠ .sqlServer := by decide
  exact ⟨hasCatalogue, users_sameButNamesakes, readsOwn.mpr fun isThird => absurd isThird notThird,
    unmoved.mpr notThird [] users auditedUsers "postgresql".toList "users".toList
      users_sameButNamesakes⟩

/-- The third dialect shows the type that a column has in another schema. -/
theorem namesake_replaces_type :
    users.SameButNamesakes auditedUsers "users".toList ∧
      Delivery.merged (shown (auditedUsers.own "users".toList)) = [("id".toList, "int".toList)] ∧
      ((ColumnReader.mk .sqlServer "mssql" false).read ⟨true, [], some users, "mssql"⟩
          "users".toList).2 =
        ([], [("id".toList, "int".toList)]) ∧
      ((ColumnReader.mk .sqlServer "mssql" false).read ⟨true, [], some auditedUsers, "mssql"⟩
          "users".toList).2 =
        ([], [("id".toList, "varchar".toList)]) := by
  have hasCatalogue : (ColumnReader.mk .sqlServer "mssql" false).dialect ∈
      [Dialect.mysql, .postgresql, .sqlServer] := by decide
  refine ⟨users_sameButNamesakes, ?_, ?_, ?_⟩
  · rw [own_auditedUsers, merged_users]
  · rw [read_catalogue hasCatalogue, if_pos rfl, named_users, merged_users]
  · rw [read_catalogue hasCatalogue, if_pos rfl, named_auditedUsers, merged_auditedUsers]

end ColumnReader

end SchemaDoc
