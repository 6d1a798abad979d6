import SchemaDoc.Proofs.Columns.Delivery

/-!
Contract: readings of columns in a row.

All that a reader remembers is that it has given its warning (`readEach_append`). The rest of an answer
depends on the table and on what the database delivers for it, whatever was read before
(`map_outcome_readEach`).

Main statement: `readEach_allOrNothing`.
-/

namespace SchemaDoc.ColumnReader

/-- One reading: the table that is asked for, and what the database delivers at that time. -/
structure Reading where
  table : Text
  fetch : Dialect → Text → Delivery

def Reading.delivery (reading : Reading) (dialect : Dialect) : Delivery :=
  reading.fetch dialect reading.table

/-- The entries in the log and the columns that readings in a row give. -/
def readEach (reader : ColumnReader) : List Reading → List (List Log.Record × List (Text × Text))
  | [] => []
  | reading :: rest =>
    let (next, answer) := reader.readFrom reading.fetch reading.table
    answer :: next.readEach rest

/-- The reader when it has made readings. -/
def after (reader : ColumnReader) (past : List Reading) : ColumnReader :=
  { reader with hasWarned := reader.hasWarned || !past.isEmpty }

/-! ## Answers -/

/-- All columns that a delivery shows and no entry in the log, or, where it failed, no column and the one
entry about it. -/
def IsAllOrNothing (table : Text) (delivery : Delivery) (records : List Log.Record)
    (columns : List (Text × Text)) : Prop :=
  match delivery.fault with
  | none => records = [] ∧ columns = Delivery.merged delivery.rows
  | some fault =>
    records = [.error ("Failed to get columns for table '" ++ table ++ "': " ++ fault.message)] ∧
      columns = []

theorem settle_isAllOrNothing (table : Text) (delivery : Delivery) :
    IsAllOrNothing table delivery (settle table delivery).1 (settle table delivery).2 := by
  unfold IsAllOrNothing settle
  rw [Delivery.columns_eq]
  cases delivery.fault with
  | none => exact ⟨rfl, rfl⟩
  | some fault => exact ⟨rfl, rfl⟩

/-- An answer without the entries that are not errors. -/
def outcome (answer : List Log.Record × List (Text × Text)) : List Log.Record × List (Text × Text) :=
  (answer.1.filter (·.level = .error), answer.2)

theorem outcome_settle (table : Text) (delivery : Delivery) (warnings : List Log.Record)
    (harmless : ∀ record ∈ warnings, record.level ≠ .error) :
    outcome (warnings ++ (settle table delivery).1, (settle table delivery).2) = settle table delivery := by
  have dropped : warnings.filter (·.level = .error) = [] := by
    apply List.filter_eq_nil_iff.mpr
    intro record member
    simpa using harmless record member
  have kept : (settle table delivery).1.filter (·.level = .error) = (settle table delivery).1 := by
    unfold settle
    cases delivery.columns with
    | ok columns => rfl
    | error fault => rfl
  rw [outcome, List.filter_append, dropped, kept, List.nil_append]

/-- The entry about a connection whose driver has no way of its own. -/
def unsupported (connected : Text) : Log.Record :=
  .warning ("Unsupported driver: ".toList ++ connected ++ ". Using inspector fallback.".toList)

section Runs

variable (reader : ColumnReader)

theorem firstWarning_eq :
    reader.firstWarning =
      if reader.dialect = .generic ∧ reader.hasWarned = false then [unsupported reader.connected]
      else [] := by
  unfold firstWarning unsupported
  simp only [Bool.and_eq_true, decide_eq_true_eq, Bool.not_eq_true']

theorem firstWarning_harmless : ∀ record ∈ reader.firstWarning, record.level ≠ .error := by
  intro record member
  rw [firstWarning_eq] at member
  split at member
  · rw [List.mem_singleton.mp member]
    exact Log.Level.noConfusion
  · exact absurd member List.not_mem_nil

/-! ## Runs of readings -/

/-- One reading gives the warning if it is due, and what becomes of the delivery. -/
theorem readEach_cons (reading : Reading) (rest : List Reading) :
    reader.readEach (reading :: rest) =
      (reader.firstWarning ++ (settle reading.table (reading.delivery reader.dialect)).1,
          (settle reading.table (reading.delivery reader.dialect)).2) ::
        (reader.after [reading]).readEach rest := by
  rw [after, List.isEmpty_cons, Bool.not_false, Bool.or_true]
  rfl

theorem readEach_append (front back : List Reading) :
    reader.readEach (front ++ back) = reader.readEach front ++ (reader.after front).readEach back := by
  induction front generalizing reader with
  | nil => rw [after, List.isEmpty_nil, Bool.not_true, Bool.or_false]; rfl
  | cons reading rest inductionHypothesis =>
      have sameReader : (reader.after [reading]).after rest = reader.after (reading :: rest) := by
        simp [after]
      rw [List.cons_append, readEach_cons, inductionHypothesis, sameReader, readEach_cons,
        List.cons_append]

theorem length_readEach (readings : List Reading) :
    (reader.readEach readings).length = readings.length := by
  induction readings generalizing reader with
  | nil => rfl
  | cons reading rest inductionHypothesis =>
      rw [readEach_cons, List.length_cons, inductionHypothesis, List.length_cons]

/-- Errors and columns depend on the reading alone. -/
theorem map_outcome_readEach (readings : List Reading) :
    (reader.readEach readings).map outcome =
      readings.map fun reading => settle reading.table (reading.delivery reader.dialect) := by
  induction readings generalizing reader with
  | nil => rfl
  | cons reading rest inductionHypothesis =>
      rw [readEach_cons, List.map_cons, List.map_cons, inductionHypothesis,
        outcome_settle _ _ _ reader.firstWarning_harmless]
      rfl

end Runs

/-- Each reading gives all columns or none and one error. A reader without a way of its own warns at the
first reading and at no other one, and errors and columns do not depend on the readings before. -/
theorem readEach_allOrNothing (dialect : Dialect) (connected : Text) (front : List Reading)
    (reading : Reading) (back : List Reading) :
    ∃ before records columns later,
      (ColumnReader.mk dialect connected false).readEach (front ++ reading :: back) =
          before ++
            ((if dialect = .generic ∧ front = [] then [unsupported connected] else []) ++ records,
                columns) ::
              later ∧
        before.length = front.length ∧
        IsAllOrNothing reading.table (reading.delivery dialect) records columns ∧
        ∀ past : List Reading,
          (((ColumnReader.mk dialect connected false).readEach (past ++ back)).drop past.length).map outcome =
            later.map outcome := by
  have warning : ((ColumnReader.mk dialect connected false).after front).firstWarning =
      if dialect = .generic ∧ front = [] then [unsupported connected] else [] := by
    rw [firstWarning_eq]
    simp [after]
  refine ⟨(ColumnReader.mk dialect connected false).readEach front, _, _,
    (((ColumnReader.mk dialect connected false).after front).after [reading]).readEach back, ?_,
    length_readEach _ front, settle_isAllOrNothing _ _, ?_⟩
  · rw [readEach_append, readEach_cons, warning]
    rfl
  · intro past
    rw [readEach_append, ← length_readEach (ColumnReader.mk dialect connected false) past, List.drop_left,
      map_outcome_readEach, map_outcome_readEach]
    rfl

end SchemaDoc.ColumnReader
