import SchemaDoc.Value

/-!
Contract: dynamic values as mappings.

A set key is found with its value and nothing else changes (`lookup?_assign`), also where it is set only
when there is a value for it (`lookup?_setWhen`). Equal values are empty alike, also numbers of different
kinds (`isEmpty_of_same`). The values that can be read as mappings are the mappings themselves and those
whose parts are pairs of a key and a value (`toEntries_isOk_iff`).
-/

namespace SchemaDoc.Value

/-! ## Parts -/

theorem lookup?_assign (key name : Text) (value : Value) (entries : List (Value × Value)) :
    lookup? key (assign name value entries) =
      if name = key then some value else lookup? key entries := by
  induction entries with
  | nil => simp only [assign, lookup?]
  | cons entry rest inductionHypothesis =>
      obtain ⟨old, present⟩ := entry
      cases old with
      | str label =>
          rw [assign]
          by_cases replaced : label = name
          · subst replaced
            rw [if_pos rfl, lookup?, lookup?]
            split <;> rfl
          · rw [if_neg replaced, lookup?, lookup?, inductionHypothesis]
            by_cases found : label = key
            · rw [if_pos found, if_pos found, if_neg fun same => replaced (found.trans same.symm)]
            · rw [if_neg found, if_neg found]
      | _ => exact inductionHypothesis

/-- Setting a key adds no other one. -/
theorem mem_assign {name : Text} {value : Value} {entries : List (Value × Value)}
    {entry : Value × Value} (member : entry ∈ assign name value entries) :
    entry.1 = .str name ∨ entry ∈ entries := by
  induction entries with
  | nil => exact .inl (by rw [List.mem_singleton.mp member])
  | cons first rest inductionHypothesis =>
      obtain ⟨old, present⟩ := first
      have behind (isTail : entry ∈ assign name value rest) :
          entry.1 = .str name ∨ entry ∈ (old, present) :: rest :=
        (inductionHypothesis isTail).imp_right (List.mem_cons_of_mem _)
      cases old with
      | str label =>
          rw [assign] at member
          by_cases replaced : label = name
          · rw [if_pos replaced] at member
            rcases List.mem_cons.mp member with rfl | isTail
            · exact .inl (by rw [replaced])
            · exact .inr (List.mem_cons_of_mem _ isTail)
          · rw [if_neg replaced] at member
            rcases List.mem_cons.mp member with rfl | isTail
            · exact .inr List.mem_cons_self
            · exact behind isTail
      | _ =>
          rcases List.mem_cons.mp member with rfl | isTail
          · exact .inr List.mem_cons_self
          · exact behind isTail

/-- Entries with a key set, where there is a value for it. -/
def setWhen (name : String) (value : Option Value) (entries : List (Value × Value)) :
    List (Value × Value) :=
  match value with
  | some present => assign name present entries
  | none => entries

theorem lookup?_setWhen (name : String) (value : Option Value) (key : Text)
    (entries : List (Value × Value)) :
    lookup? key (setWhen name value entries) =
      if name.toList = key then value.or (lookup? key entries)
      else lookup? key entries := by
  cases value with
  | some present => exact lookup?_assign key name.toList present entries
  | none => exact (ite_self _).symm

theorem mem_setWhen {name : String} {value : Option Value} {entries : List (Value × Value)}
    {entry : Value × Value} (member : entry ∈ setWhen name value entries) :
    entry.1 = .str name.toList ∨ entry ∈ entries := by
  cases value with
  | some present => exact mem_assign member
  | none => exact .inr member

theorem eq_nil_of_setWhen {name : String} {value : Option Value} {entries : List (Value × Value)}
    (isEmpty : setWhen name value entries = []) : entries = [] := by
  cases value with
  | none => exact isEmpty
  | some present =>
      have found := lookup?_assign name.toList name.toList present entries
      rw [show assign name.toList present entries = [] from isEmpty, if_pos rfl] at found
      exact absurd found (by simp [lookup?])

/-! ## Equal values -/

theorem isEmpty_real_ofInt (size : Int) :
    (Value.real (Double.ofInt size)).isEmpty = (Value.int size).isEmpty := by
  by_cases isZero : size = 0
  · subst isZero
    rfl
  · have nonzero : (Value.int size).isEmpty = false := by simpa [isEmpty] using isZero
    rw [nonzero]
    cases rounded : Double.ofInt size with
    | finite negative mantissa exponent =>
        have positive := mt (Double.mantissa_ofInt rounded).mp isZero
        simpa [isEmpty] using positive
    | infinite negative => rfl
    | undefined => rfl

theorem isEmpty_of_number? {value : Value} {number : Double}
    (isNumber : value.number? = some number) : (Value.real number).isEmpty = value.isEmpty := by
  cases value with
  | bool truth =>
      obtain rfl := Option.some.inj isNumber
      cases truth <;> rfl
  | int size =>
      obtain rfl := Option.some.inj isNumber
      exact isEmpty_real_ofInt size
  | real size => rw [Option.some.inj isNumber]
  | _ => exact absurd isNumber (by simp [number?])

theorem isEmpty_of_sameKey {left right : Value} (equal : sameKey left right = true) :
    left.isEmpty = right.isEmpty := by
  unfold sameKey at equal
  split at equal
  · rfl
  · rw [of_decide_eq_true equal]
  · rw [of_decide_eq_true equal]
  · rfl
  · rw [of_decide_eq_true equal]
  · rfl
  · split at equal
    · next isLeft isRight =>
        obtain ⟨same, -⟩ := Bool.and_eq_true_iff.mp equal
        rw [← isEmpty_of_number? isLeft, ← isEmpty_of_number? isRight, of_decide_eq_true same]
    · exact absurd equal (by simp)

theorem isEmpty_of_sameItems {left right : List Value} (equal : sameItems left right = true) :
    left.isEmpty = right.isEmpty := by
  cases left <;> cases right <;> simp_all [sameItems]

/-- Equal values are empty alike. -/
theorem isEmpty_of_same {left right : Value} (equal : left.same right = true) :
    left.isEmpty = right.isEmpty := by
  unfold same at equal
  split at equal
  · exact isEmpty_of_sameItems equal
  · next entries others =>
      obtain ⟨length, -⟩ := Bool.and_eq_true_iff.mp equal
      have sameLength : entries.length = others.length := of_decide_eq_true length
      cases entries <;> cases others <;> simp_all [isEmpty]
  · rfl
  · next items others =>
      obtain ⟨length, -⟩ := Bool.and_eq_true_iff.mp equal
      have sameLength : items.length = others.length := of_decide_eq_true length
      cases items <;> cases others <;> simp_all [isEmpty]
  · exact isEmpty_of_sameKey equal

/-- A text equals nothing but itself. -/
theorem same_str_iff {text : Text} {other : Value} :
    (Value.str text).same other = true ↔ other = .str text := by
  cases other with
  | str written =>
      simp only [same, sameKey, decide_eq_true_eq, str.injEq]
      exact eq_comm
  | _ => simp [same, sameKey, number?]

/-! ## Values that list entries -/

/-- The value is a pair of a key and a value. -/
def IsPair (item : Value) : Prop :=
  ∃ key value, item.parts? = some [key, value] ∧ key.isKey = true

/-- The value is a mapping, or all its parts are pairs. -/
def ListsEntries (value : Value) : Prop :=
  (∃ entries, value = .map entries) ∨
    ∃ items, value.parts? = some items ∧ ∀ item ∈ items, item.IsPair

theorem entriesOfPairs_isOk_iff (done : List (Value × Value)) (items : List Value) :
    (∃ entries, entriesOfPairs done items = .ok entries) ↔ ∀ item ∈ items, item.IsPair := by
  induction items generalizing done with
  | nil => simp [entriesOfPairs]
  | cons item rest inductionHypothesis =>
      rw [List.forall_mem_cons, entriesOfPairs]
      constructor
      · rintro ⟨entries, read⟩
        split at read
        · exact absurd read (by simp)
        · next key value isParts =>
            split at read
            · next isKey =>
                exact ⟨⟨key, value, isParts, isKey⟩, (inductionHypothesis _).mp ⟨entries, read⟩⟩
            · exact absurd read (by simp)
        · exact absurd read (by simp)
      · rintro ⟨⟨key, value, isParts, isKey⟩, others⟩
        rw [isParts]
        simp only [if_pos isKey]
        exact (inductionHypothesis _).mpr others

theorem entriesOfParts_isOk_iff (value : Value) (isMap : ∀ entries, value ≠ .map entries) :
    (∃ entries, (match value.parts? with
      | some items => entriesOfPairs [] items
      | none => .error .kind) = Except.ok entries) ↔ value.ListsEntries := by
  cases isParts : value.parts? with
  | none => simp [ListsEntries, isMap, isParts]
  | some items => simp [ListsEntries, isMap, isParts, entriesOfPairs_isOk_iff]

theorem toEntries_isOk_iff (value : Value) :
    (∃ entries, value.toEntries = .ok entries) ↔ value.ListsEntries := by
  have ofParts := entriesOfParts_isOk_iff value
  cases value with
  | map entries => exact ⟨fun _ => .inl ⟨entries, rfl⟩, fun _ => ⟨entries, rfl⟩⟩
  | _ => exact ofParts (by simp)

end SchemaDoc.Value
