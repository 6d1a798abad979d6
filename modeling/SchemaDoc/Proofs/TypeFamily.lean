import SchemaDoc.Column
import SchemaDoc.Proofs.Columns.Delivery
import SchemaDoc.Proofs.Text.Case

/-!
Contract: which family a native type belongs to.

The family is the first one of which a word stands in the lowercase text (`rank_ofLowered_le`). Words stand in
all that is written around them, so more text never leads to a later family (`rank_ofNative_le`), and the
lowercase text of a type belongs to the family of the type.

Main statement: `documentedType_settled`.
-/

namespace SchemaDoc

/-! ## The first family -/

namespace TypeFamily

variable {family : TypeFamily} {lowered part text : Text}

theorem rank_le_other (family : TypeFamily) : family.rank ≤ other.rank := by
  cases family <;> decide

theorem eq_whole_of_rank_le (first : family.rank ≤ whole.rank) : family = .whole := by
  cases family with
  | whole => rfl
  | _ => exact absurd first (by decide)

theorem pairwise_ordered : ordered.Pairwise fun first second => first.rank ≤ second.rank := by
  decide

theorem matchesLowered_iff :
    family.matchesLowered lowered = true ↔ ∃ word ∈ family.words, word <:+: lowered := by
  unfold matchesLowered
  simp only [List.any_eq_true, Text.isInfix_iff]

theorem mem_ordered (found : family.matchesLowered lowered = true) : family ∈ ordered := by
  cases family with
  | other => exact absurd found Bool.false_ne_true
  | _ => decide

theorem rank_find?_le {families : List TypeFamily} {accepts : TypeFamily → Bool}
    (inOrder : families.Pairwise fun first second => first.rank ≤ second.rank)
    (member : family ∈ families) (accepted : accepts family = true) :
    ((families.find? accepts).getD .other).rank ≤ family.rank := by
  induction families with
  | nil => exact absurd member List.not_mem_nil
  | cons first rest inductionHypothesis =>
      obtain ⟨ahead, restInOrder⟩ := List.pairwise_cons.mp inOrder
      rw [List.find?_cons]
      cases isFirst : accepts first with
      | true =>
          rcases List.mem_cons.mp member with rfl | later
          · exact le_rfl
          · exact ahead family later
      | false =>
          rcases List.mem_cons.mp member with rfl | later
          · exact absurd accepted (by simp [isFirst])
          · exact inductionHypothesis restInOrder later

/-- No family with a word in the text comes before the family of the text. -/
theorem rank_ofLowered_le (found : family.matchesLowered lowered = true) :
    (ofLowered lowered).rank ≤ family.rank :=
  rank_find?_le pairwise_ordered (mem_ordered found) found

theorem ofLowered_cases (lowered : Text) :
    ofLowered lowered = .other ∨ (ofLowered lowered).matchesLowered lowered = true := by
  unfold ofLowered
  cases found : ordered.find? (·.matchesLowered lowered) with
  | none => exact .inl rfl
  | some family => exact .inr (List.find?_some (p := (matchesLowered · lowered)) found)

/-! ## Parts of native types -/

theorem lacksSigma_of_mem_words (family : TypeFamily) : ∀ word ∈ family.words, Text.LacksSigma word := by
  cases family <;> decide

theorem matchesLowered_lower (inside : part <:+: text)
    (found : family.matchesLowered (Text.lower part) = true) :
    family.matchesLowered (Text.lower text) = true := by
  rw [matchesLowered_iff] at found ⊢
  obtain ⟨word, isWord, stands⟩ := found
  have lacks : Text.LacksSigma word := lacksSigma_of_mem_words family word isWord
  exact ⟨word, isWord, Text.isInfix_lower_of_isInfix lacks inside stands⟩

/-- More text never leads to a later family. -/
theorem rank_ofNative_le (inside : part <:+: text) : (ofNative text).rank ≤ (ofNative part).rank := by
  rcases ofLowered_cases (Text.lower part) with none | found
  · rw [ofNative, ofNative, none]
    exact rank_le_other _
  · exact rank_ofLowered_le (matchesLowered_lower inside found)

theorem ascii_of_mem_words (family : TypeFamily) :
    ∀ word ∈ family.words, ∀ c ∈ word, c.toNat < 128 := by
  have table : family.words.all (·.all (·.toNat < 128)) = true := by
    cases family <;> decide
  intro word isWord c member
  exact of_decide_eq_true (List.all_eq_true.mp (List.all_eq_true.mp table word isWord) c member)

/-- A word of a family, in any case of its ASCII letters, leads to this family or to an earlier one. -/
theorem rank_ofNative_le_of_word {word : Text} (front back : Text)
    (isWord : word.map Char.toLower ∈ family.words) :
    (ofNative (front ++ word ++ back)).rank ≤ family.rank := by
  have lowered : Text.lower word = word.map Char.toLower :=
    Text.lower_of_map_toLower (ascii_of_mem_words family _ isWord) rfl
  have found : family.matchesLowered (Text.lower word) = true :=
    matchesLowered_iff.mpr ⟨_, isWord, lowered ▸ List.infix_rfl⟩
  exact rank_ofLowered_le (matchesLowered_lower (List.infix_append front word back) found)

/-! ## Documented types -/

/-- The documented types in the order of the families, the one without a family last. -/
def documentedTypes : List Text :=
  (ordered ++ [other]).map label

/-- The number of a documented type in this order. -/
def number (documented : Text) : Nat :=
  documentedTypes.idxOf documented

theorem number_label (family : TypeFamily) : number family.label = family.rank := by
  cases family <;> decide

theorem number_documentedType (native : Text) : number (documentedType native) = (ofNative native).rank :=
  number_label _

end TypeFamily

/-! ## Columns that are read -/

/-- The type in the last row of a name as the database writes it; a missing one is empty. -/
def Delivery.lastNative (rows : List (Text × Option Text)) (name : Text) : Text :=
  ((rows.findRev? (·.1 = name)).bind Prod.snd).getD []

/-- The columns that are read have the lowercase texts of the types in the database. -/
theorem ColumnReader.mem_readFrom_iff {fetch : Dialect → Text → Delivery} {reader : ColumnReader}
    {table name type : Text} :
    (name, type) ∈ (reader.readFrom fetch table).2.2 ↔
      (fetch reader.dialect table).fault = none ∧
        name ∈ (fetch reader.dialect table).rows.map Prod.fst ∧
        type = Text.lower (Delivery.lastNative (fetch reader.dialect table).rows name) := by
  change (name, type) ∈ (settle table (fetch reader.dialect table)).2 ↔ _
  rw [settle, Delivery.columns_eq]
  cases (fetch reader.dialect table).fault with
  | some fault => simp
  | none =>
      simp only [Delivery.merged, List.mem_map, List.mem_eraseDups, Prod.mk.injEq, true_and]
      constructor
      · rintro ⟨_, isName, rfl, rfl⟩
        exact ⟨isName, rfl⟩
      · rintro ⟨isName, rfl⟩
        exact ⟨name, isName, rfl, rfl⟩

theorem documentedType_lower (native : Text) :
    documentedType (Text.lower native) = documentedType native := by
  rw [documentedType, documentedType, TypeFamily.ofNative, TypeFamily.ofNative, Text.lower_lower]

/-- More text around a native type never leads to a documented type further back in the order of the
families; one with `int` in it is a whole number. The lowercase text of a type leads to the same
documented type as the type, so columns that are read are documented by the types in the database. -/
theorem documentedType_settled :
    (∀ part whole : Text, part <:+: whole →
      TypeFamily.number (documentedType whole) ≤ TypeFamily.number (documentedType part)) ∧
    (∀ front word back : Text, word.map Char.toLower = "int".toList →
      documentedType (front ++ word ++ back) = "int".toList) ∧
    (∀ native : Text, documentedType (Text.lower native) = documentedType native) ∧
    ∀ (fetch : Dialect → Text → Delivery) (reader : ColumnReader) (table name type : Text),
      (name, type) ∈ (reader.readFrom fetch table).2.2 →
        (Column.ofNative name type).documented =
          documentedType (Delivery.lastNative (fetch reader.dialect table).rows name) := by
  refine ⟨?_, ?_, documentedType_lower, ?_⟩
  · intro part whole inside
    rw [TypeFamily.number_documentedType, TypeFamily.number_documentedType]
    exact TypeFamily.rank_ofNative_le inside
  · intro front word back isInt
    have isWord : word.map Char.toLower ∈ TypeFamily.whole.words := by
      rw [isInt]
      exact List.mem_singleton.mpr rfl
    have first := TypeFamily.rank_ofNative_le_of_word front back isWord
    rw [documentedType, TypeFamily.eq_whole_of_rank_le first]
    rfl
  · intro fetch reader table name type member
    rw [(ColumnReader.mem_readFrom_iff.mp member).2.2]
    exact documentedType_lower _

/-- Two rows of one column; the type in the second one has a dotted capital I and a capital sigma. -/
def deliverTotals (_ : Dialect) (_ : Text) : Delivery :=
  .ofRows [("total".toList, some "DATE".toList), ("total".toList, some "DOUBLE PRECİSİON Σ".toList)]

theorem documentedType_settled_totals :
    "DATE".toList <:+: "ΑΣ UPDATE İNT".toList ∧
      TypeFamily.number (documentedType "ΑΣ UPDATE İNT".toList) ≤
        TypeFamily.number (documentedType "DATE".toList) ∧
      "iNT".toList.map Char.toLower = "int".toList ∧
      documentedType ("Σ".toList ++ "iNT".toList ++ "ΣΑ".toList) = "int".toList ∧
      ("total".toList, Text.lower "DOUBLE PRECİSİON Σ".toList) ∈
        ((ColumnReader.mk .generic "firebird" false).readFrom deliverTotals "orders".toList).2.2 ∧
      (Column.ofNative "total".toList (Text.lower "DOUBLE PRECİSİON Σ".toList)).documented =
        documentedType "DOUBLE PRECİSİON Σ".toList := by
  obtain ⟨narrows, holdsInt, -, reads⟩ := documentedType_settled
  have inside : "DATE".toList <:+: "ΑΣ UPDATE İNT".toList := by decide
  have isInt : "iNT".toList.map Char.toLower = "int".toList := by decide
  have isLast : Delivery.lastNative (deliverTotals .generic "orders".toList).rows "total".toList =
      "DOUBLE PRECİSİON Σ".toList := by decide
  have isRead : ("total".toList, Text.lower "DOUBLE PRECİSİON Σ".toList) ∈
      ((ColumnReader.mk .generic "firebird" false).readFrom deliverTotals "orders".toList).2.2 :=
    ColumnReader.mem_readFrom_iff.mpr ⟨rfl, by decide, congrArg Text.lower isLast.symm⟩
  have documented := reads _ _ _ _ _ isRead
  rw [isLast] at documented
  exact ⟨inside, narrows _ _ inside, isInt, holdsInt _ _ _ isInt, isRead, documented⟩

end SchemaDoc
