import SchemaDoc.Encoding.Cookie
import SchemaDoc.Proofs.Encoding.Lines

/-!
Contract: what decides on the encoding of a file.

Owns:
- that only codecs with sound tables are found (`isFaithful_of_detect`);
- that the first two lines of a file decide (`detect_take`).
-/

namespace SchemaDoc.Encoding

/-! ## Codecs that are found -/

theorem isFaithful_plainCodecs : ∀ known ∈ plainCodecs, known.codec.IsFaithful := by
  simp [plainCodecs, Codec.IsFaithful]

theorem isFaithful_of_codec? {name : Text} {codec : Codec} (found : codec? name = some codec) :
    codec.IsFaithful := by
  obtain ⟨known, isKnown, rfl⟩ := Option.map_eq_some_iff.mp found
  have member := List.mem_of_find?_eq_some isKnown
  rcases List.mem_append.mp member with inPlain | inTables
  · exact isFaithful_plainCodecs known inPlain
  · obtain ⟨table, isTable, rfl⟩ := List.mem_map.mp inTables
    exact isFaithful_byteTables table isTable

theorem isFaithful_undeclared (signed : Bool) : (undeclared signed).codec.IsFaithful := by
  cases signed <;> trivial

theorem isFaithful_of_declaredBy {signed : Bool} {line : Bytes} {declared : Declared}
    (declares : declaredBy signed line = .ok (some declared)) : declared.codec.IsFaithful := by
  unfold declaredBy at declares
  simp only at declares
  split at declares
  · exact absurd declares (by simp)
  · split at declares
    · exact absurd declares (by simp)
    · split at declares
      · exact absurd declares (by simp)
      · next found =>
          split_ifs at declares
          · obtain rfl := Option.some.inj (Except.ok.inj declares)
            trivial
          · obtain rfl := Option.some.inj (Except.ok.inj declares)
            exact isFaithful_of_codec? found

/-- The encoding is declared by a line, or is the one of files without a declaration. -/
theorem declared_of_detect {bytes : Bytes} {declared : Declared}
    (detected : detect bytes = .ok declared) :
    declared = undeclared (signature.isPrefixOf bytes) ∨
      ∃ line, declaredBy (signature.isPrefixOf bytes) line = .ok (some declared) := by
  unfold detect at detected
  simp only [bind, Except.bind, pure, Except.pure] at detected
  generalize signature.isPrefixOf bytes = signed at detected ⊢
  generalize (if signed = true then (firstLine bytes).drop signature.length
    else firstLine bytes) = head at detected
  split at detected
  · exact .inl (Except.ok.inj detected).symm
  · split at detected
    · exact absurd detected (by simp)
    · next first isFirst =>
        cases first with
        | some found => exact .inr ⟨_, isFirst.trans (by rw [Except.ok.inj detected])⟩
        | none =>
            simp only at detected
            split at detected
            · exact .inl (Except.ok.inj detected).symm
            · split at detected
              · exact .inl (Except.ok.inj detected).symm
              · split at detected
                · exact absurd detected (by simp)
                · next second isSecond =>
                    cases second with
                    | some found =>
                        exact .inr ⟨_, isSecond.trans (by rw [Except.ok.inj detected])⟩
                    | none => exact .inl (Except.ok.inj detected).symm

theorem isFaithful_of_detect {bytes : Bytes} {declared : Declared}
    (detected : detect bytes = .ok declared) : declared.codec.IsFaithful := by
  rcases declared_of_detect detected with rfl | ⟨line, declares⟩
  · exact isFaithful_undeclared _
  · exact isFaithful_of_declaredBy declares

/-! ## The lines that are searched -/

theorem firstLine_eq (bytes : Bytes) : firstLine bytes = (byteLines bytes).headD [] := by
  induction bytes with
  | nil => rfl
  | cons byte rest inductionHypothesis =>
      rw [firstLine, byteLines]
      split
      · rfl
      · rw [inductionHypothesis]
        cases byteLines rest <;> rfl

theorem drop_firstLine (bytes : Bytes) :
    bytes.drop (firstLine bytes).length = (byteLines bytes).tail.flatten := by
  have joined := flatten_byteLines bytes
  rw [firstLine_eq]
  revert joined
  cases byteLines bytes with
  | nil =>
      rintro rfl
      rfl
  | cons first others =>
      rintro rfl
      exact List.drop_left

theorem isPrefixOf_firstLine {front : Bytes} (absent : 10 ∉ front) (bytes : Bytes) :
    front.isPrefixOf (firstLine bytes) = front.isPrefixOf bytes := by
  induction front generalizing bytes with
  | nil => simp
  | cons byte front inductionHypothesis =>
      have later := inductionHypothesis fun member => absent (List.mem_cons_of_mem byte member)
      cases bytes with
      | nil => rfl
      | cons first rest =>
          rw [firstLine]
          split
          · next isFeed =>
              have differ : (byte == first) = false :=
                beq_eq_false_iff_ne.mpr fun same => absent (by simp [same, isFeed])
              simp [List.isPrefixOf, differ]
          · simp only [List.isPrefixOf, later]

/-- The first two lines decide. -/
theorem detect_congr {bytes other : Bytes}
    (same : (byteLines bytes).take 2 = (byteLines other).take 2) : detect bytes = detect other := by
  have heads : (byteLines bytes).headD [] = (byteLines other).headD [] ∧
      (byteLines bytes).tail.headD [] = (byteLines other).tail.headD [] := by
    revert same
    rcases byteLines bytes with - | ⟨first, - | ⟨second, others⟩⟩ <;>
      rcases byteLines other with - | ⟨first', - | ⟨second', others'⟩⟩ <;> simp
  have head : firstLine bytes = firstLine other := by
    rw [firstLine_eq, firstLine_eq, heads.1]
  have second : firstLine (bytes.drop (firstLine bytes).length) =
      firstLine (other.drop (firstLine other).length) := by
    rw [drop_firstLine, drop_firstLine, firstLine_eq, firstLine_eq, byteLines_tail, byteLines_tail,
      heads.2]
  have signed : signature.isPrefixOf bytes = signature.isPrefixOf other := by
    rw [← isPrefixOf_firstLine (by decide), head, isPrefixOf_firstLine (by decide)]
  rw [head] at second
  simp only [detect, head, second, signed]

theorem detect_take (bytes : Bytes) :
    detect ((byteLines bytes).take 2).flatten = detect bytes :=
  detect_congr (by rw [byteLines_take, List.take_take, Nat.min_self])

/-! ## Files without a declaration -/

theorem firstLine_append {front : Bytes} (absent : 10 ∉ front) (back : Bytes) :
    firstLine (front ++ back) = front ++ firstLine back := by
  induction front with
  | nil => rfl
  | cons byte front inductionHypothesis =>
      have notFeed : byte ≠ 10 := fun isFeed => absent (by simp [isFeed])
      rw [List.cons_append, firstLine, if_neg notFeed,
        inductionHypothesis fun member => absent (List.mem_cons_of_mem byte member)]
      rfl

theorem declaredBy_eq_none {codec : Codec} (wide : codec.IsWide) {line : Text} {piece : Bytes}
    (stores : codec.Stores line piece) (plain : cookie? line = none) (signed : Bool) :
    declaredBy signed piece = .ok none := by
  have decoded := decodeUtf8_eq_some_iff.mpr (wide.stores_iff.mp stores)
  simp only [declaredBy, decoded, plain]

/-- A text without coding comments in its first two lines declares nothing. -/
theorem detect_undeclared {signed : Bool} {text : Text} {body : Bytes}
    (stores : (undeclared signed).codec.Stores text body)
    (same : signature.isPrefixOf ((undeclared signed).codec.mark ++ body) = signed)
    (plain : ∀ line ∈ (Text.lines text).take 2, cookie? line = none) :
    detect ((undeclared signed).codec.mark ++ body) = .ok (undeclared signed) := by
  have wide : (undeclared signed).codec.IsWide := by
    cases signed <;> trivial
  have head : firstLine ((undeclared signed).codec.mark ++ body) =
      (undeclared signed).codec.mark ++ firstLine body :=
    firstLine_append (by cases signed <;> decide) body
  have first : (if signed = true then
      ((undeclared signed).codec.mark ++ firstLine body).drop signature.length
      else (undeclared signed).codec.mark ++ firstLine body) = firstLine body := by
    cases signed with
    | false => rfl
    | true => exact List.drop_left
  have second : firstLine (((undeclared signed).codec.mark ++ body).drop
      ((undeclared signed).codec.mark ++ firstLine body).length) =
        (byteLines body).tail.headD [] := by
    rw [List.length_append, List.drop_length_add_append, drop_firstLine, firstLine_eq,
      byteLines_tail]
  have lines := stores.lines (isFaithful_undeclared signed)
  simp only [detect, same, head, first, second]
  simp only [firstLine_eq body, bind, Except.bind, pure, Except.pure]
  revert lines plain
  generalize Text.lines text = texts, byteLines body = pieces
  intro plain lines
  cases lines with
  | nil => rfl
  | cons storesFirst lines =>
      rw [List.headD_cons, List.tail_cons,
        declaredBy_eq_none wide storesFirst (plain _ (by simp)) signed]
      cases lines with
      | nil => simp
      | cons storesSecond _ =>
          rw [List.headD_cons, declaredBy_eq_none wide storesSecond (plain _ (by simp)) signed]
          simp

end SchemaDoc.Encoding
