import Mathlib.Logic.Basic

/-!
Contract: computations that an exception may end, run one part after the other.

A computation on a state keeps what happened before the exception (`run_bind`). One without a state gives a
result when each of its parts does (`bind_eq_ok_iff`, `mapM_isOk_iff`).
-/

namespace SchemaDoc.Computation

variable {ε σ α β : Type}

theorem run_bind (first : ExceptT ε (StateM σ) α) (next : α → ExceptT ε (StateM σ) β) (state : σ) :
    (first >>= next).run state =
      match first.run state with
      | (.ok value, after) => (next value).run after
      | (.error fault, after) => (.error fault, after) := by
  unfold ExceptT.run
  simp only [bind, ExceptT.bind, ExceptT.mk, StateT.bind, ExceptT.bindCont]
  rcases first state with ⟨fault | value, after⟩ <;> rfl

theorem run_tryCatch (body : ExceptT ε (StateM σ) α) (handle : ε → ExceptT ε (StateM σ) α)
    (state : σ) :
    (tryCatch body handle).run state =
      match body.run state with
      | (.ok value, after) => (.ok value, after)
      | (.error fault, after) => (handle fault).run after := by
  unfold ExceptT.run
  simp only [tryCatch, tryCatchThe, MonadExceptOf.tryCatch, ExceptT.tryCatch, ExceptT.mk, bind,
    StateT.bind]
  rcases body state with ⟨fault | value, after⟩ <;> rfl

@[simp]
theorem run_throw (fault : ε) (state : σ) :
    (throw fault : ExceptT ε (StateM σ) α).run state = (.error fault, state) :=
  rfl

@[simp]
theorem run_get (state : σ) : (get : ExceptT ε (StateM σ) σ).run state = (.ok state, state) :=
  rfl

/-! ## Without a state -/

section Plain

variable {f : α → Except ε β} {items : List α} {images : List β}

theorem eq_ok_of_toOption {result : Except ε α} {value : α} (isValue : result.toOption = some value) :
    result = .ok value := by
  cases result with
  | error fault => exact absurd isValue (by simp [Except.toOption])
  | ok other => rw [Option.some.inj isValue]

theorem exists_ok_of_isSome {result : Except ε α} (isSome : result.toOption.isSome = true) :
    ∃ value, result = .ok value := by
  obtain ⟨value, isValue⟩ := Option.isSome_iff_exists.mp isSome
  exact ⟨value, eq_ok_of_toOption isValue⟩

theorem bind_eq_ok_iff {first : Except ε α} {result : β} :
    (first >>= f) = .ok result ↔ ∃ value, first = .ok value ∧ f value = .ok result := by
  cases first with
  | error fault => simp [bind, Except.bind]
  | ok value => simp [bind, Except.bind]

theorem bind_isOk_iff {first : Except ε α} :
    (∃ result, (first >>= f) = .ok result) ↔
      ∃ value, first = .ok value ∧ ∃ result, f value = .ok result := by
  cases first with
  | error fault => simp [bind, Except.bind]
  | ok value => simp [bind, Except.bind]

/-- All parts give results when each of them does. -/
theorem mapM_isOk_iff :
    (∃ images, items.mapM f = .ok images) ↔ ∀ item ∈ items, ∃ image, f item = .ok image := by
  induction items with
  | nil => simp [pure, Except.pure]
  | cons item rest inductionHypothesis =>
      rw [List.forall_mem_cons, ← inductionHypothesis, List.mapM_cons]
      simp only [bind_eq_ok_iff, pure, Except.pure]
      constructor
      · rintro ⟨_, image, isImage, others, isOthers, -⟩
        exact ⟨⟨image, isImage⟩, others, isOthers⟩
      · rintro ⟨⟨image, isImage⟩, others, isOthers⟩
        exact ⟨_, image, isImage, others, isOthers, rfl⟩

theorem exists_of_mem_mapM (runs : items.mapM f = .ok images) {image : β} (member : image ∈ images) :
    ∃ item ∈ items, f item = .ok image := by
  induction items generalizing images with
  | nil =>
      obtain rfl : [] = images := Except.ok.inj runs
      exact absurd member List.not_mem_nil
  | cons item rest inductionHypothesis =>
      rw [List.mapM_cons, bind_eq_ok_iff] at runs
      obtain ⟨first, isFirst, runs⟩ := runs
      obtain ⟨others, isOthers, runs⟩ := bind_eq_ok_iff.mp runs
      obtain rfl : first :: others = images := Except.ok.inj runs
      rcases List.mem_cons.mp member with rfl | later
      · exact ⟨item, List.mem_cons_self, isFirst⟩
      · obtain ⟨origin, isOrigin, gives⟩ := inductionHypothesis isOthers later
        exact ⟨origin, List.mem_cons_of_mem item isOrigin, gives⟩

end Plain

end SchemaDoc.Computation
