import Mathlib.Data.List.Induction
import SchemaDoc.Log.State
import SchemaDoc.Proofs.Value

/-!
Contract: what the library's own handler of the log is set up for.

A request to set the log up is a repetition, is refused, or installs the only handler of the library
(`requested_configure`). A refused one takes that handler away and leaves the record of what is set up as
it was. So along a run the handler serves the record until a request is refused, and a repetition then
returns without a handler (`setup_matches_record_iff`). Handlers of others stay in any case.
-/

namespace SchemaDoc.Log

/-! ## Handlers and configurations -/

/-- The threshold is the number of the level, or of a value that equals the level. -/
def IsThreshold (level : Value) (threshold : Nat) : Prop :=
  ∃ equal severity, level.same equal = true ∧ Severity.ofValue equal = .ok severity ∧
    severity.number = threshold

/-- The handler has the level, the layout and the times that the configuration asks for. -/
structure Handler.Serves (handler : Handler) (configuration : Configuration) : Prop where
  threshold : IsThreshold configuration.level handler.threshold
  layout : handler.layout = .ofFormat configuration.format
  isTimed : handler.isTimed = !configuration.includeTimestamp.isEmpty

/-- The handler as a request of this configuration installs it. -/
structure Handler.Answers (handler : Handler) (configuration : Configuration) : Prop where
  threshold : ∃ severity, Severity.ofValue configuration.level = .ok severity ∧
    severity.number = handler.threshold
  layout : handler.layout = .ofFormat configuration.format
  isTimed : handler.isTimed = !configuration.includeTimestamp.isEmpty

/-- A value that names a weight equals itself. -/
theorem same_self_of_ofValue {level : Value} {severity : Severity}
    (names : Severity.ofValue level = .ok severity) : level.same level = true := by
  cases level with
  | str name => exact Value.same_str_iff.mpr rfl
  | int number => simp [Value.same, Value.sameKey]
  | bool truth => cases truth <;> decide +kernel
  | _ => exact absurd names (by simp [Severity.ofValue])

theorem Layout.ofFormat_of_same {left right : Value} (equal : left.same right = true) :
    Layout.ofFormat left = Layout.ofFormat right := by
  cases left with
  | str format => rw [Value.same_str_iff.mp equal]
  | _ =>
      cases right with
      | str format => exact absurd equal (by simp [Value.same, Value.sameKey, Value.number?])
      | _ => rfl

theorem Handler.Answers.serves {handler : Handler} {configuration : Configuration}
    (answers : handler.Answers configuration) : handler.Serves configuration := by
  obtain ⟨⟨severity, names, number⟩, layout, isTimed⟩ := answers
  exact ⟨⟨_, severity, same_self_of_ofValue names, names, number⟩, layout, isTimed⟩

/-- A handler for one configuration serves every other that asks for the same. -/
theorem Handler.Answers.serves_of_same {handler : Handler} {configuration current : Configuration}
    (answers : handler.Answers current) (equal : configuration.same current = true) :
    handler.Serves configuration := by
  obtain ⟨⟨severity, names, number⟩, layout, isTimed⟩ := answers
  simp only [Configuration.same, Bool.and_eq_true] at equal
  obtain ⟨⟨⟨sameLevel, sameFormat⟩, -⟩, sameTimestamp⟩ := equal
  refine ⟨⟨_, severity, sameLevel, names, number⟩, ?_, ?_⟩
  · rw [layout, Layout.ofFormat_of_same sameFormat]
  · rw [isTimed, Value.isEmpty_of_same sameTimestamp]

/-! ## One request -/

namespace State

/-- The handlers of this library that are installed. -/
def ownHandlers (state : State) : List Handler :=
  state.handlers.filter fun handler => state.own.contains handler.id

/-- The handlers of others that are installed. -/
def others (state : State) : List Handler :=
  state.handlers.filter fun handler => !state.own.contains handler.id

/-- The request asks for what is recorded as current, and may be left alone. -/
def Repeats (state : State) (configuration : Configuration) (force : Bool) : Prop :=
  force = false ∧ state.isCurrent configuration = true

theorem Repeats.recorded {state : State} {configuration : Configuration} {force : Bool}
    (repeats : state.Repeats configuration force) :
    ∃ current, state.status = .configured current ∧ configuration.same current = true := by
  obtain ⟨-, isSame⟩ := repeats
  unfold isCurrent at isSame
  split at isSame
  · next current status => exact ⟨current, status, isSame⟩
  · exact absurd isSame (by simp)

/-- What a request to set the log up can lead to. -/
inductive Requested (state : State) (configuration : Configuration) (force : Bool) :
    State × Except Fault Unit → Prop
  | repeated (repeats : state.Repeats configuration force) :
      Requested state configuration force (state, .ok ())
  | refused {fault : Fault} (isNew : ¬ state.Repeats configuration force)
      (isRefused : Severity.ofValue configuration.level = .error fault) :
      Requested state configuration force
        ({ state.removeOwn with nextId := state.nextId + 1 }, .error fault)
  | installed {severity : Severity} (isNew : ¬ state.Repeats configuration force)
      (names : Severity.ofValue configuration.level = .ok severity) :
      Requested state configuration force
        (state.removeOwn.install configuration severity.number, .ok ())

theorem requested_configure (state : State) (configuration : Configuration) (force : Bool) :
    Requested state configuration force (state.configure configuration force) := by
  unfold configure
  split
  · next repeats =>
      obtain ⟨unforced, isCurrent⟩ := Bool.and_eq_true_iff.mp repeats
      exact .repeated ⟨by simpa using unforced, isCurrent⟩
  · next isNew =>
      have notRepeated : ¬ state.Repeats configuration force := by
        rintro ⟨unforced, isCurrent⟩
        exact isNew (by rw [unforced, isCurrent]; rfl)
      dsimp only
      cases isRead : Severity.ofValue configuration.level with
      | error fault => exact .refused notRepeated isRead
      | ok severity => exact .installed notRepeated isRead

/-- No number is given out twice, and the library has no handler, or the one that answers the
configuration on record. -/
structure Sound (state : State) : Prop where
  numbered : ∀ handler ∈ state.handlers, handler.id < state.nextId
  own : state.own = [] ∨ ∃ current handler, state.status = .configured current ∧
    state.own = [handler.id] ∧ state.ownHandlers = [handler] ∧ handler.Answers current

theorem ownHandlers_of_own {state : State} (noOwn : state.own = []) : state.ownHandlers = [] := by
  simp [ownHandlers, noOwn]

theorem others_of_own {state : State} (noOwn : state.own = []) : state.others = state.handlers := by
  simp [others, noOwn]

theorem Sound.nextId_not_mem {state : State} (sound : state.Sound) : state.nextId ∉ state.own := by
  rcases sound.own with noOwn | ⟨current, handler, -, own, isOwn, -⟩
  · simp [noOwn]
  · have member : handler ∈ state.ownHandlers := by simp [isOwn]
    have known := sound.numbered handler (List.mem_filter.mp member).1
    simp only [own, List.mem_singleton]
    omega

/-! ### Installing -/

section Install

variable {state : State} (sound : state.Sound) (configuration : Configuration) (threshold : Nat)

include sound

/-- What is kept was numbered before the new handler. -/
theorem Sound.id_ne_nextId {handler : Handler} (kept : handler ∈ state.others) :
    handler.id ≠ state.nextId :=
  Nat.ne_of_lt (sound.numbered handler (List.mem_filter.mp kept).1)

theorem others_install : (state.removeOwn.install configuration threshold).others = state.others := by
  unfold others install
  rw [List.filter_append, List.filter_eq_self.mpr, List.filter_eq_nil_iff.mpr, List.append_nil]
  · rfl
  · simp [removeOwn]
  · intro handler kept
    simpa [removeOwn] using sound.id_ne_nextId kept

theorem ownHandlers_install :
    ∃ handler, (state.removeOwn.install configuration threshold).ownHandlers = [handler] ∧
      handler.id = state.nextId ∧ handler.threshold = threshold ∧
      handler.layout = .ofFormat configuration.format ∧
      handler.isTimed = !configuration.includeTimestamp.isEmpty := by
  refine ⟨⟨state.nextId, threshold, .ofFormat configuration.format,
    !configuration.includeTimestamp.isEmpty, none⟩, ?_, rfl, rfl, rfl, rfl⟩
  unfold ownHandlers install
  rw [List.filter_append, List.filter_eq_nil_iff.mpr, List.filter_eq_self.mpr, List.nil_append]
  · rfl
  · simp [removeOwn]
  · intro handler kept
    simpa [removeOwn] using sound.id_ne_nextId kept

end Install

/-! ### Requests -/

section Request

variable {state : State} (sound : state.Sound) (configuration : Configuration) (force : Bool)

include sound

theorem others_configure : (state.configure configuration force).1.others = state.others := by
  have outcome := requested_configure state configuration force
  generalize state.configure configuration force = result at outcome
  cases outcome with
  | repeated => rfl
  | refused => exact others_of_own rfl
  | installed => exact others_install sound _ _

theorem sound_configure : (state.configure configuration force).1.Sound := by
  have outcome := requested_configure state configuration force
  generalize state.configure configuration force = result at outcome
  cases outcome with
  | repeated => exact sound
  | refused =>
      refine ⟨fun handler kept => ?_, .inl rfl⟩
      exact Nat.lt_succ_of_lt (sound.numbered handler (List.mem_filter.mp kept).1)
  | @installed severity _ names =>
      obtain ⟨handler, isOwn, id, threshold, layout, isTimed⟩ :=
        ownHandlers_install sound configuration severity.number
      constructor
      · intro other member
        rcases List.mem_append.mp member with kept | isNew
        · exact Nat.lt_succ_of_lt (sound.numbered other (List.mem_filter.mp kept).1)
        · rw [List.mem_singleton.mp isNew]
          exact Nat.lt_succ_self _
      · right
        refine ⟨configuration, handler, rfl, ?_, isOwn, ⟨severity, names, threshold.symm⟩, layout,
          isTimed⟩
        rw [id]
        rfl

/-- A request that returns leaves a handler for it, unless it repeats a record that has none. -/
theorem serves_configure_iff (returns : (state.configure configuration force).2 = .ok ()) :
    (∃ handler ∈ (state.configure configuration force).1.ownHandlers, handler.Serves configuration) ↔
      ¬ (state.Repeats configuration force ∧ state.own = []) := by
  have outcome := requested_configure state configuration force
  generalize state.configure configuration force = result at outcome returns
  cases outcome with
  | repeated repeats =>
      simp only [repeats, true_and]
      rcases sound.own with noOwn | ⟨current, handler, status, own, isOwn, answers⟩
      · simp [noOwn, ownHandlers_of_own]
      · obtain ⟨recorded, isRecorded, equal⟩ := repeats.recorded
        obtain rfl := Status.configured.inj (status.symm.trans isRecorded)
        simp [isOwn, own, answers.serves_of_same equal]
  | refused => exact absurd returns (by simp)
  | @installed severity isNew names =>
      obtain ⟨handler, isOwn, -, threshold, layout, isTimed⟩ :=
        ownHandlers_install sound configuration severity.number
      have answers : handler.Answers configuration :=
        ⟨⟨severity, names, threshold.symm⟩, layout, isTimed⟩
      simp [isNew, isOwn, answers.serves]

end Request

end State

/-! ## Runs -/

/-- What happens to the log while the program runs. -/
inductive Event where
  | requested (configuration : Configuration) (force : Bool)
  /-- Somebody else installs a handler; the log numbers it. -/
  | added (handler : Handler)

namespace State

/-- The log with a handler of somebody else. -/
def add (state : State) (handler : Handler) : State :=
  { state with
    handlers := state.handlers ++ [{ handler with id := state.nextId }]
    nextId := state.nextId + 1 }

def after (state : State) : Event → State
  | .requested configuration force => (state.configure configuration force).1
  | .added handler => state.add handler

def afterAll (state : State) (events : List Event) : State :=
  events.foldl after state

theorem afterAll_append (state : State) (before later : List Event) :
    state.afterAll (before ++ later) = (state.afterAll before).afterAll later :=
  List.foldl_append

/-- Nothing is set up yet; all handlers are those of others. -/
structure IsUnconfigured (state : State) : Prop where
  status : state.status = .unconfigured
  own : state.own = []
  numbered : ∀ handler ∈ state.handlers, handler.id < state.nextId

/-- A request was refused, and what came later are handlers of others and repetitions of the record. -/
inductive Broken (start : State) : List Event → Prop
  | refused {events : List Event} {configuration : Configuration} {force : Bool} {fault : Fault}
      (refuses : ((start.afterAll events).configure configuration force).2 = .error fault) :
      Broken start (events ++ [.requested configuration force])
  | repeated {events : List Event} {configuration : Configuration} {force : Bool}
      (broken : Broken start events)
      (repeats : (start.afterAll events).Repeats configuration force) :
      Broken start (events ++ [.requested configuration force])
  | added {events : List Event} {handler : Handler} (broken : Broken start events) :
      Broken start (events ++ [.added handler])

section Add

variable {state : State} (sound : state.Sound) (handler : Handler)

include sound

theorem others_add :
    (state.add handler).others = state.others ++ [{ handler with id := state.nextId }] := by
  unfold others add
  rw [List.filter_append]
  simp [sound.nextId_not_mem]

theorem ownHandlers_add : (state.add handler).ownHandlers = state.ownHandlers := by
  unfold ownHandlers add
  rw [List.filter_append]
  simp [sound.nextId_not_mem]

theorem sound_add : (state.add handler).Sound := by
  constructor
  · intro other member
    rcases List.mem_append.mp member with old | isNew
    · exact Nat.lt_succ_of_lt (sound.numbered other old)
    · rw [List.mem_singleton.mp isNew]
      exact Nat.lt_succ_self _
  · rw [ownHandlers_add sound]
    exact sound.own

end Add

theorem IsUnconfigured.sound_afterAll {start : State} (unconfigured : start.IsUnconfigured)
    (events : List Event) : (start.afterAll events).Sound := by
  induction events using List.reverseRecOn with
  | nil => exact ⟨unconfigured.numbered, .inl unconfigured.own⟩
  | append_singleton before event inductionHypothesis =>
      rw [afterAll_append]
      cases event with
      | requested configuration force => exact sound_configure inductionHypothesis configuration force
      | added handler => exact sound_add inductionHypothesis handler

/-! ### Refused requests -/

section Broken

variable {start : State} {events : List Event}

theorem Broken.of_requested {configuration : Configuration} {force : Bool}
    (broken : Broken start (events ++ [.requested configuration force])) :
    (∃ fault, ((start.afterAll events).configure configuration force).2 = .error fault) ∨
      Broken start events ∧ (start.afterAll events).Repeats configuration force := by
  generalize split : events ++ [Event.requested configuration force] = all at broken
  cases broken with
  | refused refuses =>
      obtain ⟨rfl, last⟩ := List.append_inj' split rfl
      cases last
      exact .inl ⟨_, refuses⟩
  | repeated broken repeats =>
      obtain ⟨rfl, last⟩ := List.append_inj' split rfl
      cases last
      exact .inr ⟨broken, repeats⟩
  | added broken =>
      obtain ⟨rfl, last⟩ := List.append_inj' split rfl
      cases last

theorem Broken.of_added {handler : Handler}
    (broken : Broken start (events ++ [.added handler])) : Broken start events := by
  generalize split : events ++ [Event.added handler] = all at broken
  cases broken with
  | added broken =>
      obtain ⟨rfl, last⟩ := List.append_inj' split rfl
      exact broken
  | _ =>
      obtain ⟨rfl, last⟩ := List.append_inj' split rfl
      cases last

/-- The library is without a handler exactly when nothing is on record or the run is broken. -/
theorem own_afterAll_eq_nil_iff (unconfigured : start.IsUnconfigured) (events : List Event) :
    (start.afterAll events).own = [] ↔
      (start.afterAll events).status = .unconfigured ∨ Broken start events := by
  induction events using List.reverseRecOn with
  | nil => exact iff_of_true unconfigured.own (.inl unconfigured.status)
  | append_singleton before event inductionHypothesis =>
      rw [afterAll_append]
      cases event with
      | added handler =>
          refine inductionHypothesis.trans (or_congr_right ⟨.added, .of_added⟩)
      | requested configuration force =>
          have outcome := requested_configure (start.afterAll before) configuration force
          show ((start.afterAll before).configure configuration force).1.own = [] ↔
            ((start.afterAll before).configure configuration force).1.status = .unconfigured ∨ _
          have inversion := @Broken.of_requested start before configuration force
          have refused := @Broken.refused start before configuration force
          have repeated := @Broken.repeated start before configuration force
          generalize (start.afterAll before).configure configuration force = result at *
          cases outcome with
          | repeated repeats =>
              refine inductionHypothesis.trans
                (or_congr_right ⟨fun broken => repeated broken repeats, ?_⟩)
              intro broken
              rcases inversion broken with ⟨fault, refuses⟩ | ⟨stillBroken, -⟩
              · exact absurd refuses (by simp)
              · exact stillBroken
          | refused => exact iff_of_true rfl (.inr (refused rfl))
          | installed isNew =>
              refine iff_of_false (by simp [install]) ?_
              rintro (isUnconfigured | broken)
              · exact absurd isUnconfigured (by simp [install])
              · rcases inversion broken with ⟨fault, refuses⟩ | ⟨-, repeats⟩
                · exact absurd refuses (by simp)
                · exact isNew repeats

end Broken

/-- Nothing but somebody else adds to the handlers of others, and nothing takes from them. -/
theorem IsUnconfigured.others_prefix {start : State} (unconfigured : start.IsUnconfigured)
    (before later : List Event) :
    (start.afterAll before).others <+: (start.afterAll (before ++ later)).others := by
  induction later using List.reverseRecOn with
  | nil => exact (List.append_nil before).symm ▸ List.prefix_rfl
  | append_singleton between event inductionHypothesis =>
      have sound := unconfigured.sound_afterAll (before ++ between)
      rw [← List.append_assoc, afterAll_append]
      refine inductionHypothesis.trans ?_
      cases event with
      | requested configuration force =>
          exact (others_configure sound configuration force).symm ▸ List.prefix_rfl
      | added handler => exact (others_add sound handler).symm ▸ List.prefix_append _ _

/-- The configuration on record is served unless the library is without a handler. -/
theorem Sound.serves_iff {state : State} (sound : state.Sound) {current : Configuration}
    (recorded : state.status = .configured current) :
    (∃ handler, state.ownHandlers = [handler] ∧ handler.Serves current) ↔ state.own ≠ [] := by
  constructor
  · rintro ⟨handler, isOwn, -⟩ noOwn
    exact absurd isOwn (by simp [ownHandlers_of_own noOwn])
  · intro hasOwn
    obtain ⟨other, handler, isRecorded, -, isOwn, answers⟩ := sound.own.resolve_left hasOwn
    obtain rfl := Status.configured.inj (recorded.symm.trans isRecorded)
    exact ⟨handler, isOwn, answers.serves⟩

/-- Along every run the only handler of the library has the level and the format on record as long as
no request was refused since, and a request that returns leaves a handler for it, unless it repeats a
record that has lost its own. Handlers of others are never removed. -/
theorem setup_matches_record_iff {start : State} (unconfigured : start.IsUnconfigured)
    (events : List Event) :
    let state := start.afterAll events
    (∀ before later, events = before ++ later → (start.afterAll before).others <+: state.others) ∧
      (∀ current, state.status = .configured current →
        ((∃ handler, state.ownHandlers = [handler] ∧ handler.Serves current) ↔
          ¬ Broken start events)) ∧
      ∀ configuration force, (state.configure configuration force).2 = .ok () →
        ((∃ handler ∈ (state.configure configuration force).1.ownHandlers,
            handler.Serves configuration) ↔
          ¬ (Broken start events ∧ state.Repeats configuration force)) := by
  intro state
  have sound : state.Sound := unconfigured.sound_afterAll events
  have lost (current : Configuration) (recorded : state.status = .configured current) :
      state.own = [] ↔ Broken start events := by
    rw [own_afterAll_eq_nil_iff unconfigured events, recorded]
    simp
  refine ⟨?_, ?_, ?_⟩
  · rintro before later rfl
    exact unconfigured.others_prefix before later
  · intro current recorded
    exact (sound.serves_iff recorded).trans (not_congr (lost current recorded))
  · intro configuration force returns
    rw [serves_configure_iff sound configuration force returns, not_congr]
    constructor
    · rintro ⟨repeats, noOwn⟩
      obtain ⟨current, recorded, -⟩ := repeats.recorded
      exact ⟨(lost current recorded).mp noOwn, repeats⟩
    · rintro ⟨broken, repeats⟩
      obtain ⟨current, recorded, -⟩ := repeats.recorded
      exact ⟨repeats, (lost current recorded).mpr broken⟩

/-! ## Examples -/

/-- A log with a handler of somebody else. -/
def sharedLog : State :=
  { start with handlers := [⟨0, 10, .plain, true, none⟩], nextId := 1 }

def console : Configuration :=
  { Configuration.standard with format := .str "console" }

/-- A configuration whose level has a name that no level has. -/
def loud : Configuration :=
  { console with level := .str "LOUD" }

/-- A handler of somebody else that is installed between two requests. -/
def watcher : Handler :=
  ⟨0, 30, .json, false, none⟩

theorem setup_matches_record_sample :
    sharedLog.IsUnconfigured ∧
      let state := sharedLog.afterAll [.requested console false, .added watcher]
      sharedLog.others <+: state.others ∧ state.status = .configured console ∧
        (∃ handler, state.ownHandlers = [handler] ∧ handler.Serves console) ∧
        ∃ handler ∈ (state.configure console false).1.ownHandlers, handler.Serves console := by
  have unconfigured : sharedLog.IsUnconfigured := ⟨rfl, rfl, by decide⟩
  have intact : ¬ Broken sharedLog [.requested console false, .added watcher] := by
    intro broken
    have stillBroken := @Broken.of_added sharedLog [.requested console false] watcher broken
    have returns : ((sharedLog.afterAll []).configure console false).2 = .ok () := rfl
    rcases @Broken.of_requested sharedLog [] console false stillBroken with
      ⟨fault, refuses⟩ | ⟨-, repeats⟩
    · exact absurd (returns.symm.trans refuses) (by simp)
    · exact absurd repeats.2 (by decide)
  obtain ⟨kept, serves, returns⟩ := setup_matches_record_iff unconfigured
    [.requested console false, .added watcher]
  refine ⟨unconfigured, kept [] _ rfl, rfl, (serves console rfl).mpr intact, ?_⟩
  exact (returns console false rfl).mpr fun ⟨broken, _⟩ => intact broken

/-- A request that is refused takes the handler of the record away, and the repetition of the record
returns without one. -/
theorem repeated_after_refused_unserved :
    let state := start.afterAll [.requested console false, .requested loud false]
    ¬ (∀ current, state.status = .configured current →
        ∃ handler, state.ownHandlers = [handler] ∧ handler.Serves current) ∧
      ¬ ((state.configure console false).2 = .ok () →
        ∃ handler ∈ (state.configure console false).1.ownHandlers, handler.Serves console) := by
  intro state
  have noHandlers : state.ownHandlers = [] := rfl
  constructor
  · intro matching
    obtain ⟨handler, isOwn, -⟩ := matching console rfl
    exact absurd isOwn (by simp [noHandlers])
  · intro leaves
    obtain ⟨handler, isOwn, -⟩ := leaves rfl
    exact absurd isOwn (by simp [show (state.configure console false).1.ownHandlers = [] from rfl])

end State

end SchemaDoc.Log
