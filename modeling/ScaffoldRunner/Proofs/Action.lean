/-!
# Results of actions

An action that changes a state ends in a state and has an answer or an error.
-/

namespace ScaffoldRunner

variable {σ α ε : Type}

/-- The state that an action ends in. -/
def stateOf : EStateM.Result ε σ α → σ
  | .ok _ s => s
  | .error _ s => s

/-- The answer of an action, or its error. -/
def answerOf : EStateM.Result ε σ α → Except ε α
  | .ok a _ => .ok a
  | .error e _ => .error e

/-- An action that ended with an answer in a state. -/
def ended : Except ε α → σ → EStateM.Result ε σ α
  | .ok a, s => .ok a s
  | .error e, s => .error e s

@[simp] theorem stateOf_ended (answer : Except ε α) (s : σ) :
    stateOf (ended answer s) = s := by
  cases answer <;> rfl

@[simp] theorem answerOf_ended (answer : Except ε α) (s : σ) :
    answerOf (ended answer s) = answer := by
  cases answer <;> rfl

theorem ended_eq_ok {answer : Except ε α} {a : α} {s later : σ} :
    ended answer s = .ok a later ↔ answer = .ok a ∧ s = later := by
  cases answer <;> simp [ended]

theorem ended_eq_error {answer : Except ε α} {e : ε} {s later : σ} :
    ended answer s = .error e later ↔ answer = .error e ∧ s = later := by
  cases answer <;> simp [ended]

section IsOk

variable {result : EStateM.Result ε σ α}

theorem eq_ok_of_isOk (h : (answerOf result).isOk = true) :
    ∃ a, result = .ok a (stateOf result) := by
  cases result with
  | ok a s => exact ⟨a, rfl⟩
  | error e s => simp [answerOf, Except.isOk, Except.toBool] at h

theorem eq_error_of_isOk (h : (answerOf result).isOk = false) :
    ∃ e, result = .error e (stateOf result) := by
  cases result with
  | ok a s => simp [answerOf, Except.isOk, Except.toBool] at h
  | error e s => exact ⟨e, rfl⟩

end IsOk

/-! ## Actions one after another -/

section Bind

variable {β : Type} {action : EStateM ε σ α} {s t u : σ}

theorem bind_of_ok {a : α} (h : action s = .ok a t) (f : α → EStateM ε σ β) :
    (action >>= f) s = f a t := by
  change EStateM.bind action f s = _
  rw [EStateM.bind, h]

theorem bind_of_error {e : ε} (h : action s = .error e t) (f : α → EStateM ε σ β) :
    (action >>= f) s = .error e t := by
  change EStateM.bind action f s = _
  rw [EStateM.bind, h]

theorem exists_of_bind_eq_ok {f : α → EStateM ε σ β} {b : β} (h : (action >>= f) s = .ok b u) :
    ∃ a t, action s = .ok a t ∧ f a t = .ok b u := by
  cases haction : action s with
  | ok a t => exact ⟨a, t, rfl, (bind_of_ok haction f).symm.trans h⟩
  | error e t => simp [bind_of_error haction f] at h

theorem exists_of_forM_append_eq_ok {f : α → EStateM ε σ Unit} {items more : List α}
    (h : (items ++ more).forM f s = .ok () u) :
    ∃ t, items.forM f s = .ok () t ∧ more.forM f t = .ok () u := by
  induction items generalizing s with
  | nil => exact ⟨s, rfl, h⟩
  | cons item items ih =>
      obtain ⟨_, t, hitem, hrest⟩ := exists_of_bind_eq_ok h
      obtain ⟨t', hitems, hmore⟩ := ih hrest
      exact ⟨t', (bind_of_ok hitem _).trans hitems, hmore⟩

end Bind

/-! ## Actions that agree

Two actions agree, for a relation of states and one of answers, when from related
states they come to related states, with related answers or with the same error.
What is put together from actions that agree agrees again.
-/

variable {β : Type}

/-- Two results have related answers, or the same error, in related states. -/
inductive ResultsAgree (R : σ → σ → Prop) (Q : α → α → Prop) :
    EStateM.Result ε σ α → EStateM.Result ε σ α → Prop
  | ok {a b : α} {s t : σ} : Q a b → R s t → ResultsAgree R Q (.ok a s) (.ok b t)
  | error (e : ε) {s t : σ} : R s t → ResultsAgree R Q (.error e s) (.error e t)

/-- Two actions have results that agree, wherever they start. -/
def Agree (R : σ → σ → Prop) (Q : α → α → Prop) (x y : EStateM ε σ α) : Prop :=
  ∀ s t, R s t → ResultsAgree R Q (x s) (y t)

variable {R : σ → σ → Prop} {Q : α → α → Prop}

namespace ResultsAgree

variable {r r' : EStateM.Result ε σ α}

theorem states (h : ResultsAgree R Q r r') : R (stateOf r) (stateOf r') := by
  cases h <;> assumption

theorem answers (h : ResultsAgree R Eq r r') : answerOf r = answerOf r' := by
  cases h with
  | ok hanswer => exact congrArg Except.ok hanswer
  | error => rfl

end ResultsAgree

namespace Agree

variable {Q' : β → β → Prop} {x y : EStateM ε σ α} {f g : α → EStateM ε σ β}

theorem pure {a b : α} (h : Q a b) :
    Agree R Q (Pure.pure a : EStateM ε σ α) (Pure.pure b) :=
  fun _ _ hst => .ok h hst

theorem throw (e : ε) :
    Agree R Q (MonadExcept.throw e : EStateM ε σ α) (MonadExcept.throw e) :=
  fun _ _ hst => .error e hst

theorem bind (hx : Agree R Q x y) (hf : ∀ a b, Q a b → Agree R Q' (f a) (g b)) :
    Agree R Q' (x >>= f) (y >>= g) := by
  intro s t hst
  change ResultsAgree R Q' (EStateM.bind x f s) (EStateM.bind y g t)
  rw [EStateM.bind, EStateM.bind]
  have hresults := hx s t hst
  generalize x s = r, y t = r' at hresults
  cases hresults with
  | ok hanswer hstates => exact hf _ _ hanswer _ _ hstates
  | error e hstates => exact .error e hstates

/-- Two actions that go on with the same answer. -/
theorem bind_eq (hx : Agree R Eq x y) (hf : ∀ a, Agree R Q' (f a) (g a)) :
    Agree R Q' (x >>= f) (y >>= g) := by
  refine hx.bind fun a b heq => ?_
  obtain rfl := heq
  exact hf a

/-- Two actions that look at their states first. -/
theorem get_bind {f g : σ → EStateM ε σ α} (h : ∀ s t, R s t → Agree R Q (f s) (g t)) :
    Agree R Q (get >>= f) (get >>= g) :=
  fun s t hst => h s t hst s t hst

theorem modify {change change' : σ → σ} (h : ∀ s t, R s t → R (change s) (change' t)) :
    Agree R Eq (modify change : EStateM ε σ Unit) (modify change') :=
  fun s t hst => .ok rfl (h s t hst)

/-- Actions on the items of a list, one after another. -/
theorem mapM {f : α → EStateM ε σ β} {items : List α} (h : ∀ a ∈ items, Agree R Eq (f a) (f a)) :
    Agree R Eq (items.mapM f) (items.mapM f) := by
  induction items with
  | nil => exact .pure rfl
  | cons a items ih =>
      rw [List.forall_mem_cons] at h
      rw [List.mapM_cons]
      exact h.1.bind_eq fun b => (ih h.2).bind_eq fun bs => .pure rfl

theorem forM {f : α → EStateM ε σ Unit} (h : ∀ a, Agree R Eq (f a) (f a)) (items : List α) :
    Agree R Eq (items.forM f) (items.forM f) := by
  induction items with
  | nil => exact .pure rfl
  | cons a items ih => exact (h a).bind_eq fun _ => ih

end Agree

end ScaffoldRunner
