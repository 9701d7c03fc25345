import Mathlib.Data.List.Forall2
import StyleLift.Run.Trace

/-! # Outcomes of actions

The outcome of an action is what it ends with, apart from the events it leaves behind. Outcomes
compose as results that may fail do, so a question about what comes out never meets the trace.
-/
namespace StyleLift

section Results
variable {ε δ α β : Type}

theorem bind_eq_ok {x : Except ε α} {f : α → Except ε β} {b : β} :
    (x >>= f) = .ok b ↔ ∃ a, x = .ok a ∧ f a = .ok b := by
  cases x with
  | error e => simp [bind, Except.bind]
  | ok a => simp [bind, Except.bind]

theorem bind_eq_error {x : Except ε α} {f : α → Except ε β} {e : ε} :
    (x >>= f) = .error e ↔ x = .error e ∨ ∃ a, x = .ok a ∧ f a = .error e := by
  cases x with
  | error e => simp [bind, Except.bind]
  | ok a => simp [bind, Except.bind]

theorem bind_returns {x : Except ε α} {f : α → Except ε β} :
    (∃ b, (x >>= f) = .ok b) ↔ ∃ a, x = .ok a ∧ ∃ b, f a = .ok b := by
  simp only [bind_eq_ok]
  exact ⟨fun ⟨b,a,ha,hb⟩ => ⟨a,ha,b,hb⟩,fun ⟨a,ha,b,hb⟩ => ⟨b,a,ha,hb⟩⟩

theorem map_eq_ok {x : Except ε α} {f : α → β} {b : β} :
    x.map f = .ok b ↔ ∃ a, x = .ok a ∧ f a = b := by
  cases x <;> simp [Except.map]

theorem map_eq_error {x : Except ε α} {f : α → β} {e : ε} :
    x.map f = .error e ↔ x = .error e := by
  cases x <;> simp [Except.map]

theorem mapError_eq_ok {x : Except ε α} {f : ε → δ} {a : α} :
    x.mapError f = .ok a ↔ x = .ok a := by
  cases x <;> simp [Except.mapError]

/-- A traversal succeeds exactly where it succeeds at every item. -/
theorem mapM_eq_ok {f : α → Except ε β} {items : List α} {found : List β} :
    items.mapM f = .ok found ↔ List.Forall₂ (fun a b => f a = .ok b) items found := by
  induction items generalizing found with
  | nil => cases found <;> simp [pure, Except.pure]
  | cons a rest ih =>
    simp only [List.mapM_cons, bind_eq_ok, ih, List.forall₂_cons_left_iff]
    constructor
    · rintro ⟨b,hb,others,ho,he⟩
      exact ⟨b,others,hb,ho,(Except.ok.inj he).symm⟩
    · rintro ⟨b,others,hb,ho,rfl⟩
      exact ⟨b,hb,others,ho,rfl⟩

theorem mapError_eq_error {x : Except ε α} {f : ε → δ} {d : δ} :
    x.mapError f = .error d ↔ ∃ e, x = .error e ∧ f e = d := by
  cases x <;> simp [Except.mapError]

/-- A traversal fails with the error of an item. -/
theorem mapM_eq_error {f : α → Except ε β} {items : List α} {e : ε}
    (h : items.mapM f = .error e) : ∃ a ∈ items, f a = .error e := by
  induction items with
  | nil => cases h
  | cons a rest ih =>
    rw [List.mapM_cons] at h
    rcases bind_eq_error.mp h with h | ⟨_,-,h⟩
    · exact ⟨a,List.mem_cons_self,h⟩
    rcases bind_eq_error.mp h with h | ⟨_,-,h⟩
    · obtain ⟨b,hb,he⟩ := ih h
      exact ⟨b,List.mem_cons_of_mem _ hb,he⟩
    · cases h

theorem map_returns {x : Except ε α} {f : α → β} :
    (∃ b, x.map f = .ok b) ↔ ∃ a, x = .ok a := by
  cases x <;> simp [Except.map]

/-- A traversal succeeds just if it can be made at each item. -/
theorem mapM_returns {f : α → Except ε β} {items : List α} :
    (∃ found, items.mapM f = .ok found) ↔ ∀ a ∈ items, ∃ b, f a = .ok b := by
  induction items with
  | nil => simp [pure, Except.pure]
  | cons a rest ih =>
    rw [List.forall_mem_cons, ← ih]
    simp only [List.mapM_cons, bind_eq_ok]
    constructor
    · rintro ⟨_,b,hb,others,ho,-⟩
      exact ⟨⟨b,hb⟩,others,ho⟩
    · rintro ⟨⟨b,hb⟩,others,ho⟩
      exact ⟨_,b,hb,others,ho,rfl⟩

/-- A loop succeeds just if every turn does. -/
theorem forM_eq_ok {f : α → Except ε Unit} {items : List α} :
    items.forM f = .ok () ↔ ∀ a ∈ items, f a = .ok () := by
  induction items with
  | nil => simp [List.forM,pure,Except.pure]
  | cons a rest ih =>
    rw [List.forall_mem_cons,← ih]
    exact bind_eq_ok.trans ⟨fun ⟨(),ha,hr⟩ => ⟨ha,hr⟩,fun ⟨ha,hr⟩ => ⟨(),ha,hr⟩⟩

/-- A loop fails at the first turn that does. -/
theorem forM_eq_error {f : α → Except ε Unit} {items : List α} {e : ε} :
    items.forM f = .error e ↔ ∃ before a after, items = before ++ a :: after ∧
      (∀ b ∈ before, f b = .ok ()) ∧ f a = .error e := by
  induction items with
  | nil => simp [List.forM,pure,Except.pure]
  | cons a rest ih =>
    refine bind_eq_error.trans ⟨?_,?_⟩
    · rintro (ha | ⟨_,ha,hr⟩)
      · exact ⟨[],a,rest,rfl,by simp,ha⟩
      · obtain ⟨before,b,after,rfl,hbefore,hb⟩ := ih.mp hr
        exact ⟨a :: before,b,after,rfl,List.forall_mem_cons.mpr ⟨ha,hbefore⟩,hb⟩
    · rintro ⟨before,b,after,hitems,hbefore,hb⟩
      cases before with
      | nil =>
        obtain ⟨rfl,rfl⟩ := List.cons.inj hitems
        exact .inl hb
      | cons first before =>
        obtain ⟨rfl,rfl⟩ := List.cons.inj hitems
        obtain ⟨ha,hbefore⟩ := List.forall_mem_cons.mp hbefore
        exact .inr ⟨(),ha,ih.mpr ⟨before,b,after,rfl,hbefore,hb⟩⟩

end Results

namespace Action
variable {α β : Type}

def outcome (a : Action α) : Except Fault α := a.run.result

@[simp] theorem outcome_pure (x : α) : (pure x : Action α).outcome = .ok x := rfl

@[simp] theorem outcome_throw (f : Fault) : (throw f : Action α).outcome = .error f := rfl

@[simp] theorem outcome_bind (a : Action α) (f : α → Action β) :
    (a >>= f).outcome = a.outcome >>= fun x => (f x).outcome := by
  unfold outcome
  rw [ExceptT.run_bind, Traced.result_bind]
  cases a.run.result <;> rfl

@[simp] theorem outcome_map (f : α → β) (a : Action α) :
    (f <$> a).outcome = a.outcome.map f := by
  change (ExceptT.map f a).run.result = _
  unfold outcome ExceptT.map
  simp only [ExceptT.run_mk, Traced.result_bind]
  cases h : a.run.result <;> simp only [ExceptT.run] at h <;> rw [h] <;> rfl

@[simp] theorem outcome_emit (e : Event) : (emit e).outcome = .ok () := rfl

@[simp] theorem outcome_log (level : Level) (message : Text) :
    (log level message).outcome = .ok () := rfl

@[simp] theorem outcome_ofExcept {ε : Type} (fault : ε → Fault) (x : Except ε α) :
    (ofExcept fault x).outcome = x.mapError fault := by
  cases x <;> rfl

@[simp] theorem outcome_adapt (f : Fault → Fault) (a : Action α) :
    Action.outcome (ExceptT.adapt f a) = a.outcome.mapError f := by
  unfold outcome
  change (Except.mapError f <$> a.run : Traced (Except Fault α)).result = _
  rfl

/-- A handler sees nothing of an action that succeeds. -/
theorem outcome_tryCatch (a : Action α) (handle : Fault → Action α) :
    (tryCatch a handle).outcome = match a.outcome with
      | .ok x => .ok x
      | .error f => (handle f).outcome := by
  unfold outcome
  change (ExceptT.tryCatch a handle).run.result = _
  unfold ExceptT.tryCatch
  simp only [ExceptT.run_mk, Traced.result_bind]
  cases h : a.run.result <;> simp only [ExceptT.run] at h <;> rw [h] <;> rfl

theorem outcome_forM {items : List α} {f : α → Action Unit}
    (h : ∀ x ∈ items, (f x).outcome = .ok ()) : (items.forM f).outcome = .ok () := by
  induction items with
  | nil => rfl
  | cons x rest ih =>
    have hx := h x List.mem_cons_self
    have hr := ih fun y hy => h y (List.mem_cons_of_mem _ hy)
    change (f x >>= fun _ => rest.forM f).outcome = _
    rw [outcome_bind, hx]
    exact hr

/-! ## Events -/

def events (a : Action α) : List Event := a.run.events

@[simp] theorem events_pure (x : α) : (pure x : Action α).events = [] := rfl

@[simp] theorem events_throw (f : Fault) : (throw f : Action α).events = [] := rfl

@[simp] theorem events_emit (e : Event) : (emit e).events = [e] := rfl

@[simp] theorem events_log (level : Level) (message : Text) :
    (log level message).events = [.log level message] := rfl

@[simp] theorem events_ofExcept {ε : Type} (fault : ε → Fault) (x : Except ε α) :
    (ofExcept fault x).events = [] := by
  cases x <;> rfl

/-- What comes after an action adds its events only if the action succeeds. -/
theorem events_bind (a : Action α) (f : α → Action β) :
    (a >>= f).events = a.events ++ match a.outcome with
      | .ok x => (f x).events
      | .error _ => [] := by
  unfold events outcome
  rw [ExceptT.run_bind,Traced.events_bind]
  cases a.run.result <;> rfl

@[simp] theorem events_map (f : α → β) (a : Action α) : (f <$> a).events = a.events := by
  change (ExceptT.map f a).run.events = _
  unfold events ExceptT.map
  simp only [ExceptT.run_mk,Traced.events_bind]
  cases h : a.run.result <;> simp only [ExceptT.run] at h <;> rw [h] <;> exact List.append_nil _

@[simp] theorem events_adapt (f : Fault → Fault) (a : Action α) :
    Action.events (ExceptT.adapt f a) = a.events := by
  unfold events
  change (Except.mapError f <$> a.run : Traced (Except Fault α)).events = _
  exact List.append_nil _

/-- A handler adds its own events to those of an action that fails. -/
theorem events_tryCatch (a : Action α) (handle : Fault → Action α) :
    (tryCatch a handle).events = a.events ++ match a.outcome with
      | .ok _ => []
      | .error f => (handle f).events := by
  unfold events outcome
  change (ExceptT.tryCatch a handle).run.events = _
  unfold ExceptT.tryCatch
  simp only [ExceptT.run_mk, Traced.events_bind]
  cases h : a.run.result <;> simp only [ExceptT.run] at h <;> rw [h] <;> rfl

end Action
end StyleLift
