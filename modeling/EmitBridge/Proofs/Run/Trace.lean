import EmitBridge.Proofs.Run.Result
import EmitBridge.Proofs.Text.CodePoint
import EmitBridge.Run.Span

/-! What a call does apart from its log. Log fields that are bound around a call change neither its
outcome nor its trace, so both are those of the call on its own. -/

namespace EmitBridge

namespace Event

def isEffect : Event → Bool
  | logged .. => false
  | span _ => false
  | _ => true

end Event

namespace Run

variable {α β : Type}

def effects (events : List Event) : List Event := events.filter Event.isEffect

@[simp] theorem effects_nil : effects [] = [] := rfl

@[simp] theorem effects_append (es fs : List Event) :
    effects (es ++ fs) = effects es ++ effects fs :=
  List.filter_append ..

@[simp] theorem effects_logged (level : Level) (name : String) (fields : Entries Value)
    (es : List Event) : effects (.logged level name fields :: es) = effects es := rfl

@[simp] theorem effects_span (s : SpanRecord) (es : List Event) :
    effects (.span s :: es) = effects es := rfl

def trace (x : Run α) : List Event := effects x.events

/-- Outcome and trace do not depend on the bound log fields. -/
def Steady (x : Run α) : Prop :=
  ∀ context, (x context).1 = x.outcome ∧ effects (x context).2 = x.trace

def Only (Q : Event → Prop) (x : Run α) : Prop :=
  x.Steady ∧ ∀ context, ∀ e ∈ (x context).2, Q e

@[simp] theorem outcome_pure (a : α) : (pure a : Run α).outcome = .ok a := rfl

@[simp] theorem trace_pure (a : α) : (pure a : Run α).trace = [] := rfl

@[simp] theorem outcome_done (a : α) : (done a).outcome = .ok a := rfl

@[simp] theorem trace_done (a : α) : (done a).trace = [] := rfl

@[simp] theorem outcome_fail (e : Failure) : (fail e : Run α).outcome = .error e := rfl

@[simp] theorem trace_fail (e : Failure) : (fail e : Run α).trace = [] := rfl

@[simp] theorem outcome_ofExcept (r : Except Failure α) : (ofExcept r).outcome = r := by
  cases r <;> rfl

@[simp] theorem trace_ofExcept (r : Except Failure α) : (ofExcept r).trace = [] := by
  cases r <;> rfl

@[simp] theorem outcome_record (e : Event) : (record e).outcome = .ok () := rfl

theorem trace_record {e : Event} (h : e.isEffect = true) : (record e).trace = [e] :=
  List.filter_cons_of_pos h

@[simp] theorem outcome_log (level : Level) (name : String) (fields : Entries Value) :
    (log level name fields).outcome = .ok () := rfl

@[simp] theorem trace_log (level : Level) (name : String) (fields : Entries Value) :
    (log level name fields).trace = [] := rfl

theorem bind_of_ok {x : Run α} {f : α → Run β} {context : Entries Value} {a : α}
    (h : (x context).1 = .ok a) :
    (x >>= f) context = ((f a context).1, (x context).2 ++ (f a context).2) := by
  show andThen x f context = _
  unfold andThen
  rcases hx : x context with ⟨r, es⟩
  rw [hx] at h
  subst h
  rfl

theorem bind_of_error {x : Run α} {f : α → Run β} {context : Entries Value} {e : Failure}
    (h : (x context).1 = .error e) : (x >>= f) context = (.error e, (x context).2) := by
  show andThen x f context = _
  unfold andThen
  rcases hx : x context with ⟨r, es⟩
  rw [hx] at h
  subst h
  rfl

theorem outcome_bind (x : Run α) (f : α → Run β) :
    (x >>= f).outcome = x.outcome >>= fun a => (f a).outcome := by
  unfold outcome
  cases h : (x []).1 with
  | ok a => rw [bind_of_ok h]; rfl
  | error e => rw [bind_of_error h]; rfl

theorem outcome_map (f : α → β) (x : Run α) : (f <$> x).outcome = f <$> x.outcome := by
  show (x >>= fun a => pure (f a)).outcome = _
  rw [outcome_bind]
  cases x.outcome <;> rfl

theorem trace_bind (x : Run α) (f : α → Run β) :
    (x >>= f).trace = x.trace ++ match x.outcome with
      | .ok a => (f a).trace
      | .error _ => [] := by
  unfold trace events outcome
  cases h : (x []).1 with
  | ok a => rw [bind_of_ok h, effects_append]
  | error e => rw [bind_of_error h, List.append_nil]

theorem trace_bind_of_ok {x : Run α} {a : α} (h : x.outcome = .ok a) (f : α → Run β) :
    (x >>= f).trace = x.trace ++ (f a).trace := by
  rw [trace_bind, h]

theorem trace_bind_of_error {x : Run α} {e : Failure} (h : x.outcome = .error e)
    (f : α → Run β) : (x >>= f).trace = x.trace := by
  rw [trace_bind, h, List.append_nil]

theorem ofExcept_ok_bind (a : α) (f : α → Run β) : (ofExcept (.ok a) >>= f) = f a := rfl

theorem Steady.bind_of_outcome {x : Run α} {f : α → Run β} (hx : x.Steady)
    (hf : ∀ a, x.outcome = .ok a → (f a).Steady) : (x >>= f).Steady := by
  intro context
  obtain ⟨ho, ht⟩ := hx context
  rw [outcome_bind, trace_bind]
  cases h : x.outcome with
  | ok a =>
    rw [h] at ho
    obtain ⟨hfo, hft⟩ := hf a h context
    rw [bind_of_ok ho, effects_append, ht, hft]
    exact ⟨hfo, rfl⟩
  | error e =>
    rw [h] at ho
    rw [bind_of_error ho, ht, List.append_nil]
    exact ⟨rfl, rfl⟩

theorem steady_ofExcept (r : Except Failure α) : (ofExcept r).Steady := by
  cases r <;> exact fun _ => ⟨rfl, rfl⟩

@[simp] theorem outcome_settled (x : Run α) : x.settled.outcome = .ok x.outcome := rfl

@[simp] theorem trace_settled (x : Run α) : x.settled.trace = x.trace := rfl

theorem mapFailure_apply (f : Failure → Failure) (x : Run α) (context : Entries Value) :
    x.mapFailure f context = ((x context).1.mapError f, (x context).2) := by
  unfold mapFailure rescue
  rcases x context with ⟨_ | _, es⟩
  · exact Prod.ext rfl (List.append_nil es)
  · rfl

@[simp] theorem outcome_mapFailure (f : Failure → Failure) (x : Run α) :
    (x.mapFailure f).outcome = x.outcome.mapError f := by
  rw [outcome, mapFailure_apply, outcome]

@[simp] theorem trace_mapFailure (f : Failure → Failure) (x : Run α) :
    (x.mapFailure f).trace = x.trace := by
  rw [trace, events, mapFailure_apply, trace, events]

theorem Steady.mapFailure {x : Run α} (hx : x.Steady) (f : Failure → Failure) :
    (x.mapFailure f).Steady := by
  intro context
  rw [mapFailure_apply, outcome_mapFailure, trace_mapFailure]
  exact ⟨congrArg (Except.mapError f) (hx context).1, (hx context).2⟩

theorem Steady.settled {x : Run α} (hx : x.Steady) : x.settled.Steady := fun context =>
  ⟨congrArg Except.ok (hx context).1, (hx context).2⟩

theorem steady_done (a : α) : (done a).Steady := fun _ => ⟨rfl, rfl⟩

theorem steady_record (e : Event) : (record e).Steady := fun _ => ⟨rfl, rfl⟩

section only

variable {Q : Event → Prop}

theorem only_pure (a : α) : (pure a : Run α).Only Q := ⟨steady_done a, fun _ => nofun⟩

theorem only_done (a : α) : (done a).Only Q := only_pure a

theorem only_fail (e : Failure) : (fail e : Run α).Only Q :=
  ⟨fun _ => ⟨rfl, rfl⟩, fun _ => nofun⟩

theorem only_ofExcept (r : Except Failure α) : (ofExcept r).Only Q := by
  cases r with
  | ok a => exact only_done a
  | error e => exact only_fail e

theorem only_log {level : Level} {name : String} (h : ∀ fields, Q (.logged level name fields))
    (fields : Entries Value) : (log level name fields).Only Q := by
  refine ⟨fun _ => ⟨rfl, rfl⟩, fun context e he => ?_⟩
  rw [List.mem_singleton.mp he]
  exact h _

theorem only_record {e : Event} (h : Q e) : (record e).Only Q := by
  refine ⟨steady_record e, fun _ f hf => ?_⟩
  rw [List.mem_singleton.mp hf]
  exact h

theorem Only.bind_of_outcome {x : Run α} {f : α → Run β} (hx : x.Only Q)
    (hf : ∀ a, x.outcome = .ok a → (f a).Only Q) : (x >>= f).Only Q := by
  refine ⟨hx.1.bind_of_outcome fun a ha => (hf a ha).1, fun context e he => ?_⟩
  cases h : (x context).1 with
  | ok a =>
    rw [bind_of_ok h] at he
    have ha : x.outcome = .ok a := (hx.1 context).1.symm.trans h
    rcases List.mem_append.mp he with he | he
    · exact hx.2 context e he
    · exact (hf a ha).2 context e he
  | error _ =>
    rw [bind_of_error h] at he
    exact hx.2 context e he

theorem Only.bind {x : Run α} {f : α → Run β} (hx : x.Only Q) (hf : ∀ a, (f a).Only Q) :
    (x >>= f).Only Q := hx.bind_of_outcome fun a _ => hf a

theorem Only.map {x : Run α} (hx : x.Only Q) (f : α → β) : (f <$> x).Only Q :=
  hx.bind fun a => only_pure (f a)

theorem Only.mapFailure {x : Run α} (hx : x.Only Q) (f : Failure → Failure) :
    (x.mapFailure f).Only Q := by
  refine ⟨hx.1.mapFailure f, fun context => ?_⟩
  rw [mapFailure_apply]
  exact hx.2 context

theorem Only.settled {x : Run α} (hx : x.Only Q) : x.settled.Only Q := ⟨hx.1.settled, hx.2⟩

theorem Only.of_mem_trace {x : Run α} (hx : x.Only Q) {e : Event} (he : e ∈ x.trace) :
    e.isEffect = true ∧ Q e := by
  obtain ⟨hm, heffect⟩ := List.mem_filter.mp he
  exact ⟨heffect, hx.2 [] e hm⟩

theorem Only.trace_eq_nil {x : Run α} (hx : x.Only fun e => e.isEffect = false) :
    x.trace = [] := by
  refine List.eq_nil_iff_forall_not_mem.mpr fun e he => ?_
  obtain ⟨htrue, hfalse⟩ := hx.of_mem_trace he
  rw [htrue] at hfalse
  cases hfalse

theorem trace_bind_of_quiet (x : Run α) {f : α → Run β} (h : ∀ a, (f a).trace = []) :
    (x >>= f).trace = x.trace := by
  rw [trace_bind]
  cases x.outcome with
  | ok a => exact (congrArg _ (h a)).trans (List.append_nil _)
  | error _ => exact List.append_nil _

end only

def report (x : Run α) : Except Failure α × List Event := (x.outcome, x.trace)

theorem outcome_of_report {x : Run α} {r : Except Failure α} {es : List Event}
    (h : x.report = (r, es)) : x.outcome = r := congrArg Prod.fst h

theorem trace_of_report {x : Run α} {r : Except Failure α} {es : List Event}
    (h : x.report = (r, es)) : x.trace = es := congrArg Prod.snd h

theorem report_ofExcept (r : Except Failure α) : (ofExcept r).report = (r, []) :=
  Prod.ext (outcome_ofExcept r) (trace_ofExcept r)

theorem report_bind_of_ok {x : Run α} {a : α} {es : List Event} (h : x.report = (.ok a, es))
    (f : α → Run β) : (x >>= f).report = ((f a).outcome, es ++ (f a).trace) := by
  obtain ⟨ho, ht⟩ := Prod.mk.inj h
  rw [report, outcome_bind, trace_bind_of_ok ho, ho, ht]
  rfl

theorem report_bind_of_silent {x : Run α} {a : α} (h : x.report = (.ok a, [])) (f : α → Run β) :
    (x >>= f).report = (f a).report := report_bind_of_ok h f

theorem report_bind_of_error {x : Run α} {e : Failure} {es : List Event}
    (h : x.report = (.error e, es)) (f : α → Run β) : (x >>= f).report = (.error e, es) := by
  obtain ⟨ho, ht⟩ := Prod.mk.inj h
  rw [report, outcome_bind, trace_bind_of_error ho, ho, ht]
  rfl

theorem report_bind_of_quiet (x : Run α) {f : α → Run β} {g : α → Except Failure β}
    (h : ∀ a, (f a).report = (g a, [])) : (x >>= f).report = (x.outcome >>= g, x.trace) := by
  have hf (a : α) : (f a).outcome = g a := congrArg Prod.fst (h a)
  rw [report, outcome_bind, trace_bind_of_quiet x fun a => congrArg Prod.snd (h a), funext hf]

section lookback

variable {x : Run α} {g : α → Run β}

theorem exists_of_outcome_bind {b : β} (h : (x >>= g).outcome = .ok b) :
    ∃ a, x.outcome = .ok a ∧ (g a).outcome = .ok b := by
  rw [outcome_bind] at h
  exact exists_of_bind_eq_ok h

theorem failed_of_outcome_bind {e : Failure} (h : (x >>= g).outcome = .error e) :
    x.outcome = .error e ∨ ∃ a, x.outcome = .ok a ∧ (g a).outcome = .error e := by
  rw [outcome_bind] at h
  exact bind_eq_error_iff.mp h

theorem exists_of_ofExcept_bind {r : Except Failure α} {b : β}
    (h : (ofExcept r >>= g).outcome = .ok b) : ∃ a, r = .ok a ∧ (g a).outcome = .ok b := by
  obtain ⟨a, ha, hb⟩ := exists_of_outcome_bind h
  exact ⟨a, (outcome_ofExcept r).symm.trans ha, hb⟩

end lookback

end Run

end EmitBridge
