import EmitBridge.Proofs.Run.Span

/-! Two runs that come to the same and do the same, but for one passage of their events. -/

namespace EmitBridge

namespace Run

variable {α β : Type} {P Q : List Event → Prop} {context : Entries Value}

/-- The same outcome, and the same events before and behind a passage: of one kind here, of another
kind there. -/
structure Differ (P Q : List Event → Prop) (r s : Except Failure α × List Event) : Prop where
  outcome : r.1 = s.1
  events : ∃ before es fs after, P es ∧ Q fs ∧
    r.2 = before ++ es ++ after ∧ s.2 = before ++ fs ++ after

namespace Differ

theorem around {r s : Except Failure α × List Event} (h : Differ P Q r s) (a : Except Failure β)
    (before after : List Event) :
    Differ P Q (a, before ++ r.2 ++ after) (a, before ++ s.2 ++ after) := by
  obtain ⟨front, es, fs, back, hes, hfs, hr, hs⟩ := h.events
  refine ⟨rfl, before ++ front, es, fs, back ++ after, hes, hfs, ?_, ?_⟩
  · rw [hr]
    simp only [List.append_assoc]
  · rw [hs]
    simp only [List.append_assoc]

theorem bind {x y : Run α} (h : Differ P Q (x context) (y context)) (f : α → Run β) :
    Differ P Q ((x >>= f) context) ((y >>= f) context) := by
  cases hx : (x context).1 with
  | ok a =>
    have hy : (y context).1 = .ok a := h.outcome.symm.trans hx
    rw [bind_of_ok hx, bind_of_ok hy]
    exact h.around _ [] _
  | error e =>
    have hy : (y context).1 = .error e := h.outcome.symm.trans hx
    rw [bind_of_error hx, bind_of_error hy]
    have hpadded := h.around (.error e : Except Failure β) [] []
    simpa only [List.nil_append, List.append_nil] using hpadded

theorem after {x : Run α} {a : α} (hx : (x context).1 = .ok a) {f g : α → Run β}
    (h : Differ P Q (f a context) (g a context)) :
    Differ P Q ((x >>= f) context) ((x >>= g) context) := by
  rw [bind_of_ok hx, bind_of_ok hx, h.outcome]
  have hpadded := h.around (g a context).1 (x context).2 []
  simpa only [List.append_nil] using hpadded

theorem mapFailure {x y : Run α} (h : Differ P Q (x context) (y context))
    (f : Failure → Failure) : Differ P Q (x.mapFailure f context) (y.mapFailure f context) := by
  rw [mapFailure_apply, mapFailure_apply, h.outcome]
  exact ⟨rfl, h.events⟩

theorem operation {o : Operation} {x y : Run α}
    (h : Differ P Q (x (o.context context)) (y (o.context context))) :
    Differ P Q (operation o x context) (operation o y context) := by
  have hspan {body : Run α} : Run.operation o body context =
      span ("emit." ++ o.name) o.attributes true true body (o.context context) := rfl
  rw [hspan, hspan]
  cases hx : (x (o.context context)).1 with
  | ok a =>
    have hy : (y (o.context context)).1 = .ok a := h.outcome.symm.trans hx
    rw [span_of_ok o.loggable_attributes _ _ _ hx, span_of_ok o.loggable_attributes _ _ _ hy]
    exact h.around _ (_ :: _) _
  | error e =>
    have hy : (y (o.context context)).1 = .error e := h.outcome.symm.trans hx
    rw [span_of_error o.loggable_attributes _ _ _ hx, span_of_error o.loggable_attributes _ _ _ hy]
    exact h.around _ (_ :: _) _

end Differ

theorem ofExcept_apply (r : Except Failure α) (context : Entries Value) :
    (ofExcept r context).1 = r :=
  (steady_ofExcept r context).1.trans (outcome_ofExcept r)

theorem bind_congr_of_outcome {x : Run α} (hx : x.Steady) {f g : α → Run β}
    (h : ∀ a, x.outcome = .ok a → f a = g a) : (x >>= f) = (x >>= g) := by
  funext context
  cases ha : (x context).1 with
  | ok a =>
    have hout : x.outcome = .ok a := (hx context).1.symm.trans ha
    rw [bind_of_ok ha, bind_of_ok ha, h a hout]
  | error e => rw [bind_of_error ha, bind_of_error ha]

end Run

end EmitBridge
