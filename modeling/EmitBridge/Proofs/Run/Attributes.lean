import EmitBridge.Proofs.Run.Span

/-! What the span around a failed call says about the failure. The stage and the specifier of the
failure come to stand under names that the attributes of a call do not have. -/

namespace EmitBridge

namespace FailureOf

def stage? : Failure → Option String
  | emit e => e.stage
  | _ => none

def specifier? : Failure → Option Value
  | emit e => e.specifier?
  | _ => none

theorem get?_attributes_stage (f : Failure) :
    f.attributes.get? (Text.ofString "stage") =
      match f with
      | emit e => some (Value.ofOption Value.string e.stage)
      | _ => none := by
  cases f <;> rfl

theorem get?_attributes_specifier (f : Failure) :
    f.attributes.get? (Text.ofString "specifier") = f.specifier? := by
  cases f with
  | emit e =>
    show List.lookup (Text.ofString "specifier") (e.specifier?.map _).toList = e.specifier?
    cases e.specifier? <;> rfl
  | _ => rfl

theorem specifier?_ne_null (f : Failure) : f.specifier? ≠ some .null := by
  cases f with
  | emit e =>
    show e.specifier? ≠ some .null
    unfold EmitError.specifier?
    split
    · exact nofun
    · next v hnull _ =>
      intro heq
      exact hnull (Option.some.inj heq)
    · exact nofun
  | _ => exact nofun

end FailureOf

namespace SpanRecord

theorem get?_setAttribute_self {name : Text} (hn : name.isEmpty = false) {es : Entries Value}
    (h : es.get? name = none) (v : Value) :
    (setAttribute name v es).get? name = attribute? v := by
  unfold setAttribute
  cases attribute? v with
  | none => exact h
  | some u =>
    rw [hn]
    exact Entries.get?_put_self name u es

theorem get?_setAttribute_of_ne {name other : Text} (h : other ≠ name) (v : Value)
    (es : Entries Value) : (setAttribute name v es).get? other = es.get? other := by
  unfold setAttribute
  split
  · split
    · rfl
    · exact Entries.get?_put_of_ne h _ es
  · rfl

theorem get?_attributesOf_of_not_mem {name : Text} {es : Entries Value}
    (h : ∀ e ∈ es, e.1 ≠ name) : (attributesOf es).get? name = none := by
  have hfold (es done : Entries Value) (h : ∀ e ∈ es, e.1 ≠ name) :
      (es.foldl (fun done e => setAttribute e.1 e.2 done) done).get? name = done.get? name := by
    induction es generalizing done with
    | nil => rfl
    | cons e es ih =>
      rw [List.foldl_cons, ih _ fun f hf => h f (List.mem_cons_of_mem _ hf)]
      exact get?_setAttribute_of_ne (h e List.mem_cons_self).symm _ done
  exact hfold es [] h

def stageKey : Text := Text.ofString "emit.stage"

def specifierKey : Text := Text.ofString "emit.specifier"

def setKnown (key : Text) (v : Option Value) (es : Entries Value) : Entries Value :=
  match v with
  | some .null => es
  | some v => setAttribute key v es
  | none => es

theorem failureAttributes_eq (failure es : Entries Value) :
    failureAttributes failure es =
      setKnown specifierKey (failure.get? (Text.ofString "specifier"))
        (setKnown stageKey (failure.get? (Text.ofString "stage")) es) := rfl

theorem get?_setKnown_of_ne {key other : Text} (h : other ≠ key) (v : Option Value)
    (es : Entries Value) : (setKnown key v es).get? other = es.get? other := by
  unfold setKnown
  split
  · rfl
  · exact get?_setAttribute_of_ne h _ es
  · rfl

theorem get?_setKnown_self {key : Text} (hk : key.isEmpty = false) {es : Entries Value}
    (h : es.get? key = none) {v : Option Value} (hv : v ≠ some .null) :
    (setKnown key v es).get? key = v.bind attribute? := by
  unfold setKnown
  split
  · exact absurd rfl hv
  · exact get?_setAttribute_self hk h _
  · exact h

theorem stage_failureAttributes (f : Failure) {es : Entries Value} (h : es.get? stageKey = none) :
    (failureAttributes f.attributes es).get? stageKey = f.stage?.map Value.string := by
  have hne : stageKey ≠ specifierKey := Text.ofString_injective.ne (by decide)
  rw [failureAttributes_eq, get?_setKnown_of_ne hne, f.get?_attributes_stage]
  cases f with
  | emit e =>
    show (setKnown stageKey (some (Value.ofOption Value.string e.stage)) es).get? stageKey =
      e.stage.map Value.string
    cases e.stage with
    | none => exact h
    | some s => exact get?_setKnown_self rfl h nofun
  | _ => exact h

theorem specifier_failureAttributes (f : Failure) {es : Entries Value}
    (h : es.get? specifierKey = none) :
    (failureAttributes f.attributes es).get? specifierKey = f.specifier?.bind attribute? := by
  have hne : specifierKey ≠ stageKey := Text.ofString_injective.ne (by decide)
  rw [failureAttributes_eq, f.get?_attributes_specifier]
  refine get?_setKnown_self rfl ?_ f.specifier?_ne_null
  rw [get?_setKnown_of_ne hne]
  exact h

end SpanRecord

end EmitBridge
