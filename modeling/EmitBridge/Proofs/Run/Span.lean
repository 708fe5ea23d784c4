import EmitBridge.Proofs.Json.Entries
import EmitBridge.Proofs.Run.Trace

/-! Spans add to the log of their body and to nothing else, provided that none of their attributes
has a name that log events use themselves. -/

namespace EmitBridge

namespace Run

variable {α : Type}

section logged

variable {given attributes context : Entries Value} {name : String} {logStart logEnd : Bool}
  {body : Run α}

def parameterNames : List Text := ["self", "event", "method_name"].map Text.ofString

theorem contains_ownNames_iff (name : Text) : ownNames.contains name.toString = true ↔
    name = Text.ofString "self" ∨ name = Text.ofString "event" := by
  rw [List.contains_iff_mem, ownNames, List.mem_cons, List.mem_singleton,
    Text.toString_eq_iff (by decide), Text.toString_eq_iff (by decide)]

theorem mem_parameterNames_iff (name : Text) : name ∈ parameterNames ↔
    ownNames.contains name.toString = true ∨ name = Text.ofString "method_name" := by
  rw [contains_ownNames_iff]
  simp only [parameterNames, List.map_cons, List.map_nil, List.mem_cons, List.not_mem_nil,
    or_false, or_assoc]

/-- Names that come twice are found first, then the receiver and the event, then the method. -/
theorem fieldFault?_eq_none (level : Level) : fieldFault? level given attributes = none ↔
    (∀ e ∈ attributes, ¬given.contains e.1 = true) ∧
      (∀ e ∈ attributes, ¬ownNames.contains e.1.toString = true) ∧
        ¬attributes.contains (Text.ofString "method_name") = true := by
  rw [← List.find?_eq_none, ← List.find?_eq_none]
  unfold fieldFault?
  split
  · next htwice => simp only [htwice, reduceCtorEq, false_and]
  · next htwice =>
    split
    · next hown => simp only [hown, reduceCtorEq, false_and, and_false]
    · next hown =>
      split
      · next hmethod => simp only [hmethod, reduceCtorEq, not_true, and_false]
      · next hmethod => exact iff_of_true rfl ⟨htwice, hown, hmethod⟩

theorem fieldFault?_eq_none_iff (level : Level) :
    fieldFault? level given attributes = none ↔
      ∀ e ∈ attributes, e.1 ∉ parameterNames ∧ e.1 ∉ given.map Prod.fst := by
  have hgiven (e : Text × Value) : given.contains e.1 = true ↔ e.1 ∈ given.map Prod.fst := by
    rw [Entries.contains_eq_true_iff, List.mem_map]
  have hmethod : attributes.contains (Text.ofString "method_name") = true ↔
      ∃ e ∈ attributes, e.1 = Text.ofString "method_name" := Entries.contains_eq_true_iff
  simp only [fieldFault?_eq_none, mem_parameterNames_iff, hgiven, hmethod, not_or]
  constructor
  · rintro ⟨htwice, hown, hname⟩ e he
    exact ⟨⟨hown e he, fun h => hname ⟨e, he, h⟩⟩, htwice e he⟩
  · intro h
    refine ⟨fun e he => (h e he).2, fun e he => (h e he).1.1, ?_⟩
    rintro ⟨e, he, hname⟩
    exact (h e he).1.2 hname

theorem logNamed_of_free (h : ∀ e ∈ attributes, e.1 ∉ parameterNames ∧ e.1 ∉ given.map Prod.fst)
    (level : Level) (name : String) :
    logNamed level name given attributes = log level name (given ++ attributes) := by
  rw [logNamed, (fieldFault?_eq_none_iff level).mpr h]

theorem logNamed_of_clash
    (h : ¬∀ e ∈ attributes, e.1 ∉ parameterNames ∧ e.1 ∉ given.map Prod.fst)
    (level : Level) (name : String) :
    ∃ f, logNamed level name given attributes = fail (.fault f) := by
  obtain ⟨f, hf⟩ : ∃ f, fieldFault? level given attributes = some f :=
    Option.ne_none_iff_exists'.mp (mt (fieldFault?_eq_none_iff level).mp h)
  refine ⟨f, ?_⟩
  rw [logNamed, hf]

def Speakable (attributes : Entries Value) : Prop := ∀ e ∈ attributes, e.1 ∉ parameterNames

theorem speakable_iff : Speakable attributes ↔
    ∀ e ∈ attributes, e.1 ∉ parameterNames ∧ e.1 ∉ ([] : Entries Value).map Prod.fst :=
  forall₂_congr fun _ _ => (and_iff_left List.not_mem_nil).symm

theorem logNamed_of_speakable (h : Speakable attributes) (level : Level) (name : String) :
    logNamed level name [] attributes = log level name attributes :=
  logNamed_of_free (speakable_iff.mp h) level name

def edge (wanted : Bool) (level : Level) (name : String) (attributes context : Entries Value) :
    List Event :=
  if wanted then [.logged level name (withContext context attributes)] else []

@[simp] theorem effects_edge (wanted : Bool) (level : Level) (name : String)
    (attributes context : Entries Value) :
    effects (edge wanted level name attributes context) = [] := by
  cases wanted <;> rfl

theorem optional_of_speakable {wanted : Bool} (h : wanted = true → Speakable attributes)
    (level : Level) (name : String) (context : Entries Value) :
    (if wanted then logNamed level name [] attributes context else (.ok (), [])) =
      (.ok (), edge wanted level name attributes context) := by
  cases wanted with
  | true => rw [logNamed_of_speakable (h rfl)]; rfl
  | false => rfl

def raisedSpan (name : String) (attributes : Entries Value) (e : Failure) : SpanRecord :=
  ⟨name, SpanRecord.failureAttributes e.attributes (SpanRecord.attributesOf attributes),
    .failed e.message e.name⟩

theorem span_of_told (hstart : logStart = true → Speakable attributes) {e : Failure}
    (hb : (body context).1 = .error e)
    (hfree : ∀ d ∈ attributes, d.1 ∉ parameterNames ∧ d.1 ∉ e.attributes.map Prod.fst) :
    span name attributes logStart logEnd body context =
      (.error e, (.span (raisedSpan name attributes e)
          :: edge logStart .debug (name ++ "_started") attributes context ++ (body context).2)
        ++ [.logged .error (name ++ "_failed")
          (withContext context (e.attributes ++ attributes))]) := by
  rcases hx : body context with ⟨r, inner⟩
  rw [hx] at hb
  subst hb
  simp only [span, optional_of_speakable hstart, hx, logNamed_of_free hfree]
  rfl

end logged

def takenNames : List String :=
  ["error", "error_type", "stage", "specifier", "self", "event", "method_name"]

def Loggable (attributes : Entries Value) : Prop := ∀ e ∈ attributes, e.1.toString ∉ takenNames

theorem failure_attribute_taken (f : Failure) {e : Text × Value} (he : e ∈ f.attributes) :
    e.1.toString ∈ takenNames := by
  have named (s : String) (v : Value) (hs : s ∈ takenNames) :
      ((Text.ofString s, v) : Text × Value).1.toString ∈ takenNames := by
    rw [Text.toString_ofString]
    exact hs
  simp only [FailureOf.attributes, List.cons_append, List.nil_append, List.mem_cons] at he
  rcases he with rfl | rfl | he
  · exact named "error" _ (by decide)
  · exact named "error_type" _ (by decide)
  · cases f with
    | emit x =>
      simp only [List.mem_cons, Option.mem_toList, Option.map_eq_some_iff] at he
      rcases he with rfl | ⟨v, _, rfl⟩
      · exact named "stage" _ (by decide)
      · exact named "specifier" _ (by decide)
    | _ => exact absurd he List.not_mem_nil

theorem Loggable.free {given attributes : Entries Value} (h : Loggable attributes)
    (hg : ∀ e ∈ given, e.1.toString ∈ takenNames) :
    ∀ e ∈ attributes, e.1 ∉ parameterNames ∧ e.1 ∉ given.map Prod.fst := by
  have hparameters : ["self", "event", "method_name"] ⊆ takenNames := by decide
  refine fun e he => ⟨fun hname => h e he ?_, fun hname => h e he ?_⟩
  · obtain ⟨s, hs, hsame⟩ := List.mem_map.mp hname
    rw [← hsame, Text.toString_ofString]
    exact hparameters hs
  · obtain ⟨f, hf, hsame⟩ := List.mem_map.mp hname
    exact hsame ▸ hg f hf

theorem Loggable.speakable {attributes : Entries Value} (h : Loggable attributes) :
    Speakable attributes := speakable_iff.mpr (h.free nofun)

theorem span_of_ok {attributes : Entries Value} (h : Loggable attributes) (name : String)
    (logStart logEnd : Bool) {body : Run α} {context : Entries Value} {a : α}
    (hb : (body context).1 = .ok a) :
    span name attributes logStart logEnd body context =
      (.ok a, .span ⟨name, SpanRecord.attributesOf attributes, .ok⟩
        :: edge logStart .debug (name ++ "_started") attributes context
        ++ (body context).2 ++ edge logEnd .info (name ++ "_completed") attributes context) := by
  rcases hx : body context with ⟨r, inner⟩
  rw [hx] at hb
  subst hb
  simp only [span, optional_of_speakable fun _ => h.speakable, hx]
  rfl

theorem span_of_error {attributes : Entries Value} (h : Loggable attributes) (name : String)
    (logStart logEnd : Bool) {body : Run α} {context : Entries Value} {e : Failure}
    (hb : (body context).1 = .error e) :
    span name attributes logStart logEnd body context =
      (.error e,
        .span ⟨name, SpanRecord.failureAttributes e.attributes (SpanRecord.attributesOf attributes),
            .failed e.message e.name⟩
          :: edge logStart .debug (name ++ "_started") attributes context
          ++ (body context).2
          ++ [.logged .error (name ++ "_failed")
            (withContext context (e.attributes ++ attributes))]) :=
  span_of_told (fun _ => h.speakable) hb (h.free fun _ he => failure_attribute_taken e he)

theorem span_transparent {attributes : Entries Value} (h : Loggable attributes) (name : String)
    (logStart logEnd : Bool) (body : Run α) (context : Entries Value) :
    (span name attributes logStart logEnd body context).1 = (body context).1 ∧
      effects (span name attributes logStart logEnd body context).2 =
        effects (body context).2 := by
  cases hb : (body context).1 with
  | ok a =>
    rw [span_of_ok h name logStart logEnd hb]
    simp
  | error e =>
    rw [span_of_error h name logStart logEnd hb]
    simp

theorem outcome_span {attributes : Entries Value} (h : Loggable attributes) (name : String)
    (logStart logEnd : Bool) (body : Run α) :
    (span name attributes logStart logEnd body).outcome = body.outcome :=
  (span_transparent h name logStart logEnd body []).1

theorem trace_span {attributes : Entries Value} (h : Loggable attributes) (name : String)
    (logStart logEnd : Bool) (body : Run α) :
    (span name attributes logStart logEnd body).trace = body.trace :=
  (span_transparent h name logStart logEnd body []).2

theorem Steady.span {attributes : Entries Value} (h : Loggable attributes) {name : String}
    {logStart logEnd : Bool} {body : Run α} (hb : body.Steady) :
    (span name attributes logStart logEnd body).Steady := by
  intro context
  obtain ⟨ho, ht⟩ := span_transparent h name logStart logEnd body context
  rw [outcome_span h, trace_span h, ho, ht]
  exact hb context

theorem Only.span {Q : Event → Prop} {attributes : Entries Value} (h : Loggable attributes)
    {name : String} {logStart logEnd : Bool} {body : Run α}
    (hspan : ∀ s : SpanRecord, s.name = name → Q (.span s))
    (hlog : ∀ suffix ∈ ["_started", "_completed", "_failed"], ∀ level fields,
      Q (.logged level (name ++ suffix) fields))
    (hb : body.Only Q) : (span name attributes logStart logEnd body).Only Q := by
  have hedge (wanted : Bool) (level : Level) (suffix : String) (context : Entries Value)
      (hs : suffix ∈ ["_started", "_completed", "_failed"]) :
      ∀ e ∈ edge wanted level (name ++ suffix) attributes context, Q e := by
    intro e he
    cases wanted with
    | true =>
      rw [List.mem_singleton.mp he]
      exact hlog suffix hs _ _
    | false => exact absurd he List.not_mem_nil
  refine ⟨hb.1.span h, fun context e he => ?_⟩
  cases hr : (body context).1 with
  | ok a =>
    rw [span_of_ok h name logStart logEnd hr] at he
    simp only [List.cons_append, List.mem_cons, List.mem_append] at he
    rcases he with rfl | (he | he) | he
    · exact hspan _ rfl
    · exact hedge _ _ _ _ (by decide) e he
    · exact hb.2 context e he
    · exact hedge _ _ _ _ (by decide) e he
  | error x =>
    rw [span_of_error h name logStart logEnd hr] at he
    simp only [List.cons_append, List.mem_cons, List.mem_append, List.not_mem_nil, or_false] at he
    rcases he with rfl | (he | he) | rfl
    · exact hspan _ rfl
    · exact hedge _ _ _ _ (by decide) e he
    · exact hb.2 context e he
    · exact hlog _ (by decide) _ _

namespace Operation

def attributeNames : List String :=
  ["emit.operation", "emit.root", "emit.bundle_type", "emit.has_import_map"]

theorem name_of_mem_textField {name : String} {text : Option String} {e : Text × Value}
    (he : e ∈ textField name text) : e.1.toString = name := by
  cases text with
  | none => exact absurd he List.not_mem_nil
  | some s =>
    rw [textField] at he
    split at he
    · exact absurd he List.not_mem_nil
    · rw [List.mem_singleton.mp he, logField, Text.toString_ofString]

theorem name_of_mem_attributes {o : Operation} {e : Text × Value} (he : e ∈ o.attributes) :
    e.1.toString ∈ attributeNames := by
  simp only [attributes, List.cons_append, List.mem_cons, List.mem_append] at he
  rcases he with rfl | (he | he) | he
  · rw [logField, Text.toString_ofString]
    decide
  · rw [name_of_mem_textField he]
    decide
  · rw [name_of_mem_textField he]
    decide
  · cases hm : o.hasImportMap with
    | none => rw [hm] at he; exact absurd he List.not_mem_nil
    | some b =>
      rw [hm] at he
      rw [List.mem_singleton.mp he, logField, Text.toString_ofString]
      decide

theorem loggable_attributes (o : Operation) : Loggable o.attributes := by
  have hfree : ∀ name ∈ attributeNames, name ∉ takenNames := by decide
  exact fun e he => hfree _ (name_of_mem_attributes he)

end Operation

def Operation.context (o : Operation) (context : Entries Value) : Entries Value :=
  withContext context o.attributes

theorem operation_transparent (o : Operation) (body : Run α) (context : Entries Value) :
    (operation o body context).1 = (body (o.context context)).1 ∧
      effects (operation o body context).2 = effects (body (o.context context)).2 :=
  span_transparent o.loggable_attributes _ _ _ body (o.context context)

theorem Steady.operation {o : Operation} {body : Run α} (hb : body.Steady) :
    (operation o body).Steady ∧ (Run.operation o body).outcome = body.outcome ∧
      (Run.operation o body).trace = body.trace := by
  have hall : ∀ context, (Run.operation o body context).1 = body.outcome ∧
      effects (Run.operation o body context).2 = body.trace := by
    intro context
    obtain ⟨ho, ht⟩ := operation_transparent o body context
    rw [ho, ht]
    exact hb (o.context context)
  obtain ⟨ho, ht⟩ := hall []
  refine ⟨fun context => ?_, ho, ht⟩
  rw [outcome, trace, events, ho, ht]
  exact hall context

theorem Only.operation {Q : Event → Prop} {o : Operation} {body : Run α}
    (hspan : ∀ s : SpanRecord, s.name = "emit." ++ o.name → Q (.span s))
    (hlog : ∀ suffix ∈ ["_started", "_completed", "_failed"], ∀ level fields,
      Q (.logged level ("emit." ++ o.name ++ suffix) fields))
    (hb : body.Only Q) : (Run.operation o body).Only Q :=
  ⟨(Steady.operation hb.1).1, fun context =>
    (Only.span o.loggable_attributes hspan hlog hb).2 (o.context context)⟩

end Run

end EmitBridge
