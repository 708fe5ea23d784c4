import EmitBridge.Proofs.Emit.StageOrder
import EmitBridge.Proofs.Run.Attributes

/-! Failures of calls. A failure is marked with the stage that it arises in, if that comes before
the engine call, and is otherwise handed on as it is; the log and the span of the call tell of it as
it leaves the call. -/

namespace EmitBridge

open HostNames.AsciiOnly

open Run Event

namespace EmitStage

/-- How a failure `f`, raised in a stage or between two of them, leaves the call as `x`. -/
structure Surfaces (s : Option EmitStage) (f x : Failure) : Prop where
  tagged : ∀ t e, s = some t → t = validating ∨ t = resolving → f = .emit e →
    x = .emit { e with stage := some (e.stage.getD t.name) }
  untouched : (∀ e, f ≠ .emit e) ∨ s ≠ some validating ∧ s ≠ some resolving → x = f

theorem during_eq (stage : String) (e : EmitError Value) :
    e.during stage = { e with stage := some (e.stage.getD stage) } := by
  unfold EmitError.during
  cases h : e.stage with
  | none => rfl
  | some t =>
    show e = { e with stage := some t }
    rw [← h]

theorem surfaces_none_iff (f x : Failure) : Surfaces none f x ↔ x = f :=
  ⟨fun h => h.untouched (.inr ⟨nofun, nofun⟩), fun h => ⟨nofun, fun _ => h⟩⟩

theorem surfaces_iff_of_foreign {f : Failure} (hf : ∀ e, f ≠ .emit e) (s : Option EmitStage)
    (x : Failure) : Surfaces s f x ↔ x = f :=
  ⟨fun h => h.untouched (.inl hf), fun h => ⟨fun _ e _ _ he => absurd he (hf e), fun _ => h⟩⟩

theorem mark_of_foreign {f : Failure} (hf : ∀ e, f ≠ .emit e) (t : EmitStage) : t.mark f = f := by
  cases f with
  | emit e => exact absurd rfl (hf e)
  | _ => rfl

theorem surfaces_some_iff (t : EmitStage) (f x : Failure) :
    Surfaces (some t) f x ↔ t.mark f = x := by
  -- only failures of an emit are marked, and only by the stages that validate and resolve
  by_cases hf : ∃ e, f = .emit e
  · obtain ⟨e, rfl⟩ := hf
    cases ht : t.marks with
    | true =>
      have hearly : t = validating ∨ t = resolving := by
        cases t <;> first | exact .inl rfl | exact .inr rfl | cases ht
      have hmark : t.mark (.emit e) = .emit { e with stage := some (e.stage.getD t.name) } := by
        rw [mark, ht, if_pos rfl, during_eq]
      rw [hmark]
      refine ⟨fun h => (h.tagged t e rfl hearly rfl).symm, fun h => ⟨?_, ?_⟩⟩
      · rintro _ _ ⟨⟩ _ ⟨⟩
        exact h.symm
      · rintro (hforeign | hlate)
        · exact absurd rfl (hforeign e)
        · rcases hearly with rfl | rfl
          · exact absurd rfl hlate.1
          · exact absurd rfl hlate.2
    | false =>
      have hlate : t ≠ validating ∧ t ≠ resolving := by
        constructor <;> rintro rfl <;> cases ht
      rw [mark_of_unmarked ht]
      refine ⟨fun h => (h.untouched (.inr ⟨?_, ?_⟩)).symm, fun h => ⟨?_, fun _ => h.symm⟩⟩
      · exact fun hs => hlate.1 (Option.some.inj hs)
      · exact fun hs => hlate.2 (Option.some.inj hs)
      · rintro _ _ ⟨⟩ (hv | hr) _
        · exact absurd hv hlate.1
        · exact absurd hr hlate.2
  · have hforeign : ∀ e, f ≠ .emit e := fun e he => hf ⟨e, he⟩
    rw [surfaces_iff_of_foreign hforeign, mark_of_foreign hforeign]
    exact eq_comm

end EmitStage

namespace EmitCall

variable {α : Type} {w : World} {c : EmitCall} {shape : Value → Except Failure α}

def request (c : EmitCall) (r : Resolved) (root : String) : EngineCall :=
  ⟨root, r.importMap, c.options.engineOptions, c.shape⟩

inductive Raises [HostNames] (w : World) (c : EmitCall) (shape : Value → Except Failure α) :
    Option EmitStage → Failure → Prop
  | validating {f} (h : (c.validate w).outcome = .error f) :
    Raises w c shape (some .validating) f
  | resolving {e f} (hv : (c.validate w).outcome = .ok e)
    (h : (c.resolve w).outcome = .error f) : Raises w c shape (some .resolving) f
  | addressing {e r f} (hv : (c.validate w).outcome = .ok e) (hr : (c.resolve w).outcome = .ok r)
    (h : r.root.render = .error f) : Raises w c shape none (Location.urlFailure f)
  | invoking {e r root f} (hv : (c.validate w).outcome = .ok e)
    (hr : (c.resolve w).outcome = .ok r) (ha : r.root.render = .ok root)
    (h : (e.call w r.bridge (c.request r root)).outcome = .error f) :
    Raises w c shape (some .invoking) f
  | shaping {e r root raw f} (hv : (c.validate w).outcome = .ok e)
    (hr : (c.resolve w).outcome = .ok r) (ha : r.root.render = .ok root)
    (hc : (e.call w r.bridge (c.request r root)).outcome = .ok raw) (h : shape raw = .error f) :
    Raises w c shape (some .done) f

theorem outcome_body [HostNames] (w : World) (c : EmitCall) (shape : Value → Except Failure α) :
    (c.body w shape).outcome = (do
      let e ← (c.validate w).outcome.mapError EmitStage.validating.mark
      let r ← (c.resolve w).outcome.mapError EmitStage.resolving.mark
      let root ← r.root.render.mapError Location.urlFailure
      let raw ← (e.call w r.bridge (c.request r root)).outcome.mapError EmitStage.invoking.mark
      (shape raw).mapError EmitStage.done.mark) := by
  unfold body invoke
  simp only [outcome_bind, EmitStage.outcome_run, outcome_ofExcept, bind_assoc, request]

theorem outcome_body_eq_error_iff [HostNames] {x : Failure} :
    (c.body w shape).outcome = .error x ↔
      ∃ s f, c.Raises w shape s f ∧ EmitStage.Surfaces s f x := by
  simp only [outcome_body, bind_eq_error_iff, mapError_eq_error_iff, mapError_eq_ok_iff]
  constructor
  · rintro (⟨f, h, hx⟩ | ⟨e, hv, ⟨f, h, hx⟩ | ⟨r, hr, ⟨f, h, hx⟩ | ⟨root, ha, ⟨f, h, hx⟩ |
      ⟨raw, hc, f, h, hx⟩⟩⟩⟩)
    · exact ⟨_, f, .validating h, (EmitStage.surfaces_some_iff ..).mpr hx⟩
    · exact ⟨_, f, .resolving hv h, (EmitStage.surfaces_some_iff ..).mpr hx⟩
    · exact ⟨_, _, .addressing hv hr h, (EmitStage.surfaces_none_iff ..).mpr hx.symm⟩
    · exact ⟨_, f, .invoking hv hr ha h, (EmitStage.surfaces_some_iff ..).mpr hx⟩
    · exact ⟨_, f, .shaping hv hr ha hc h, (EmitStage.surfaces_some_iff ..).mpr hx⟩
  · rintro ⟨s, f, hraised, hx⟩
    cases hraised with
    | validating h => exact .inl ⟨f, h, (EmitStage.surfaces_some_iff ..).mp hx⟩
    | resolving hv h => exact .inr ⟨_, hv, .inl ⟨f, h, (EmitStage.surfaces_some_iff ..).mp hx⟩⟩
    | addressing hv hr h =>
      exact .inr ⟨_, hv, .inr ⟨_, hr, .inl ⟨_, h, ((EmitStage.surfaces_none_iff ..).mp hx).symm⟩⟩⟩
    | invoking hv hr ha h =>
      exact .inr ⟨_, hv, .inr ⟨_, hr, .inr ⟨_, ha, .inl
        ⟨f, h, (EmitStage.surfaces_some_iff ..).mp hx⟩⟩⟩⟩
    | shaping hv hr ha hc h =>
      exact .inr ⟨_, hv, .inr ⟨_, hr, .inr ⟨_, ha, .inr
        ⟨_, hc, f, h, (EmitStage.surfaces_some_iff ..).mp hx⟩⟩⟩⟩

end EmitCall

namespace Event

def spanNamed? (name : String) : Event → Option SpanRecord
  | span s => if s.name = name then some s else none
  | _ => none

def spansNamed (name : String) (es : List Event) : List SpanRecord :=
  es.filterMap (spanNamed? name)

def IsBeside (name : String) : Event → Prop
  | logged _ event _ => event ≠ name ++ "_completed" ∧ event ≠ name ++ "_failed"
  | span s => s.name ≠ name
  | _ => True

theorem IsBeside.spanNamed?_eq_none {name : String} {e : Event} (h : e.IsBeside name) :
    e.spanNamed? name = none := by
  cases e with
  | span s => exact if_neg h
  | _ => rfl

end Event

/-- What the events of a failed call tell of its failure. The failure is described as it leaves the
call, in the last event and in the one span of the call. -/
structure Reports (name : String) (context : Entries Value) (x : Failure) (es : List Event) :
    Prop where
  failed : ∃ before rest,
    es = before ++ [.logged .error (name ++ "_failed") (x.attributes ++ rest)] ∧
      (∀ level fields, .logged level (name ++ "_failed") fields ∉ before) ∧
      ∀ e ∈ rest, e ∈ context ∨ e.1.toString ∉ takenNames
  notCompleted : ∀ level fields, .logged level (name ++ "_completed") fields ∉ es
  span : ∃ s, spansNamed name es = [s] ∧ s.status = .failed x.message x.name ∧
    s.attributes.get? SpanRecord.stageKey = x.stage?.map Value.string ∧
    s.attributes.get? SpanRecord.specifierKey = x.specifier?.bind SpanRecord.attribute?

namespace Event

theorem spansNamed_of_beside {name : String} {es : List Event} (h : ∀ e ∈ es, e.IsBeside name) :
    spansNamed name es = [] :=
  List.filterMap_eq_nil_iff.mpr fun e he => (h e he).spanNamed?_eq_none

theorem isBeside_started (name : String) (level : Level) (fields : Entries Value) :
    (logged level (name ++ "_started") fields).IsBeside name := by
  have hne (suffix : String) (h : "_started" ≠ suffix) : name ++ "_started" ≠ name ++ suffix :=
    fun heq => h ((String.append_right_inj name).mp heq)
  exact ⟨hne _ (by decide), hne _ (by decide)⟩

end Event

theorem Reports.of_events {name : String} {context rest : Entries Value} {x : Failure}
    {told : Entries Value} {inner : List Event} (hinner : ∀ e ∈ inner, e.IsBeside name)
    (hrest : ∀ e ∈ rest, e ∈ context ∨ e.1.toString ∉ takenNames)
    (hstage : told.get? SpanRecord.stageKey = x.stage?.map Value.string)
    (hspecifier : told.get? SpanRecord.specifierKey = x.specifier?.bind SpanRecord.attribute?) :
    Reports name context x
      (.span ⟨name, told, .failed x.message x.name⟩ :: inner ++
        [.logged .error (name ++ "_failed") (x.attributes ++ rest)]) where
  failed := by
    refine ⟨_, rest, rfl, fun level fields hm => ?_, hrest⟩
    rcases List.mem_cons.mp hm with hm | hm
    · cases hm
    · exact (hinner _ hm).2 rfl
  notCompleted level fields hm := by
    simp only [List.cons_append, List.mem_cons, List.mem_append, List.not_mem_nil, or_false] at hm
    rcases hm with hm | hm | hm
    · cases hm
    · exact (hinner _ hm).1 rfl
    · have hname : name ++ "_completed" = name ++ "_failed" := (Event.logged.inj hm).2.1
      exact absurd ((String.append_right_inj name).mp hname) (by decide)
  span := by
    refine ⟨⟨name, told, .failed x.message x.name⟩, ?_, rfl, hstage, hspecifier⟩
    have hown (s : SpanRecord) (h : s.name = name) : spanNamed? name (.span s) = some s := if_pos h
    rw [spansNamed, List.filterMap_append, List.filterMap_cons_some (hown _ rfl),
      ← spansNamed, spansNamed_of_beside hinner]
    rfl

namespace Run.Operation

variable {α : Type}

theorem get?_attributesOf (o : Operation) {key : String} (h : key ∉ attributeNames) :
    (SpanRecord.attributesOf o.attributes).get? (Text.ofString key) = none := by
  refine SpanRecord.get?_attributesOf_of_not_mem fun e he heq => h ?_
  rw [← Text.toString_ofString key, ← heq]
  exact name_of_mem_attributes he

theorem reports (o : Operation) {body : Run α} {context : Entries Value} {x : Failure}
    (hbody : ∀ e ∈ (body (o.context context)).2, e.IsBeside ("emit." ++ o.name))
    (hx : (operation o body context).1 = .error x) :
    Reports ("emit." ++ o.name) context x (operation o body context).2 := by
  have hraised : (body (o.context context)).1 = .error x := by
    rw [← (operation_transparent o body context).1, hx]
  have hevents := congrArg Prod.snd
    (span_of_error o.loggable_attributes ("emit." ++ o.name) true true hraised)
  have hinner : ∀ e ∈ edge true .debug ("emit." ++ o.name ++ "_started") o.attributes
      (o.context context) ++ (body (o.context context)).2, e.IsBeside ("emit." ++ o.name) := by
    intro e he
    rcases List.mem_append.mp he with he | he
    · rw [List.mem_singleton.mp he]
      exact isBeside_started ..
    · exact hbody e he
  have hrest : ∀ e ∈ o.attributes ++
      (o.context context).filter (fun e => !(x.attributes ++ o.attributes).contains e.1),
      e ∈ context ∨ e.1.toString ∉ takenNames := by
    intro e he
    rcases List.mem_append.mp he with he | he
    · exact .inr (o.loggable_attributes e he)
    · rcases List.mem_append.mp (List.mem_filter.mp he).1 with he | he
      · exact .inr (o.loggable_attributes e he)
      · exact .inl (List.mem_filter.mp he).1
  have hreports := Reports.of_events hinner hrest
    (SpanRecord.stage_failureAttributes x (o.get?_attributesOf (by decide)))
    (SpanRecord.specifier_failureAttributes x (o.get?_attributesOf (by decide)))
  rw [← List.append_assoc] at hreports
  exact hevents ▸ hreports

end Run.Operation

/-- The failures of a call: which ones it fails with, and what it tells of them. -/
structure KeepsFailures [HostNames] {α : Type} (w : World) (c : EmitCall)
    (shape : Value → Except Failure α)
    (r : Run α) : Prop where
  raised : ∀ context x, (r context).1 = .error x ↔
    ∃ s f, c.Raises w shape s f ∧ EmitStage.Surfaces s f x
  reported : ∀ context x, (r context).1 = .error x →
    Reports ("emit." ++ c.operationName) context x (r context).2

namespace KeepsFailures

variable {α : Type} {w : World} {c : EmitCall} {shape : Value → Except Failure α}

theorem isBeside_of_isInner (c : EmitCall) {e : Event} (h : e.IsInner) :
    e.IsBeside ("emit." ++ c.operationName) := by
  have hname : c.operationName = "bundle" ∨ c.operationName = "transpile" := by
    unfold EmitCall.operationName
    split
    · exact .inl rfl
    · exact .inr rfl
  cases e with
  | logged level name fields =>
    have hinner : ∀ n ∈ innerNames, ∀ o ∈ ["bundle", "transpile"],
        n ≠ "emit." ++ o ++ "_completed" ∧ n ≠ "emit." ++ o ++ "_failed" := by decide
    rcases hname with ho | ho <;> rw [ho] <;> exact hinner name h _ (by decide)
  | span s =>
    have hs : s.name = "import_map" := h
    show s.name ≠ _
    rcases hname with ho | ho <;> rw [ho, hs] <;> decide
  | _ => trivial

theorem of_shown [HostNames] {root : String} (h : c.root.asText = .ok root) :
    KeepsFailures w c shape (c.run w shape) := by
  have hrun : c.run w shape = operation (c.operation root) (c.body w shape) := by
    rw [EmitCall.run_eq, h]
    exact ofExcept_ok_bind ..
  have hbody : (c.body w shape).Only (·.IsBeside ("emit." ++ c.operationName)) :=
    EmitCall.only_body (fun _ => isBeside_of_isInner c) fun _ _ _ _ => trivial
  rw [hrun]
  refine ⟨fun context x => ?_, fun context x hx => ?_⟩
  · rw [(operation_transparent _ _ context).1, (hbody.1 _).1]
    exact EmitCall.outcome_body_eq_error_iff
  · exact (c.operation root).reports (hbody.2 _) hx

theorem run_of_unshown [HostNames] {f : UrlError} (h : c.root.asText = .error f)
    (context : Entries Value) :
    c.run w shape context = (.error (Location.urlFailure f), []) := by
  rw [EmitCall.run_eq, h]
  exact bind_of_error rfl

theorem of_call [HostNames] (w : World) (c : EmitCall) (shape : Value → Except Failure α) :
    KeepsFailures w c shape (c.run w shape) ↔ ∃ root, c.root.asText = .ok root := by
  refine ⟨fun h => ?_, fun ⟨root, hroot⟩ => of_shown hroot⟩
  cases hroot : c.root.asText with
  | ok root => exact ⟨root, rfl⟩
  | error f =>
    have hrun : c.run w shape [] = (.error (Location.urlFailure f), []) := run_of_unshown hroot []
    obtain ⟨before, rest, hevents, _⟩ := (h.reported [] _ (congrArg Prod.fst hrun)).failed
    rw [hrun] at hevents
    exact absurd hevents.symm (List.append_ne_nil_of_right_ne_nil _ (List.cons_ne_nil _ _))

end KeepsFailures

namespace EmitCall

theorem root_of_ofBundle {engine : Option Engine} {root options : Value} {c : EmitCall}
    (h : ofBundle engine root options = .ok c) : c.root = root := by
  obtain ⟨o, -, rfl⟩ := exists_of_ofBundle h
  rfl

theorem root_of_ofTranspile {engine : Option Engine} {root options : Value} {c : EmitCall}
    (h : ofTranspile engine root options = .ok c) : c.root = root := by
  obtain ⟨o, -, rfl⟩ := exists_of_ofTranspile h
  rfl

end EmitCall

/-- Bundling and transpiling keep their failures just if the root can be written as text. -/
theorem keepsFailures_iff_root_shown [HostNames] (w : World) (engine : Option Engine)
    (root options : Value) :
    (∀ c, EmitCall.ofBundle engine root options = .ok c →
      (KeepsFailures w c BundleEmit.ofValue (bundle w engine root options) ↔
        ∃ s, root.asText = .ok s)) ∧
    ∀ c, EmitCall.ofTranspile engine root options = .ok c →
      (KeepsFailures w c Value.pairs (transpile w engine root options) ↔
        ∃ s, root.asText = .ok s) := by
  refine ⟨fun c hc => ?_, fun c hc => ?_⟩
  · rw [bundle_eq, hc, ofExcept_ok_bind, ← EmitCall.root_of_ofBundle hc]
    exact KeepsFailures.of_call w c _
  · rw [transpile_eq, hc, ofExcept_ok_bind, ← EmitCall.root_of_ofTranspile hc]
    exact KeepsFailures.of_call w c _

theorem keepsFailures_without_engine : ∃ c d,
    EmitCall.ofBundle none (.string "mod.ts") .null = .ok c ∧
    EmitCall.ofTranspile none (.string "mod.ts") .null = .ok d ∧
    (bundle .bare none (.string "mod.ts") .null).outcome.toOption.isNone ∧
    (transpile .bare none (.string "mod.ts") .null).outcome.toOption.isNone ∧
    KeepsFailures .bare c BundleEmit.ofValue (bundle .bare none (.string "mod.ts") .null) ∧
    KeepsFailures .bare d Value.pairs (transpile .bare none (.string "mod.ts") .null) := by
  obtain ⟨hb, ht⟩ := keepsFailures_iff_root_shown .bare none (.string "mod.ts") .null
  have hroot : ∃ s, (Value.string "mod.ts").asText = .ok s := ⟨_, rfl⟩
  refine ⟨_, _, rfl, rfl, ?_, ?_, (hb _ rfl).mpr hroot, (ht _ rfl).mpr hroot⟩
  · decide +kernel
  · decide +kernel

def Url.unwritable : Url := ⟨"http", "h:99999", "/mod.ts", "", "", none⟩

theorem failure_of_unwritable_root_untold : ∃ c x,
    EmitCall.ofTranspile (some .idle) (.url .unwritable) .null = .ok c ∧
    (transpile .bare (some .idle) (.url .unwritable) .null).outcome = .error x ∧
    (transpile .bare (some .idle) (.url .unwritable) .null).events = [] := by
  have hport : (Value.url .unwritable).asText.toOption.isNone := by decide +kernel
  cases hroot : (Value.url .unwritable).asText with
  | ok s =>
    rw [hroot] at hport
    cases hport
  | error f =>
    obtain ⟨c, hc⟩ : ∃ c, EmitCall.ofTranspile (some .idle) (.url .unwritable) .null = .ok c :=
      ⟨_, rfl⟩
    have hrun : transpile .bare (some .idle) (.url .unwritable) .null [] =
        (.error (Location.urlFailure f), []) := by
      rw [transpile_eq, hc, ofExcept_ok_bind]
      exact KeepsFailures.run_of_unshown ((EmitCall.root_of_ofTranspile hc).symm ▸ hroot) []
    exact ⟨c, _, hc, congrArg Prod.fst hrun, congrArg Prod.snd hrun⟩

end EmitBridge
