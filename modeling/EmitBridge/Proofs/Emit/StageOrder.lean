import EmitBridge.Emit.Stages
import EmitBridge.Proofs.ImportMap.Request
import EmitBridge.Proofs.Run.Trace

/-! The order of the stages of a call. What a call does is the request for its import map, if that
is in a file, and then one engine call; a failure cuts this short before the engine is called. -/

namespace EmitBridge

open HostNames.AsciiOnly

open Run Event

namespace EmitStage

variable {α : Type}

theorem outcome_run (s : EmitStage) (body : Run α) :
    (s.run body).outcome = body.outcome.mapError s.mark := by
  rw [EmitStage.run, outcome_bind, outcome_log, ← outcome_mapFailure]
  rfl

theorem trace_run (s : EmitStage) (body : Run α) : (s.run body).trace = body.trace := by
  rw [EmitStage.run, trace_bind_of_ok (outcome_log ..), trace_log, trace_mapFailure]
  rfl

theorem report_run (s : EmitStage) (body : Run α) :
    (s.run body).report = (body.outcome.mapError s.mark, body.trace) :=
  Prod.ext (outcome_run s body) (trace_run s body)

theorem mark_of_unmarked {s : EmitStage} (h : s.marks = false) (e : Failure) : s.mark e = e := by
  cases e <;> simp [mark, h]

theorem report_run_of_unmarked {s : EmitStage} (h : s.marks = false) (body : Run α) :
    (s.run body).report = body.report := by
  rw [report_run]
  refine Prod.ext ?_ rfl
  show body.outcome.mapError s.mark = body.outcome
  cases body.outcome with
  | ok a => rfl
  | error e => exact congrArg Except.error (mark_of_unmarked h e)

theorem only_run {Q : Event → Prop} (hQ : ∀ e, e.IsInner → Q e) (s : EmitStage) {body : Run α}
    (h : body.Only Q) : (s.run body).Only Q := by
  have hlog : ∀ fields, Q (.logged .debug "emit_stage" fields) := fun fields =>
    hQ (.logged _ _ fields) (show "emit_stage" ∈ innerNames by decide)
  exact (only_log hlog _).bind fun _ => h.mapFailure _

end EmitStage

namespace EmitCall

variable {w : World} {c : EmitCall} {Q : Event → Prop}

def ofBundle (engine : Option Engine) (root options : Value) : Except Failure EmitCall := do
  let o ← BundleOptions.ofValue options
  return ⟨root, o.common, some ⟨o.type, o.minify⟩, engine⟩

def ofTranspile (engine : Option Engine) (root options : Value) : Except Failure EmitCall := do
  let o ← EmitOptions.ofValue options
  return ⟨root, o, none, engine⟩

theorem exists_of_ofBundle {engine : Option Engine} {root options : Value}
    (h : ofBundle engine root options = .ok c) :
    ∃ o, BundleOptions.ofValue options = .ok o ∧
      c = ⟨root, o.common, some ⟨o.type, o.minify⟩, engine⟩ := by
  obtain ⟨o, ho, hc⟩ := exists_of_bind_eq_ok h
  exact ⟨o, ho, (Except.ok.inj hc).symm⟩

theorem exists_of_ofTranspile {engine : Option Engine} {root options : Value}
    (h : ofTranspile engine root options = .ok c) :
    ∃ o, EmitOptions.ofValue options = .ok o ∧ c = ⟨root, o, none, engine⟩ := by
  obtain ⟨o, ho, hc⟩ := exists_of_bind_eq_ok h
  exact ⟨o, ho, (Except.ok.inj hc).symm⟩

def setting (c : EmitCall) : Value := Value.ofOption Value.cacheSetting c.options.cacheSetting

/-- All that a call has to come to before its engine can be called, once it is validated. -/
structure Resolution [HostNames] (w : World) (c : EmitCall) where
  url : Url
  address : String
  bridge : Bridge
  source : Value
  importMap : Option SerializedImportMap
  rootShown : ∃ s, c.root.asText = .ok s
  url_eq : Location.toUrl w.cwd none c.root = .ok url
  address_eq : url.render = .ok address
  bridge_eq : c.options.bridge w = .ok bridge
  source_eq : (importMapSource c.options).outcome = .ok source
  importMap_eq : (SerializedImportMap.build w bridge c.setting source).outcome = .ok importMap

def Resolution.engineCall [HostNames] (p : c.Resolution w) : EngineCall :=
  ⟨p.address, p.importMap, c.options.engineOptions, c.shape⟩

theorem only_validate (hlog : ∀ fields, Q (.logged .debug "engine_loaded" fields)) :
    (c.validate w).Only Q := by
  refine (only_ofExcept _).bind fun _ => ?_
  split
  · exact only_pure _
  · exact (only_ofExcept _).bind fun s => Engine.only_default hlog s

theorem trace_validate : (c.validate w).trace = [] :=
  (only_validate fun _ => rfl).trace_eq_nil

theorem only_importMapSource (hlog : ∀ fields, Q (.logged .warning "import_map_ignored" fields))
    (o : EmitOptions Value) : (importMapSource o).Only Q := ImportMap.only_select hlog ..

theorem trace_importMapSource (o : EmitOptions Value) : (importMapSource o).trace = [] :=
  (only_importMapSource (fun _ => rfl) o).trace_eq_nil

theorem resolve_eq [HostNames] (c : EmitCall) (w : World) :
    c.resolve w = (do
      let root ← Run.ofExcept (Location.toUrl w.cwd none c.root)
      let bridge ← Run.ofExcept (c.options.bridge w)
      let source ← importMapSource c.options
      let importMap ← SerializedImportMap.build w bridge c.setting source
      return ⟨root, bridge, importMap⟩) := rfl

theorem only_resolve [HostNames] (hQ : ∀ e, e.IsInner → Q e)
    (hnet : ∀ b, c.options.bridge w = .ok b → b.IsOnline → ∀ url, Q (.requested url)) :
    (c.resolve w).Only Q := by
  have hlog : ∀ fields, Q (.logged .warning "import_map_ignored" fields) := fun fields =>
    hQ (.logged _ _ fields) (show "import_map_ignored" ∈ innerNames by decide)
  rw [resolve_eq]
  refine (only_ofExcept _).bind fun _ => (only_ofExcept _).bind_of_outcome fun b hb => ?_
  rw [outcome_ofExcept] at hb
  exact (only_importMapSource hlog _).bind fun source =>
    (SerializedImportMap.only_build hQ (hnet b hb) _ source).bind fun _ => only_done _

theorem report_resolve [HostNames] (c : EmitCall) (w : World) :
    (∃ e, (c.resolve w).report = (.error e, [])) ∨
    ∃ url bridge source, Location.toUrl w.cwd none c.root = .ok url ∧
      c.options.bridge w = .ok bridge ∧ (importMapSource c.options).outcome = .ok source ∧
      (c.resolve w).report =
        (Resolved.mk url bridge <$>
          (SerializedImportMap.build w bridge c.setting source).outcome,
          (SerializedImportMap.build w bridge c.setting source).trace) := by
  rw [resolve_eq]
  cases hu : Location.toUrl w.cwd none c.root with
  | error e => exact .inl ⟨e, rfl⟩
  | ok url =>
    rw [report_bind_of_silent (report_ofExcept _)]
    cases hb : c.options.bridge w with
    | error e => exact .inl ⟨e, rfl⟩
    | ok bridge =>
      rw [report_bind_of_silent (report_ofExcept _)]
      have hq : (importMapSource c.options).trace = [] := trace_importMapSource _
      cases hs : (importMapSource c.options).outcome with
      | error e => exact .inl ⟨e, report_bind_of_error (Prod.ext hs hq) _⟩
      | ok source =>
        refine .inr ⟨url, bridge, source, rfl, rfl, rfl, ?_⟩
        rw [report_bind_of_silent (Prod.ext hs hq),
          report_bind_of_quiet (g := fun m => .ok ⟨url, bridge, m⟩) _ fun _ => rfl]
        cases (SerializedImportMap.build w bridge c.setting source).outcome <;> rfl

theorem report_resolve_of_resolution [HostNames] (p : c.Resolution w) :
    (c.resolve w).report =
      (.ok ⟨p.url, p.bridge, p.importMap⟩,
        (SerializedImportMap.build w p.bridge c.setting p.source).trace) := by
  have hq : (importMapSource c.options).trace = [] := trace_importMapSource _
  rw [resolve_eq, p.url_eq, report_bind_of_silent (report_ofExcept _), p.bridge_eq,
    report_bind_of_silent (report_ofExcept _), report_bind_of_silent (Prod.ext p.source_eq hq),
    report_bind_of_quiet (g := fun m => .ok ⟨p.url, p.bridge, m⟩) _ fun _ => rfl, p.importMap_eq]
  rfl

def start [HostNames] (w : World) (c : EmitCall) (e : Engine) (r : Resolved) : Run Value := do
  let root ← Run.ofExcept (r.root.render.mapError Location.urlFailure)
  EmitStage.invoking.run
    (e.call w r.bridge ⟨root, r.importMap, c.options.engineOptions, c.shape⟩)

def resume [HostNames] (w : World) (c : EmitCall) (e : Engine) : Run Value := do
  c.start w e (← EmitStage.resolving.run (c.resolve w))

theorem invoke_eq [HostNames] (c : EmitCall) (w : World) :
    c.invoke w = (EmitStage.validating.run (c.validate w) >>= c.resume w) := rfl

theorem bridge_of_resolved [HostNames] {r : Resolved} (h : (c.resolve w).outcome = .ok r) :
    c.options.bridge w = .ok r.bridge := by
  obtain ⟨e, he⟩ | ⟨url, bridge, source, _, hb, _, hr⟩ := report_resolve c w
  · have ho : (c.resolve w).outcome = .error e := congrArg Prod.fst he
    rw [h] at ho
    cases ho
  · have ho : Resolved.mk url bridge <$>
        (SerializedImportMap.build w bridge c.setting source).outcome = .ok r :=
      (congrArg Prod.fst hr).symm.trans h
    cases hm : (SerializedImportMap.build w bridge c.setting source).outcome with
    | error e =>
      rw [hm] at ho
      cases ho
    | ok m =>
      rw [hm] at ho
      cases ho
      exact hb

theorem only_resume [HostNames] (hQ : ∀ e, e.IsInner → Q e)
    (hnet : ∀ b, c.options.bridge w = .ok b → b.IsOnline → ∀ url, Q (.requested url))
    (e : Engine) : (c.resume w e).Only Q := by
  refine (EmitStage.resolving.only_run hQ (only_resolve hQ hnet)).bind_of_outcome fun r hr => ?_
  have hresolved : (c.resolve w).outcome = .ok r := by
    rw [EmitStage.outcome_run] at hr
    cases ho : (c.resolve w).outcome with
    | error f =>
      rw [ho] at hr
      cases hr
    | ok s =>
      rw [ho] at hr
      exact hr
  exact (only_ofExcept _).bind fun _ => EmitStage.invoking.only_run hQ
    (e.only_call hQ (hnet r.bridge (bridge_of_resolved hresolved)) _)

theorem only_invoke [HostNames] (hQ : ∀ e, e.IsInner → Q e)
    (hnet : ∀ b, c.options.bridge w = .ok b → b.IsOnline → ∀ url, Q (.requested url)) :
    (c.invoke w).Only Q := by
  have hlog : ∀ fields, Q (.logged .debug "engine_loaded" fields) := fun fields =>
    hQ (.logged _ _ fields) (show "engine_loaded" ∈ innerNames by decide)
  exact (EmitStage.validating.only_run hQ (only_validate hlog)).bind fun e =>
    only_resume hQ hnet e

theorem report_start_of_ok [HostNames] {r : Resolved} {s : String} (h : r.root.render = .ok s)
    (e : Engine) :
    (c.start w e r).report =
      (e.call w r.bridge ⟨s, r.importMap, c.options.engineOptions, c.shape⟩).report := by
  unfold start
  rw [h, report_bind_of_silent (a := s) rfl, EmitStage.report_run_of_unmarked rfl]

theorem report_start_of_error [HostNames] {r : Resolved} {f : UrlError}
    (h : r.root.render = .error f) (e : Engine) :
    (c.start w e r).report = (.error (Location.urlFailure f), []) := by
  unfold start
  rw [h]
  exact report_bind_of_error rfl _

theorem report_invoke_of_invalid [HostNames] {f : Failure} (h : (c.validate w).outcome = .error f) :
    (c.invoke w).report = (.error (EmitStage.validating.mark f), []) := by
  rw [invoke_eq]
  refine report_bind_of_error ?_ _
  rw [EmitStage.report_run, h, trace_validate]
  rfl

theorem report_invoke_of_valid [HostNames] {e : Engine} (h : (c.validate w).outcome = .ok e) :
    (c.invoke w).report = (c.resume w e).report := by
  rw [invoke_eq]
  refine report_bind_of_silent ?_ _
  rw [EmitStage.report_run, h, trace_validate]
  rfl

theorem report_resume_of_resolution [HostNames] (p : c.Resolution w) (e : Engine) :
    (c.resume w e).report =
      ((e.call w p.bridge p.engineCall).outcome,
        (SerializedImportMap.build w p.bridge c.setting p.source).trace ++
          (e.call w p.bridge p.engineCall).trace) := by
  obtain ⟨ho, ht⟩ := Prod.mk.inj (report_resolve_of_resolution p)
  have hr : (EmitStage.resolving.run (c.resolve w)).report =
      (.ok ⟨p.url, p.bridge, p.importMap⟩,
        (SerializedImportMap.build w p.bridge c.setting p.source).trace) := by
    rw [EmitStage.report_run, ho, ht]
    rfl
  obtain ⟨hso, hst⟩ := Prod.mk.inj
    (report_start_of_ok (r := ⟨p.url, p.bridge, p.importMap⟩) (c := c) (w := w) p.address_eq e)
  unfold resume
  rw [report_bind_of_ok hr, hso, hst]
  rfl

theorem report_resume_of_error [HostNames] {f : Failure} {es : List Event}
    (h : (c.resolve w).report = (.error f, es)) (e : Engine) :
    (c.resume w e).report = (.error (EmitStage.resolving.mark f), es) := by
  obtain ⟨ho, ht⟩ := Prod.mk.inj h
  refine report_bind_of_error ?_ _
  rw [EmitStage.report_run, ho, ht]
  rfl

theorem report_resume_of_unshown [HostNames] {r : Resolved} {f : UrlError} {es : List Event}
    (h : (c.resolve w).report = (.ok r, es)) (hf : r.root.render = .error f) (e : Engine) :
    (c.resume w e).report = (.error (Location.urlFailure f), es) := by
  obtain ⟨ho, ht⟩ := Prod.mk.inj h
  have hx : (EmitStage.resolving.run (c.resolve w)).report = (.ok r, es) := by
    rw [EmitStage.report_run, ho, ht]
    rfl
  obtain ⟨hso, hst⟩ := Prod.mk.inj (report_start_of_error (c := c) (w := w) hf e)
  rw [resume, report_bind_of_ok hx, hso, hst, List.append_nil]

theorem resume_of_unresolved [HostNames] (hs : ∃ s, c.root.asText = .ok s)
    (h : IsEmpty (c.Resolution w)) (e : Engine) :
    engineCalls (c.resume w e).trace = [] ∧ (requests (c.resume w e).trace).length ≤ 1 ∧
      ∃ f, (c.resume w e).outcome = .error f := by
  obtain ⟨f, hf⟩ | ⟨url, bridge, source, hu, hb, hsrc, hr⟩ := report_resolve c w
  · obtain ⟨hro, hrt⟩ := Prod.mk.inj (report_resume_of_error hf e)
    rw [hro, hrt]
    exact ⟨rfl, Nat.zero_le 1, _, rfl⟩
  · have hfail : ∃ f, (c.resume w e).report =
        (.error f, (SerializedImportMap.build w bridge c.setting source).trace) := by
      cases hm : (SerializedImportMap.build w bridge c.setting source).outcome with
      | error f =>
        rw [hm] at hr
        exact ⟨_, report_resume_of_error hr e⟩
      | ok m =>
        rw [hm] at hr
        cases ha : url.render with
        -- all parts of a resolution are there
        | ok s => exact (h.false ⟨url, s, bridge, source, m, hs, hu, ha, hb, hsrc, hm⟩).elim
        | error f => exact ⟨_, report_resume_of_unshown hr ha e⟩
    obtain ⟨f, hf⟩ := hfail
    obtain ⟨hro, hrt⟩ := Prod.mk.inj hf
    rw [hro, hrt]
    exact ⟨SerializedImportMap.engineCalls_build .., SerializedImportMap.requests_build_length ..,
      f, rfl⟩

variable {α : Type} {shape : Value → Except Failure α}

def body [HostNames] (w : World) (c : EmitCall) (shape : Value → Except Failure α) : Run α := do
  let raw ← c.invoke w
  EmitStage.done.run (Run.ofExcept (shape raw))

def operation (c : EmitCall) (root : String) : Run.Operation :=
  ⟨c.operationName, some root, c.shape.map fun s => s.type.text, some c.options.hasImportMap⟩

theorem run_eq [HostNames] (c : EmitCall) (w : World) (shape : Value → Except Failure α) :
    c.run w shape = (do
      let root ← Run.ofExcept (c.root.asText.mapError Location.urlFailure)
      Run.operation (c.operation root) (c.body w shape)) := rfl

theorem only_body [HostNames] (hQ : ∀ e, e.IsInner → Q e)
    (hnet : ∀ b, c.options.bridge w = .ok b → b.IsOnline → ∀ url, Q (.requested url)) :
    (c.body w shape).Only Q :=
  (only_invoke hQ hnet).bind fun _ => EmitStage.done.only_run hQ (only_ofExcept _)

theorem steady_body [HostNames] : (c.body w shape).Steady :=
  (only_body (fun _ _ => trivial) (fun _ _ _ _ => trivial) :
    (c.body w shape).Only fun _ => True).1

theorem only_run [HostNames] (hQ : ∀ e, e.IsInner → Q e)
    (hnet : ∀ b, c.options.bridge w = .ok b → b.IsOnline → ∀ url, Q (.requested url))
    (hspan : ∀ s : SpanRecord, s.name = "emit." ++ c.operationName → Q (.span s))
    (hlog : ∀ suffix ∈ ["_started", "_completed", "_failed"], ∀ level fields,
      Q (.logged level ("emit." ++ c.operationName ++ suffix) fields)) :
    (c.run w shape).Only Q := by
  rw [run_eq]
  exact (only_ofExcept _).bind fun _ => Only.operation hspan hlog (only_body hQ hnet)

theorem steady_run [HostNames] : (c.run w shape).Steady := by
  have hrun : (c.run w shape).Only fun _ => True :=
    only_run (fun _ _ => trivial) (fun _ _ _ _ => trivial) (fun _ _ => trivial)
      fun _ _ _ _ => trivial
  exact hrun.1

theorem report_run_of_unshown [HostNames] {f : UrlError} (h : c.root.asText = .error f) :
    (c.run w shape).report = (.error (Location.urlFailure f), []) := by
  unfold run
  rw [h]
  exact report_bind_of_error rfl _

theorem report_run_of_shown [HostNames] {s : String} (h : c.root.asText = .ok s) :
    (c.run w shape).report = ((c.invoke w).outcome >>= shape, (c.invoke w).trace) := by
  have hdone (raw : Value) :
      (EmitStage.done.run (Run.ofExcept (shape raw))).report = (shape raw, []) := by
    rw [EmitStage.report_run_of_unmarked rfl, report_ofExcept]
  obtain ⟨_, ho, ht⟩ :=
    Steady.operation (o := c.operation s) (steady_body : (c.body w shape).Steady)
  rw [run_eq, h, report_bind_of_silent (a := s) rfl, ← report_bind_of_quiet _ hdone]
  exact Prod.ext ho ht

theorem outcome_run_of_shown [HostNames] {s : String} (h : c.root.asText = .ok s) :
    (c.run w shape).outcome = ((c.invoke w).outcome >>= shape) :=
  congrArg Prod.fst (report_run_of_shown h)

theorem outcome_run_of_text [HostNames] {root : String} (hroot : c.root = .string root) :
    (c.run w shape).outcome = ((c.invoke w).outcome >>= shape) := by
  have hshown : ∃ s, c.root.asText = .ok s := by
    rw [hroot]
    exact ⟨_, rfl⟩
  obtain ⟨s, hs⟩ := hshown
  exact outcome_run_of_shown hs

theorem report_run_of_valid [HostNames] {s : String} (hs : c.root.asText = .ok s) {e : Engine}
    (he : (c.validate w).outcome = .ok e) :
    (c.run w shape).report = ((c.resume w e).outcome >>= shape, (c.resume w e).trace) := by
  obtain ⟨ho, ht⟩ := Prod.mk.inj (report_invoke_of_valid he)
  rw [report_run_of_shown hs, ho, ht]

theorem report_run_of_invalid [HostNames] {f : Failure} (h : (c.validate w).outcome = .error f) :
    ∃ g, (c.run w shape).report = (.error g, []) := by
  cases hs : c.root.asText with
  | error g => exact ⟨_, report_run_of_unshown hs⟩
  | ok s =>
    obtain ⟨ho, ht⟩ := Prod.mk.inj (report_invoke_of_invalid h)
    refine ⟨EmitStage.validating.mark f, ?_⟩
    rw [report_run_of_shown hs, ho, ht]
    rfl

end EmitCall

/-- The order in which a call does what it does: `call?` is what its arguments are read as, and `r`
the whole call. -/
structure StageOrder [HostNames] {α : Type} (w : World) (call? : Except Failure EmitCall)
    (r : Run α) :
    Prop where
  steady : r.Steady
  unvalidated : (∀ c e, call? = .ok c → (c.validate w).outcome ≠ .ok e) → r.trace = []
  unresolved : ∀ c, call? = .ok c → IsEmpty (c.Resolution w) →
    engineCalls r.trace = [] ∧ (requests r.trace).length ≤ 1
  invoked : ∀ c e, call? = .ok c → (c.validate w).outcome = .ok e → ∀ p : c.Resolution w,
    engineCalls r.trace = [p.engineCall] ∧
      ∃ before, r.trace = before ++ .engineCalled p.engineCall ::
          ((e.script p.engineCall).run w p.bridge).trace ∧
        (SerializedImportMap.IsFile p.source → ∃ specifier,
          SerializedImportMap.specifierOf w p.source = .ok specifier ∧
            requests before = [⟨specifier, .bool false, c.setting⟩]) ∧
        (¬SerializedImportMap.IsFile p.source → before = [])
  returned : ∀ a, r.outcome = .ok a → ∃ c e, call? = .ok c ∧
    (c.validate w).outcome = .ok e ∧ Nonempty (c.Resolution w)

namespace StageOrder

variable {α : Type} {w : World}

theorem of_error [HostNames] {call? : Except Failure EmitCall} {r : Run α} (hr : r.Steady)
    {f g : Failure} (hc : call? = .error f)
    (h : r.report = (.error g, [])) : StageOrder w call? r := by
  obtain ⟨ho, ht⟩ := Prod.mk.inj h
  refine ⟨hr, fun _ => ht, ?_, ?_, ?_⟩
  · intro c h
    rw [hc] at h
    cases h
  · intro c e h
    rw [hc] at h
    cases h
  · intro a ha
    rw [ho] at ha
    cases ha

variable {c : EmitCall} {shape : Value → Except Failure α}

theorem trace_of_invalid [HostNames] (h : ∀ e, (c.validate w).outcome ≠ .ok e) :
    (c.run w shape).trace = [] ∧ ∀ a, (c.run w shape).outcome ≠ .ok a := by
  cases hv : (c.validate w).outcome with
  | ok e => exact absurd hv (h e)
  | error f =>
    have hreport : ∃ g, (c.run w shape).report = (.error g, []) := EmitCall.report_run_of_invalid hv
    obtain ⟨g, hg⟩ := hreport
    obtain ⟨ho, ht⟩ := Prod.mk.inj hg
    exact ⟨ht, fun a ha => by rw [ho] at ha; cases ha⟩

theorem trace_of_unresolved [HostNames] (h : IsEmpty (c.Resolution w)) :
    engineCalls (c.run w shape).trace = [] ∧ (requests (c.run w shape).trace).length ≤ 1 ∧
      ∀ a, (c.run w shape).outcome ≠ .ok a := by
  cases hs : c.root.asText with
  | error f =>
    have hreport : (c.run w shape).report = (.error (Location.urlFailure f), []) :=
      EmitCall.report_run_of_unshown hs
    obtain ⟨ho, ht⟩ := Prod.mk.inj hreport
    rw [ho, ht]
    exact ⟨rfl, Nat.zero_le 1, fun a ha => by cases ha⟩
  | ok s =>
    by_cases hv : ∃ e, (c.validate w).outcome = .ok e
    · obtain ⟨e, he⟩ := hv
      have hreport : (c.run w shape).report =
          ((c.resume w e).outcome >>= shape, (c.resume w e).trace) :=
        EmitCall.report_run_of_valid hs he
      obtain ⟨ho, ht⟩ := Prod.mk.inj hreport
      obtain ⟨hcalls, hreqs, f, hf⟩ := EmitCall.resume_of_unresolved ⟨s, hs⟩ h e
      rw [ho, ht, hf]
      exact ⟨hcalls, hreqs, fun a ha => by cases ha⟩
    · have hinvalid : (c.run w shape).trace = [] ∧ ∀ a, (c.run w shape).outcome ≠ .ok a :=
        trace_of_invalid fun e he => hv ⟨e, he⟩
      obtain ⟨ht, ho⟩ := hinvalid
      rw [ht]
      exact ⟨rfl, Nat.zero_le 1, ho⟩

theorem trace_of_resolution [HostNames] {e : Engine} (he : (c.validate w).outcome = .ok e)
    (p : c.Resolution w) :
    (c.run w shape).trace =
      (SerializedImportMap.build w p.bridge c.setting p.source).trace ++
        .engineCalled p.engineCall :: ((e.script p.engineCall).run w p.bridge).trace := by
  obtain ⟨s, hs⟩ := p.rootShown
  have hreport : (c.run w shape).report =
      ((c.resume w e).outcome >>= shape, (c.resume w e).trace) := EmitCall.report_run_of_valid hs he
  obtain ⟨_, ht⟩ := Prod.mk.inj hreport
  obtain ⟨_, hrt⟩ := Prod.mk.inj (EmitCall.report_resume_of_resolution p e)
  rw [ht, hrt, Engine.trace_call]

theorem of_call [HostNames] (c : EmitCall) (shape : Value → Except Failure α) :
    StageOrder w (.ok c) (c.run w shape) where
  steady := EmitCall.steady_run
  unvalidated h := (trace_of_invalid fun e => h c e rfl).1
  unresolved := by
    rintro _ ⟨⟩ h
    exact ⟨(trace_of_unresolved h).1, (trace_of_unresolved h).2.1⟩
  invoked := by
    rintro _ e ⟨⟩ he p
    rw [trace_of_resolution he p]
    refine ⟨?_, _, rfl, fun hfile => ?_,
      fun hfile => SerializedImportMap.trace_build_of_not_file hfile _ _⟩
    · rw [engineCalls_append, SerializedImportMap.engineCalls_build, List.nil_append]
      exact congrArg (p.engineCall :: ·) ((e.script p.engineCall).engineCalls_run p.bridge)
    · obtain ⟨specifier, hsp⟩ := SerializedImportMap.specifierOf_of_build hfile p.importMap_eq
      refine ⟨specifier, hsp, ?_⟩
      rw [SerializedImportMap.trace_build_of_file hfile, SerializedImportMap.trace_load, hsp]
      exact p.bridge.requests_load _
  returned := by
    intro a ha
    have hv : ∃ e, (c.validate w).outcome = .ok e := by
      by_contra hv
      exact (trace_of_invalid fun e he => hv ⟨e, he⟩).2 a ha
    obtain ⟨e, he⟩ := hv
    refine ⟨c, e, rfl, he, ?_⟩
    by_contra h
    exact (trace_of_unresolved ⟨fun p => h ⟨p⟩⟩).2.2 a ha

theorem of_read [HostNames] (call? : Except Failure EmitCall) (shape : Value → Except Failure α) :
    StageOrder w call? (Run.ofExcept call? >>= fun c => c.run w shape) := by
  cases call? with
  | error f => exact of_error (steady_ofExcept (.error f)) rfl rfl
  | ok c => exact of_call c shape

end StageOrder

theorem bundle_eq [HostNames] (w : World) (engine : Option Engine) (root options : Value) :
    bundle w engine root options =
      (Run.ofExcept (EmitCall.ofBundle engine root options) >>= fun c =>
        c.run w BundleEmit.ofValue) := by
  unfold bundle EmitCall.ofBundle
  cases BundleOptions.ofValue options <;> rfl

theorem transpile_eq [HostNames] (w : World) (engine : Option Engine) (root options : Value) :
    transpile w engine root options =
      (Run.ofExcept (EmitCall.ofTranspile engine root options) >>= fun c =>
        c.run w Value.pairs) := by
  unfold transpile EmitCall.ofTranspile
  cases EmitOptions.ofValue options <;> rfl

/-- Bundling and transpiling keep the order of the stages, whatever they are given. -/
theorem stageOrder_bundle_and_transpile [HostNames] (w : World) (engine : Option Engine)
    (root options : Value) :
    StageOrder w (EmitCall.ofBundle engine root options) (bundle w engine root options) ∧
      StageOrder w (EmitCall.ofTranspile engine root options)
        (transpile w engine root options) := by
  rw [bundle_eq, transpile_eq]
  exact ⟨StageOrder.of_read _ _, StageOrder.of_read _ _⟩

def World.misconfigured : World :=
  { bare with surroundings := ⟨[("JSEMIT_HTTP_TIMEOUT", "soon")], none⟩ }

def Engine.idle : Engine := ⟨"Idle", fun _ => .done (.ok (.dict []))⟩

theorem Settings.read_misconfigured (s : Settings) :
    Settings.read [] World.misconfigured.surroundings ≠ .ok s := by
  have h : (Settings.read [] World.misconfigured.surroundings).toOption.isNone := by
    decide +kernel
  intro hs
  rw [hs] at h
  cases h

/-- Options, root and import map are all fine, and yet the engine is not called: the settings that
the default loader needs are read after the options are checked. -/
theorem engine_not_called_when_misconfigured :
    ∃ c, EmitCall.ofTranspile (some .idle) (.url ⟨"file", "", "/work/mod.ts", "", "", none⟩) .null =
        .ok c ∧
      (c.validate .misconfigured).outcome = .ok .idle ∧
      (Location.toUrl World.misconfigured.cwd none c.root).toOption.isSome ∧
      (EmitCall.importMapSource c.options).outcome = .ok .null ∧
      (∀ b, (SerializedImportMap.build .misconfigured b c.setting .null).outcome = .ok none) ∧
      engineCalls (transpile .misconfigured (some .idle)
        (.url ⟨"file", "", "/work/mod.ts", "", "", none⟩) .null).trace = [] := by
  refine ⟨_, rfl, rfl, by decide +kernel, rfl, fun _ => rfl, ?_⟩
  rw [transpile_eq]
  refine (StageOrder.trace_of_unresolved ⟨fun p => ?_⟩).1
  have h := p.bridge_eq
  change (do
    let s ← Settings.read [] World.misconfigured.surroundings
    return _) = _ at h
  cases hs : Settings.read [] World.misconfigured.surroundings with
  | ok s => exact Settings.read_misconfigured s hs
  | error e =>
    rw [hs] at h
    cases h

end EmitBridge
