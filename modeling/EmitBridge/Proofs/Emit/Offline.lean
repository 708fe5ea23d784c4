import EmitBridge.Proofs.Emit.StageOrder
import EmitBridge.Proofs.Load.Offline
import EmitBridge.Proofs.Location.Route
import EmitBridge.Proofs.Settings.Sources

/-! Calls that must not load remote modules. Whatever the engine asks for and wherever the import
map is, such a call makes no request to the network, and no remote specifier gets an answer. -/

namespace EmitBridge

open HostNames.AsciiOnly

open Run Event

namespace EmitOptions

def allowsRemote (o : EmitOptions Value) (s : Surroundings) : Checked Bool :=
  match o.allowRemote with
  | some allowed => .passed allowed
  | none => Settings.allowsRemote s

theorem bridge_offline {o : EmitOptions Value} {w : World} {b : Bridge} (hload : o.load = none)
    (hoff : o.allowsRemote w.surroundings = .passed false) (hb : o.bridge w = .ok b) :
    ∃ config, b = ⟨.fetch config⟩ ∧ config.allowRemote = false := by
  unfold bridge at hb
  rw [hload] at hb
  cases hs : Settings.read [] w.surroundings with
  | error e =>
    rw [hs] at hb
    cases hb
  | ok s =>
    rw [hs] at hb
    cases hb
    refine ⟨_, rfl, ?_⟩
    show o.allowRemote.getD s.allowRemote = false
    unfold allowsRemote at hoff
    cases ho : o.allowRemote with
    | some allowed =>
      rw [ho] at hoff
      cases hoff
      rfl
    | none =>
      rw [ho, Settings.allowsRemote_of_read hs] at hoff
      exact Checked.passed.inj hoff

end EmitOptions

namespace SerializedImportMap

variable {w : World} {config : FetchConfig}

theorem settingOf_cacheSetting (s : Option CacheSetting) :
    Bridge.settingOf (Value.ofOption Value.cacheSetting s) = .ok s := by
  cases s with
  | none => rfl
  | some s => cases s <;> rfl

def denied (specifier : String) : Failure := ofLoadFailure specifier (Fetch.denied specifier)

theorem outcome_fetch_of_remote [HostNames] (h : config.allowRemote = false) {specifier : String}
    (hr : Fetch.IsRemote specifier) (setting : Option CacheSetting) :
    (fetch w ⟨.fetch config⟩ (Value.ofOption Value.cacheSetting setting) specifier).outcome =
      .error (denied specifier) := by
  have hload : (Bridge.load w ⟨.fetch config⟩
      (fileRequest (Value.ofOption Value.cacheSetting setting) specifier)).outcome =
        .error (Fetch.denied specifier) :=
    Bridge.outcome_load_of_remote h hr (settingOf_cacheSetting setting)
  rw [fetch, outcome_span (loggable_specifier specifier), outcome_bind, outcome_mapFailure, hload]
  rfl

theorem outcome_build_of_remote [HostNames] (h : config.allowRemote = false) {source : Value}
    (hfile : IsFile source) {specifier : String} (hs : specifierOf w source = .ok specifier)
    (hr : Fetch.IsRemote specifier) (setting : Option CacheSetting) :
    (build w ⟨.fetch config⟩ (Value.ofOption Value.cacheSetting setting) source).outcome =
      .error (denied specifier) := by
  rw [build_of_file hfile, outcome_map, outcome_load, hs]
  show _ <$> ((fetch w _ _ specifier).outcome >>= _) = _
  rw [outcome_fetch_of_remote h hr]
  rfl

end SerializedImportMap

/-- A call without the network. The requests of its engine and what they come to are its exchanges;
the only other request is that for an import map. -/
structure Offline [HostNames] {α : Type} (w : World) (c : EmitCall) (r : Run α) : Prop where
  silent : ∀ context url, .requested url ∉ (r context).2
  exchanged : ∀ e, (c.validate w).outcome = .ok e → ∀ p : c.Resolution w, ∃ before,
    requests r.trace = before ++ ((e.script p.engineCall).exchanges w p.bridge).map Prod.fst ∧
      receipts r.trace =
        ((e.script p.engineCall).exchanges w p.bridge).filterMap fun x => x.2.toOption
  denied : ∀ e, (c.validate w).outcome = .ok e → ∀ p : c.Resolution w,
    ∀ x ∈ (e.script p.engineCall).exchanges w p.bridge, Fetch.IsRemote x.1.specifier →
      ∀ s, Bridge.settingOf x.1.cacheSetting = .ok s →
        ∃ f, x.2 = .error (.emit f) ∧ f.kind = .load ∧
          f.specifier? = some (.string x.1.specifier)
  answered : ∀ e, (c.validate w).outcome = .ok e → ∀ p : c.Resolution w,
    ∀ x ∈ (e.script p.engineCall).exchanges w p.bridge, ∀ m, x.2 = .ok (some m) →
      Fetch.IsElsewhere x.1.specifier
  importMap : ∀ e root url b source specifier, c.root.asText = .ok root →
    (c.validate w).outcome = .ok e → Location.toUrl w.cwd none c.root = .ok url →
    c.options.bridge w = .ok b → (EmitCall.importMapSource c.options).outcome = .ok source →
    SerializedImportMap.IsFile source →
    SerializedImportMap.specifierOf w source = .ok specifier → Fetch.IsRemote specifier →
      ∃ f, r.outcome = .error (.emit f) ∧ f.kind = .importMap ∧ f.cause = some "LoadError" ∧
        f.stage = some "resolving" ∧ f.specifier? = some (.string specifier)

namespace Offline

variable {α : Type} {w : World} {c : EmitCall} {shape : Value → Except Failure α}

theorem receipts_build [HostNames] (b : Bridge) (setting source : Value) :
    receipts (SerializedImportMap.build w b setting source).trace = [] := by
  by_cases h : SerializedImportMap.IsFile source
  · rw [SerializedImportMap.trace_build_of_file h, SerializedImportMap.trace_load]
    cases SerializedImportMap.specifierOf w source with
    | ok specifier => exact b.receipts_load _
    | error e => rfl
  · rw [SerializedImportMap.trace_build_of_not_file h]
    rfl

theorem outcome_run_of_denied [HostNames] {e : Engine} {root specifier : String} {url : Url}
    {b : Bridge} {source : Value} (hroot : c.root.asText = .ok root)
    (he : (c.validate w).outcome = .ok e) (hurl : Location.toUrl w.cwd none c.root = .ok url)
    (hb : c.options.bridge w = .ok b)
    (hsource : (EmitCall.importMapSource c.options).outcome = .ok source)
    (hdenied : (SerializedImportMap.build w b c.setting source).outcome =
      .error (SerializedImportMap.denied specifier)) :
    (c.run w shape).outcome =
      .error (EmitStage.resolving.mark (SerializedImportMap.denied specifier)) := by
  have hresolve : (c.resolve w).outcome = .error (SerializedImportMap.denied specifier) := by
    rw [EmitCall.resolve_eq, hurl, ofExcept_ok_bind, hb, ofExcept_ok_bind, outcome_bind, hsource]
    show (SerializedImportMap.build w b c.setting source >>= _).outcome = _
    rw [outcome_bind, hdenied]
    rfl
  have hresume : (c.resume w e).outcome =
      .error (EmitStage.resolving.mark (SerializedImportMap.denied specifier)) := by
    rw [EmitCall.resume, outcome_bind, EmitStage.outcome_run, hresolve]
    rfl
  have hrun : (c.run w shape).outcome = (c.resume w e).outcome >>= shape :=
    congrArg Prod.fst (EmitCall.report_run_of_valid hroot he)
  rw [hrun, hresume]
  rfl

theorem of_call [HostNames] (hload : c.options.load = none)
    (hoff : c.options.allowsRemote w.surroundings = .passed false) :
    Offline w c (c.run w shape) where
  silent := by
    have hrun : (c.run w shape).Only fun e => ∀ url, e ≠ .requested url := by
      refine EmitCall.only_run ?_ ?_ (fun _ _ => nofun) fun _ _ _ _ => nofun
      · rintro _ hinner url rfl
        exact hinner
      · rintro b hb ⟨config, hconfig, honline⟩
        obtain ⟨_, rfl, hoffline⟩ := EmitOptions.bridge_offline hload hoff hb
        cases hconfig
        rw [hoffline] at honline
        cases honline
    exact fun context url h => hrun.2 context _ h url rfl
  exchanged e he p := by
    refine ⟨requests (SerializedImportMap.build w p.bridge c.setting p.source).trace, ?_, ?_⟩
    · rw [StageOrder.trace_of_resolution he p, requests_append, ← EngineScript.requests_run]
      rfl
    · rw [StageOrder.trace_of_resolution he p, receipts_append, receipts_build,
        ← EngineScript.receipts_run]
      rfl
  denied e he p x hx hremote s hs := by
    obtain ⟨config, hbridge, hoffline⟩ := EmitOptions.bridge_offline hload hoff p.bridge_eq
    rw [EngineScript.outcome_of_mem_exchanges hx, hbridge,
      Bridge.outcome_load_of_remote hoffline hremote hs]
    exact ⟨_, rfl, rfl, rfl⟩
  answered e he p x hx m hm := by
    obtain ⟨config, hbridge, hoffline⟩ := EmitOptions.bridge_offline hload hoff p.bridge_eq
    rw [EngineScript.outcome_of_mem_exchanges hx, hbridge] at hm
    exact Bridge.isElsewhere_of_outcome_load hoffline hm
  importMap e root url b source specifier hroot he hurl hb hsource hfile hspecifier hremote := by
    obtain ⟨config, rfl, hoffline⟩ := EmitOptions.bridge_offline hload hoff hb
    have hdenied := SerializedImportMap.outcome_build_of_remote hoffline hfile hspecifier hremote
      c.options.cacheSetting
    exact ⟨_, outcome_run_of_denied hroot he hurl hb hsource hdenied, rfl, rfl, rfl, rfl⟩

end Offline

/-- Bundling and transpiling without a loader of their own stay off the network when neither options
nor settings let them load remote modules. -/
theorem offline_bundle_and_transpile [HostNames] (w : World) (engine : Option Engine)
    (root options : Value) :
    (∀ c, EmitCall.ofBundle engine root options = .ok c → c.options.load = none →
      c.options.allowsRemote w.surroundings = .passed false →
        Offline w c (bundle w engine root options)) ∧
    ∀ c, EmitCall.ofTranspile engine root options = .ok c → c.options.load = none →
      c.options.allowsRemote w.surroundings = .passed false →
        Offline w c (transpile w engine root options) := by
  refine ⟨fun c hc hload hoff => ?_, fun c hc hload hoff => ?_⟩
  · rw [bundle_eq, hc, ofExcept_ok_bind]
    exact Offline.of_call hload hoff
  · rw [transpile_eq, hc, ofExcept_ok_bind]
    exact Offline.of_call hload hoff

def World.unplugged : World :=
  { World.bare with surroundings := ⟨[("JSEMIT_ALLOW_REMOTE", "false")], none⟩ }

def Engine.remote : Engine where
  name := "Remote"
  script _ := .load ⟨"https://example.com/mod.ts", .bool true, .string "reload"⟩ fun outcome =>
    .done (outcome.map fun _ => .dict [])

theorem offline_by_environment : ∃ c d,
    EmitCall.ofBundle (some .remote) (.string "mod.ts") .null = .ok c ∧
    EmitCall.ofTranspile (some .remote) (.string "mod.ts") .null = .ok d ∧
    c.options.load.isNone ∧ d.options.load.isNone ∧
    Settings.allowsRemote World.unplugged.surroundings = .passed false ∧
    Offline .unplugged c (bundle .unplugged (some .remote) (.string "mod.ts") .null) ∧
    Offline .unplugged d (transpile .unplugged (some .remote) (.string "mod.ts") .null) := by
  have hoff : Settings.allowsRemote World.unplugged.surroundings = .passed false := by
    have htold : ((Settings.allowsRemote World.unplugged.surroundings).toExcept "").toOption =
        some false := by
      decide +kernel
    exact Checked.toExcept_eq_ok (Location.ok_of_toOption htold)
  obtain ⟨hb, ht⟩ :=
    offline_bundle_and_transpile .unplugged (some .remote) (.string "mod.ts") .null
  exact ⟨_, _, rfl, rfl, rfl, rfl, hoff, hb _ rfl rfl hoff, ht _ rfl rfl hoff⟩

end EmitBridge
