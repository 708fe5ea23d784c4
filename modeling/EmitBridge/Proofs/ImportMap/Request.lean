import EmitBridge.Proofs.Load.Effects

/-! The one request of an import map: an import map file is loaded by a single static request for
its canonical address, and no other import map needs one. -/

namespace EmitBridge

open Run Event

namespace SerializedImportMap

variable {w : World} {Q : Event → Prop}

def fileRequest (setting : Value) (specifier : String) : BridgeRequest :=
  ⟨specifier, .bool false, setting⟩

def specifierOf [HostNames] (w : World) (location : Value) : Except Failure String := do
  let url ← Location.toUrl w.cwd none location
  url.render.mapError Location.urlFailure

def IsFile : Value → Prop
  | .null => False
  | .importMap _ => False
  | _ => True

theorem loggable_specifier (specifier : String) :
    Loggable [logField "emit.import_map" (.string specifier)] := by
  intro e he
  rw [List.mem_singleton.mp he, logField, Text.toString_ofString]
  decide

def fetch [HostNames] (w : World) (b : Bridge) (setting : Value) (specifier : String) :
    Run (ImportMapDocument × Url) :=
  Run.span "import_map" [logField "emit.import_map" (.string specifier)] false true do
    let response ←
      (b.load w (fileRequest setting specifier)).mapFailure (ofLoadFailure specifier)
    Run.ofExcept (ofResponse w.nesting.importMap specifier response)

def conclude (specifier : String) (r : ImportMapDocument × Url) : Run SerializedImportMap := do
  let shown ← Run.ofExcept (r.2.parentDirectory.render.mapError Location.urlFailure)
  Run.log .debug "import_map_loaded"
    [logField "specifier" (.string specifier), logField "base_url" (.string shown)]
  Run.ofExcept (make r.2.parentDirectory r.1.imports r.1.scopes)

theorem load_eq [HostNames] (b : Bridge) (setting location : Value) :
    load w b setting location = (do
      let url ← Run.ofExcept (Location.toUrl w.cwd none location)
      let specifier ← Run.ofExcept (url.render.mapError Location.urlFailure)
      conclude specifier (← fetch w b setting specifier)) := rfl

theorem only_conclude (hlog : ∀ fields, Q (.logged .debug "import_map_loaded" fields))
    (specifier : String) (r : ImportMapDocument × Url) : (conclude specifier r).Only Q :=
  (only_ofExcept _).bind fun _ => (only_log hlog _).bind fun _ => only_ofExcept _

theorem only_fetch [HostNames] (hQ : ∀ e, e.IsInner → Q e) {b : Bridge}
    (hnet : b.IsOnline → ∀ url, Q (.requested url)) (setting : Value) (specifier : String) :
    (fetch w b setting specifier).Only Q := by
  refine Only.span (loggable_specifier specifier) (fun s hs => hQ (.span s) hs) ?_
    (((b.only_load hQ hnet _).mapFailure _).bind fun _ => only_ofExcept _)
  have hnames : ∀ suffix ∈ ["_started", "_completed", "_failed"],
      "import_map" ++ suffix ∈ innerNames := by
    decide
  exact fun suffix hs level fields => hQ (.logged level _ fields) (hnames suffix hs)

theorem trace_fetch [HostNames] (b : Bridge) (setting : Value) (specifier : String) :
    (fetch w b setting specifier).trace =
      (b.load w (fileRequest setting specifier)).trace := by
  rw [fetch, trace_span (loggable_specifier specifier),
    trace_bind_of_quiet _ fun _ => trace_ofExcept _, trace_mapFailure]

theorem only_load [HostNames] (hQ : ∀ e, e.IsInner → Q e) {b : Bridge}
    (hnet : b.IsOnline → ∀ url, Q (.requested url)) (setting location : Value) :
    (load w b setting location).Only Q := by
  have hlog : ∀ fields, Q (.logged .debug "import_map_loaded" fields) := fun fields =>
    hQ (.logged _ _ fields) (show "import_map_loaded" ∈ innerNames by decide)
  rw [load_eq]
  exact (only_ofExcept _).bind fun _ => (only_ofExcept _).bind fun specifier =>
    (only_fetch hQ hnet setting specifier).bind fun r => only_conclude hlog _ r

theorem trace_load [HostNames] (b : Bridge) (setting location : Value) :
    (load w b setting location).trace = match specifierOf w location with
      | .ok specifier => (b.load w (fileRequest setting specifier)).trace
      | .error _ => [] := by
  rw [load_eq, specifierOf]
  cases hu : Location.toUrl w.cwd none location with
  | error e => rfl
  | ok u =>
    rw [trace_bind_of_ok (outcome_ofExcept _), trace_ofExcept, List.nil_append]
    show _ = match u.render.mapError Location.urlFailure with | .ok _ => _ | .error _ => _
    cases hs : u.render.mapError Location.urlFailure with
    | error e => rfl
    | ok specifier =>
      rw [trace_bind_of_ok (outcome_ofExcept _), trace_ofExcept, List.nil_append,
        trace_bind_of_quiet _ fun r => (only_conclude (fun _ => rfl) _ r).trace_eq_nil, trace_fetch]

theorem build_of_file [HostNames] {source : Value} (h : IsFile source) (b : Bridge)
    (setting : Value) :
    build w b setting source = (some <$> load w b setting source) := by
  cases source <;> first | rfl | exact h.elim

theorem only_build [HostNames] (hQ : ∀ e, e.IsInner → Q e) {b : Bridge}
    (hnet : b.IsOnline → ∀ url, Q (.requested url)) (setting source : Value) :
    (build w b setting source).Only Q := by
  by_cases h : IsFile source
  · rw [build_of_file h]
    exact (only_load hQ hnet setting source).map _
  · cases source with
    | null => exact only_done _
    | importMap m => exact only_ofExcept _
    | _ => exact absurd trivial h

theorem trace_build_of_file [HostNames] {source : Value} (h : IsFile source) (b : Bridge)
    (setting : Value) :
    (build w b setting source).trace = (load w b setting source).trace := by
  rw [build_of_file h]
  exact trace_bind_of_quiet _ fun _ => rfl

theorem trace_build_of_not_file [HostNames] {source : Value} (h : ¬IsFile source) (b : Bridge)
    (setting : Value) : (build w b setting source).trace = [] := by
  cases source with
  | null => exact trace_done _
  | importMap m => exact trace_ofExcept _
  | _ => exact absurd trivial h

theorem engineCalls_build [HostNames] (b : Bridge) (setting source : Value) :
    engineCalls (build w b setting source).trace = [] := by
  by_cases h : IsFile source
  · rw [trace_build_of_file h, trace_load]
    cases specifierOf w source with
    | ok specifier => exact b.engineCalls_load _
    | error e => rfl
  · rw [trace_build_of_not_file h, engineCalls_nil]

theorem requests_build_length [HostNames] (b : Bridge) (setting source : Value) :
    (requests (build w b setting source).trace).length ≤ 1 := by
  by_cases h : IsFile source
  · rw [trace_build_of_file h, trace_load]
    cases specifierOf w source with
    | ok specifier => exact Nat.le_of_eq (congrArg List.length (b.requests_load _))
    | error e => exact Nat.zero_le 1
  · rw [trace_build_of_not_file h]
    exact Nat.zero_le 1

theorem outcome_load [HostNames] (b : Bridge) (setting location : Value) :
    (load w b setting location).outcome = (do
      let specifier ← specifierOf w location
      let r ← (fetch w b setting specifier).outcome
      (conclude specifier r).outcome) := by
  rw [load_eq, outcome_bind, outcome_ofExcept, specifierOf]
  cases Location.toUrl w.cwd none location with
  | error e => rfl
  | ok u =>
    show (Run.ofExcept (u.render.mapError Location.urlFailure) >>= fun specifier => _).outcome = _
    rw [outcome_bind, outcome_ofExcept]
    simp only [outcome_bind]
    rfl

theorem specifierOf_of_build [HostNames] {b : Bridge} {setting source : Value}
    {m : Option SerializedImportMap} (h : IsFile source)
    (hb : (build w b setting source).outcome = .ok m) :
    ∃ specifier, specifierOf w source = .ok specifier := by
  rw [build_of_file h, outcome_map, outcome_load] at hb
  cases hs : specifierOf w source with
  | ok specifier => exact ⟨specifier, rfl⟩
  | error e => rw [hs] at hb; cases hb

end SerializedImportMap

end EmitBridge
