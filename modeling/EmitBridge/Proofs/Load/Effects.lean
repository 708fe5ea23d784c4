import EmitBridge.Engine.Lookup
import EmitBridge.ImportMap.Resolve
import EmitBridge.Load.Bridge
import EmitBridge.Proofs.Run.Span

/-! Events of loads. A load through the bridge is one request, followed by what the loader does for
it: its call, files that it opens, addresses that it asks if it may, and log events of its own. -/

namespace EmitBridge

namespace Event

def IsLoaderWork : Event → Prop
  | loaderCalled _ | opened _ | requested _ => True
  | _ => False

def loadingNames : List String :=
  ["cache_metadata_ignored", "cache_hit", "remote_fetched", "load_request"]

def IsLoading : Event → Prop
  | loaderCalled _ | opened _ => True
  | logged _ name _ => name ∈ loadingNames
  | _ => False

def innerNames : List String :=
  loadingNames ++
    ["emit_stage", "engine_loaded", "import_map_ignored", "import_map_started",
      "import_map_completed", "import_map_failed", "import_map_loaded"]

def IsInner : Event → Prop
  | logged _ name _ => name ∈ innerNames
  | span s => s.name = "import_map"
  | requested _ => False
  | _ => True

theorem IsLoading.isInner {e : Event} (h : e.IsLoading) : e.IsInner := by
  cases e with
  | logged => exact List.mem_append_left _ h
  | span => exact h.elim
  | requested => exact h.elim
  | _ => trivial

theorem IsLoading.isLoaderWork {e : Event} (h : e.IsLoading) (heffect : e.isEffect = true) :
    e.IsLoaderWork := by
  cases e with
  | logged => cases heffect
  | loaderCalled => trivial
  | opened => trivial
  | _ => exact h.elim

def request? : Event → Option BridgeRequest
  | asked r => some r
  | _ => none

def loaderCall? : Event → Option (LoadRequest Value)
  | loaderCalled r => some r
  | _ => none

def engineCall? : Event → Option EngineCall
  | engineCalled c => some c
  | _ => none

def receipt? : Event → Option (Option LoadResponse)
  | engineReceived r => some r
  | _ => none

theorem IsLoaderWork.request? {e : Event} (h : e.IsLoaderWork) : e.request? = none := by
  cases e <;> first | rfl | exact h.elim

theorem IsLoaderWork.receipt? {e : Event} (h : e.IsLoaderWork) : e.receipt? = none := by
  cases e <;> first | rfl | exact h.elim

theorem IsLoaderWork.engineCall? {e : Event} (h : e.IsLoaderWork) : e.engineCall? = none := by
  cases e <;> first | rfl | exact h.elim

def requests (es : List Event) : List BridgeRequest := es.filterMap request?

def loaderCalls (es : List Event) : List (LoadRequest Value) := es.filterMap loaderCall?

def engineCalls (es : List Event) : List EngineCall := es.filterMap Event.engineCall?

def receipts (es : List Event) : List (Option LoadResponse) := es.filterMap receipt?

@[simp] theorem requests_nil : requests [] = [] := rfl

@[simp] theorem engineCalls_nil : engineCalls [] = [] := rfl

@[simp] theorem requests_append (es fs : List Event) :
    requests (es ++ fs) = requests es ++ requests fs := List.filterMap_append ..

@[simp] theorem receipts_append (es fs : List Event) :
    receipts (es ++ fs) = receipts es ++ receipts fs := List.filterMap_append ..

@[simp] theorem engineCalls_append (es fs : List Event) :
    engineCalls (es ++ fs) = engineCalls es ++ engineCalls fs := List.filterMap_append ..

theorem requests_of_loaderWork {es : List Event} (h : ∀ e ∈ es, e.IsLoaderWork) :
    requests es = [] := List.filterMap_eq_nil_iff.mpr fun e he => (h e he).request?

theorem receipts_of_loaderWork {es : List Event} (h : ∀ e ∈ es, e.IsLoaderWork) :
    receipts es = [] := List.filterMap_eq_nil_iff.mpr fun e he => (h e he).receipt?

theorem engineCalls_of_loaderWork {es : List Event} (h : ∀ e ∈ es, e.IsLoaderWork) :
    engineCalls es = [] := List.filterMap_eq_nil_iff.mpr fun e he => (h e he).engineCall?

end Event

open Run Event

variable {w : World} {Q : Event → Prop}

namespace Run

theorem only_readFile (hQ : ∀ e, e.IsLoading → Q e) (path : PosixPath) :
    (readFile w path).Only Q :=
  (only_record (hQ (.opened _) trivial)).bind fun _ => only_pure _

theorem only_readTextFile (hQ : ∀ e, e.IsLoading → Q e) (path : PosixPath) :
    (readTextFile w path).Only Q :=
  (only_record (hQ (.opened _) trivial)).bind fun _ => only_pure _

end Run

namespace Cache

theorem only_cachedModule (hQ : ∀ e, e.IsLoading → Q e) (path : PosixPath) (specifier : String)
    (content : Bytes) (told : Option (Entries Value)) :
    (cachedModule path specifier content told).Only Q := by
  unfold cachedModule
  split
  · exact only_done _
  · have hlog : ∀ fields, Q (.logged .debug "cache_metadata_ignored" fields) := fun fields =>
      hQ _ (show "cache_metadata_ignored" ∈ loadingNames by decide)
    exact (only_log hlog _).bind fun _ => only_pure _

theorem only_read (hQ : ∀ e, e.IsLoading → Q e) (root : CacheRoot) (specifier : String)
    (u : Url) : (read w root specifier u).Only Q := by
  refine (only_ofExcept _).bind fun path => (only_readFile hQ path).bind fun content => ?_
  split
  · exact only_pure _
  · exact only_fail _
  · refine (only_readTextFile hQ _).bind fun text => (only_ofExcept _).bind fun told => ?_
    exact (only_cachedModule hQ ..).map _

end Cache

namespace Http

theorem only_request (hnet : ∀ url, Q (.requested url)) (t : Target) :
    (request w t).Only Q := (only_record (hnet _)).bind fun _ => only_ofExcept _

theorem only_follow [HostNames] (hnet : ∀ url, Q (.requested url)) (n : Nat) (t : Target) :
    (follow w n t).Only Q := by
  induction n generalizing t with
  | zero => exact only_fail _
  | succ n ih =>
    refine (only_request hnet t).bind fun reply => ?_
    split
    · exact only_ofExcept _
    · exact (only_ofExcept _).bind fun next => (only_ofExcept _).bind fun _ => ih next

theorem only_get [HostNames] (hnet : ∀ url, Q (.requested url)) (address : String) :
    (Http.get w address).Only Q :=
  (only_ofExcept _).bind fun _ => (only_ofExcept _).bind fun t => only_follow hnet _ t

end Http

namespace Fetch

theorem only_file [HostNames] (hQ : ∀ e, e.IsLoading → Q e) (specifier : String) (u : Url) :
    (file w specifier u).Only Q := by
  refine (only_ofExcept _).bind fun path => (only_readFile hQ _).bind fun content => ?_
  split
  · exact only_pure _
  · split
    · exact only_pure _
    · exact only_fail _
  · exact only_fail _

theorem only_network [HostNames] (hQ : ∀ e, e.IsLoading → Q e) (hnet : ∀ url, Q (.requested url))
    (specifier : String) : (network w specifier).Only Q := by
  refine ((Http.only_get hnet specifier).mapFailure _).bind fun reply => ?_
  split
  · exact only_pure _
  · split
    · exact only_fail _
    · have hlog : ∀ fields, Q (.logged .debug "remote_fetched" fields) := fun fields =>
        hQ _ (show "remote_fetched" ∈ loadingNames by decide)
      exact (only_log hlog _).bind fun _ => only_pure _

theorem only_cached (hQ : ∀ e, e.IsLoading → Q e) (config : FetchConfig) (setting : CacheSetting)
    (specifier : String) (u : Url) : (cached w config setting specifier u).Only Q := by
  unfold cached
  split
  · exact only_done _
  · exact only_done _
  · exact Cache.only_read hQ ..

theorem only_remote [HostNames] (hQ : ∀ e, e.IsLoading → Q e) {config : FetchConfig}
    (hnet : config.allowRemote = true → ∀ url, Q (.requested url)) (setting : CacheSetting)
    (specifier : String) (u : Url) : (remote w config setting specifier u).Only Q := by
  unfold remote
  split
  · exact only_fail _
  · next hallowed =>
    have hremote : config.allowRemote = true := by simpa using hallowed
    refine (only_cached hQ config setting specifier u).bind fun found => ?_
    split
    · have hlog : ∀ fields, Q (.logged .debug "cache_hit" fields) := fun fields =>
        hQ _ (show "cache_hit" ∈ loadingNames by decide)
      exact (only_log hlog _).bind fun _ => only_pure _
    · split
      · exact only_pure _
      · exact only_network hQ (hnet hremote) specifier

theorem only_load [HostNames] (hQ : ∀ e, e.IsLoading → Q e) {config : FetchConfig}
    (hnet : config.allowRemote = true → ∀ url, Q (.requested url)) (specifier : String)
    (setting : Option CacheSetting) : (load w config specifier setting).Only Q := by
  refine (only_ofExcept _).bind fun u => ?_
  split
  · exact only_file hQ specifier u
  · split
    · exact only_pure _
    · split
      · exact only_remote hQ hnet ..
      · exact only_pure _

end Fetch

namespace Bridge

def IsOnline (b : Bridge) : Prop :=
  ∃ config, b.callee = .fetch config ∧ config.allowRemote = true

theorem only_ask [HostNames] (hQ : ∀ e, e.IsLoading → Q e) {b : Bridge}
    (hnet : b.IsOnline → ∀ url, Q (.requested url)) (r : LoadRequest Value) :
    (ask w b r).Only Q := by
  unfold ask
  split
  · exact (only_record (hQ (.loaderCalled _) trivial)).bind fun _ => only_ofExcept _
  · next config hconfig =>
    exact (Fetch.only_load hQ (fun hremote => hnet ⟨config, hconfig, hremote⟩) ..).map _

theorem only_answer (hlog : ∀ fields, Q (.logged .debug "load_request" fields))
    (r : LoadRequest Value) (v : Value) : (answer r v).Only Q :=
  (only_ofExcept _).bind fun _ => (only_ofExcept _).bind fun _ =>
    (only_log hlog _).bind fun _ => only_pure _

def reply [HostNames] (w : World) (b : Bridge) (r : BridgeRequest) : Run (Option LoadResponse) := do
  let r ← Run.ofExcept (accept r)
  answer r (← ask w b r)

theorem only_reply [HostNames] (hQ : ∀ e, e.IsLoading → Q e) {b : Bridge}
    (hnet : b.IsOnline → ∀ url, Q (.requested url)) (r : BridgeRequest) :
    (reply w b r).Only Q := by
  have hlog : ∀ fields, Q (.logged .debug "load_request" fields) := fun fields =>
    hQ _ (show "load_request" ∈ loadingNames by decide)
  exact (only_ofExcept _).bind fun _ => (only_ask hQ hnet _).bind fun _ => only_answer hlog ..

theorem load_eq_reply [HostNames] (b : Bridge) (r : BridgeRequest) :
    b.load w r = (do Run.record (.asked r); reply w b r) := rfl

theorem accept_of_setting {r : BridgeRequest} {s : Option CacheSetting}
    (h : settingOf r.cacheSetting = .ok s) : accept r = .ok ⟨r.specifier, r.isDynamic, s⟩ := by
  rw [accept, h]
  rfl

theorem accept_of_refused {r : BridgeRequest} {f : Failure}
    (h : settingOf r.cacheSetting = .error f) : accept r = .error f := by
  rw [accept, h]
  rfl

theorem load_of_accepted [HostNames] {b : Bridge} {context : Entries Value} {r : BridgeRequest}
    {lr : LoadRequest Value} (h : accept r = .ok lr) :
    b.load w r context =
      (((ask w b lr >>= answer lr) context).1,
        .asked r :: ((ask w b lr >>= answer lr) context).2) := by
  rw [load, bind_of_ok rfl, h]
  rfl

theorem load_of_refused [HostNames] {b : Bridge} {context : Entries Value} {r : BridgeRequest}
    {f : Failure} (h : accept r = .error f) :
    b.load w r context = (.error f, [.asked r]) := by
  rw [load, bind_of_ok rfl, h]
  rfl

theorem only_load [HostNames] (hQ : ∀ e, e.IsInner → Q e) {b : Bridge}
    (hnet : b.IsOnline → ∀ url, Q (.requested url)) (r : BridgeRequest) : (b.load w r).Only Q :=
  (only_record (hQ (.asked _) trivial)).bind fun _ =>
    only_reply (fun e he => hQ e he.isInner) hnet r

theorem steady_load [HostNames] (b : Bridge) (r : BridgeRequest) : (b.load w r).Steady :=
  (only_load (fun _ _ => trivial) (fun _ _ => trivial) r : (b.load w r).Only fun _ => True).1

theorem trace_load [HostNames] (b : Bridge) (r : BridgeRequest) :
    (b.load w r).trace = .asked r :: (reply w b r).trace := by
  rw [load_eq_reply, trace_bind_of_ok (outcome_record _), trace_record rfl]
  rfl

theorem isLoaderWork_of_mem_reply [HostNames] {b : Bridge} {r : BridgeRequest} {e : Event}
    (he : e ∈ (reply w b r).trace) : e.IsLoaderWork := by
  have hreply : (reply w b r).Only fun e => e.isEffect = true → e.IsLoaderWork :=
    only_reply (fun _ => IsLoading.isLoaderWork) (fun _ _ _ => trivial) r
  obtain ⟨heffect, hwork⟩ := hreply.of_mem_trace he
  exact hwork heffect

theorem requests_load [HostNames] (b : Bridge) (r : BridgeRequest) : requests (b.load w r).trace =
    [r] := by
  rw [trace_load]
  exact congrArg (r :: ·) (requests_of_loaderWork fun _ => isLoaderWork_of_mem_reply)

theorem receipts_load [HostNames] (b : Bridge) (r : BridgeRequest) : receipts (b.load w r).trace =
    [] := by
  rw [trace_load]
  have hreply : receipts (reply w b r).trace = [] :=
    receipts_of_loaderWork fun _ => isLoaderWork_of_mem_reply
  exact hreply

theorem engineCalls_load [HostNames] (b : Bridge) (r : BridgeRequest) :
    engineCalls (b.load w r).trace = [] := by
  rw [trace_load]
  have hreply : engineCalls (reply w b r).trace = [] :=
    engineCalls_of_loaderWork fun _ => isLoaderWork_of_mem_reply
  exact hreply

end Bridge

namespace EngineScript

theorem only_run [HostNames] (hQ : ∀ e, e.IsInner → Q e) {b : Bridge}
    (hnet : b.IsOnline → ∀ url, Q (.requested url)) (s : EngineScript) : (s.run w b).Only Q := by
  induction s with
  | done outcome => exact only_ofExcept outcome
  | load r next ih =>
    refine (Bridge.only_load hQ hnet r).settled.bind fun outcome => ?_
    cases outcome with
    | ok response =>
      exact (only_record (hQ (.engineReceived _) trivial)).bind fun _ => ih (.ok response)
    | error e => exact (only_done ()).bind fun _ => ih (.error e)

def exchanges [HostNames] (w : World) (b : Bridge) :
    EngineScript → List (BridgeRequest × Except Failure (Option LoadResponse))
  | done _ => []
  | load r next => (r, (b.load w r).outcome) :: exchanges w b (next (b.load w r).outcome)

theorem outcome_of_mem_exchanges [HostNames] {b : Bridge} {s : EngineScript}
    {x : BridgeRequest × Except Failure (Option LoadResponse)} (h : x ∈ s.exchanges w b) :
    x.2 = (b.load w x.1).outcome := by
  induction s with
  | done outcome => cases h
  | load r next ih =>
    rcases List.mem_cons.mp h with rfl | h
    · rfl
    · exact ih _ h

theorem trace_run_load [HostNames] (b : Bridge) (r : BridgeRequest)
    (next : Except Failure (Option LoadResponse) → EngineScript) :
    ((load r next).run w b).trace =
      (b.load w r).trace ++
        ((b.load w r).outcome.toOption.map Event.engineReceived).toList ++
          ((next (b.load w r).outcome).run w b).trace := by
  rw [run, trace_bind_of_ok (outcome_settled _), trace_settled, List.append_assoc]
  refine congrArg ((b.load w r).trace ++ ·) ?_
  cases (b.load w r).outcome with
  | ok response => rw [trace_bind_of_ok (outcome_record _), trace_record rfl]; rfl
  | error e => rw [trace_bind_of_ok (outcome_done _)]; rfl

theorem engineCalls_run [HostNames] (b : Bridge) (s : EngineScript) : engineCalls
    (s.run w b).trace = [] := by
  induction s with
  | done outcome => rw [run, trace_ofExcept, engineCalls_nil]
  | load r next ih =>
    rw [trace_run_load, engineCalls_append, engineCalls_append, Bridge.engineCalls_load, ih]
    cases (b.load w r).outcome <;> rfl

theorem requests_run [HostNames] (b : Bridge) (s : EngineScript) :
    requests (s.run w b).trace = (s.exchanges w b).map Prod.fst := by
  induction s with
  | done outcome => rw [run, trace_ofExcept]; rfl
  | load r next ih =>
    rw [trace_run_load, requests_append, requests_append, Bridge.requests_load, ih]
    cases h : (b.load w r).outcome <;> simp [exchanges, h] <;> rfl

theorem receipts_run [HostNames] (b : Bridge) (s : EngineScript) :
    receipts (s.run w b).trace = (s.exchanges w b).filterMap fun x => x.2.toOption := by
  induction s with
  | done outcome => rw [run, trace_ofExcept]; rfl
  | load r next ih =>
    rw [trace_run_load, receipts_append, receipts_append, Bridge.receipts_load, ih]
    cases h : (b.load w r).outcome <;> simp [exchanges, h] <;> rfl

end EngineScript

namespace Engine

theorem only_call [HostNames] (hQ : ∀ e, e.IsInner → Q e) {b : Bridge}
    (hnet : b.IsOnline → ∀ url, Q (.requested url)) (e : Engine) (c : EngineCall) :
    (e.call w b c).Only Q :=
  (only_record (hQ (.engineCalled _) trivial)).bind fun _ => (e.script c).only_run hQ hnet

theorem trace_call [HostNames] (b : Bridge) (e : Engine) (c : EngineCall) :
    (e.call w b c).trace = .engineCalled c :: ((e.script c).run w b).trace := by
  rw [call, trace_bind_of_ok (outcome_record _), trace_record rfl]
  rfl

theorem only_default (hlog : ∀ fields, Q (.logged .debug "engine_loaded" fields))
    (s : Settings) : (Engine.default w s).Only Q := by
  unfold Engine.default
  split
  · split
    · exact only_fail _
    · exact (only_ofExcept _).bind fun _ => (only_log hlog _).bind fun _ => only_pure _
  · exact only_fail _

end Engine

namespace ImportMap

theorem only_select (hlog : ∀ fields, Q (.logged .warning "import_map_ignored" fields))
    (source : Value) (inlined : Option ImportMap) : (select source inlined).Only Q := by
  unfold select
  split
  · exact only_done _
  · exact only_done _
  · exact (only_ofExcept _).bind fun _ => (only_log hlog _).bind fun _ => only_pure _

end ImportMap

end EmitBridge
