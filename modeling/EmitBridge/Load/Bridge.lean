import EmitBridge.Load.Fetch

/-! The bridge between an engine and a loader. A request passes to the loader with its cache setting
checked, and its answer comes back as a response whose content is bytes. Every module that an engine
asks for comes to it through the bridge. -/

namespace EmitBridge

structure Bridge where
  callee : Callee

namespace Bridge

def ofValue (v : Value) : Except Failure Bridge :=
  match v.callee? with
  | some c => .ok ⟨c⟩
  | none => .error (.fault (.notALoader v.typeName))

def settingOf (v : Value) : Except Failure (Option CacheSetting) :=
  match v with
  | .null => .ok none
  | v =>
    match v.text?.bind CacheSetting.ofText? with
    | some s => .ok (some s)
    | none => .error (.fault (.notASetting v.quoted))

def accept (r : BridgeRequest) : Except Failure (LoadRequest Value) := do
  return ⟨r.specifier, r.isDynamic, ← settingOf r.cacheSetting⟩

def ask [HostNames] (w : World) (b : Bridge) (r : LoadRequest Value) : Run Value :=
  match b.callee with
  | .function f => do
    Run.record (.loaderCalled r)
    Run.ofExcept (f.respond ⟨r.specifier, r.isDynamic.isTruthy, r.cacheSetting⟩).outcome
  | .fetch config =>
    Value.ofOption Value.response <$> Fetch.load w config r.specifier r.cacheSetting

def answerFields (r : LoadRequest Value) (answer : Option LoadResponse) : Entries Value :=
  [logField "specifier" (.string r.specifier), logField "is_dynamic" r.isDynamic,
    logField "cache_setting" (Value.ofOption (fun s => .string s.text) r.cacheSetting),
    logField "kind" (Value.ofOption (fun a => .string a.kind) answer)]

def answer (r : LoadRequest Value) (v : Value) : Run (Option LoadResponse) := do
  let response ← Run.ofExcept (LoadResponse.ofValue r.specifier v)
  let response ← Run.ofExcept (response.mapM LoadResponse.withBytes)
  Run.log .debug "load_request" (answerFields r response)
  return response

def load [HostNames] (w : World) (b : Bridge) (r : BridgeRequest) : Run (Option LoadResponse) := do
  Run.record (.asked r)
  let r ← Run.ofExcept (accept r)
  answer r (← ask w b r)

def loadAll [HostNames] (w : World) (b : Bridge) :
    List BridgeRequest → Run (List (Except Failure (Option LoadResponse)))
  | [] => Run.done []
  | r :: rest => do
    let outcome ← (b.load w r).settled
    return outcome :: (← loadAll w b rest)

end Bridge

namespace EngineScript

def run [HostNames] (w : World) (b : Bridge) : EngineScript → Run Value
  | done outcome => Run.ofExcept outcome
  | load r next => do
    let outcome ← (b.load w r).settled
    match outcome with
    | .ok response => Run.record (.engineReceived response)
    | .error _ => Run.done ()
    run w b (next outcome)

end EngineScript

def Engine.call [HostNames] (w : World) (b : Bridge) (e : Engine) (c : EngineCall) : Run Value := do
  Run.record (.engineCalled c)
  (e.script c).run w b

end EmitBridge
