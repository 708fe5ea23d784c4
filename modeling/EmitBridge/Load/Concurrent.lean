import EmitBridge.Load.Bridge

/-! Requests that are under way together. In each turn the loads that need not wait any longer are
answered, in the order in which they were started. -/

namespace EmitBridge

namespace Bridge

/-- A load that was started: it waits for some turns, or has its outcome. -/
inductive Task
  | waiting (turns : Nat) (request : BridgeRequest)
  | finished (outcome : Except Failure (Option LoadResponse))

def turns (b : Bridge) (r : BridgeRequest) : Nat :=
  match b.callee, accept r with
  | .function f, .ok r =>
    if f.isAsync then (f.respond ⟨r.specifier, r.isDynamic.isTruthy, r.cacheSetting⟩).delay else 0
  | _, _ => 0

def start (b : Bridge) (r : BridgeRequest) : Task := .waiting (b.turns r) r

namespace Task

def step [HostNames] (w : World) (b : Bridge) (context : Entries Value) : Task → Task × List Event
  | waiting 0 r => let (outcome, events) := b.load w r context; (finished outcome, events)
  | waiting (n + 1) r => (waiting n r, [])
  | finished outcome => (finished outcome, [])

def stepAll [HostNames] (w : World) (b : Bridge) (context : Entries Value) :
    List Task → List Task × List Event
  | [] => ([], [])
  | t :: rest =>
    let (t, events) := t.step w b context
    let (rest, more) := stepAll w b context rest
    (t :: rest, events ++ more)

def run [HostNames] (w : World) (b : Bridge) (context : Entries Value) :
    Nat → List Task → List Task × List Event
  | 0, ts => (ts, [])
  | n + 1, ts =>
    let (ts, events) := stepAll w b context ts
    let (ts, more) := run w b context n ts
    (ts, events ++ more)

def outcome? : Task → Option (Except Failure (Option LoadResponse))
  | waiting .. => none
  | finished outcome => some outcome

end Task

def loadTogether [HostNames] (w : World) (b : Bridge) (rs : List BridgeRequest) :
    Run (List (Except Failure (Option LoadResponse))) := fun context =>
  let last := (rs.map b.turns).foldl max 0
  let (ts, events) := Task.run w b context (last + 1) (rs.map b.start)
  (.ok (ts.filterMap Task.outcome?), events)

end Bridge

end EmitBridge
