import EmitBridge.EmitError

/-! Calls with what they do on the way: log events, spans, loads, file reads, requests and engine
calls. -/

namespace EmitBridge

inductive Level
  | debug
  | info
  | warning
  | error
  | critical
deriving DecidableEq, Repr

namespace Level

def name : Level → String
  | debug => "debug"
  | info => "info"
  | warning => "warning"
  | error => "error"
  | critical => "critical"

def weight : Level → Nat
  | debug => 10
  | info => 20
  | warning => 30
  | error => 40
  | critical => 50

end Level

inductive SpanStatus
  | unset
  | ok
  | failed (message kind : String)
deriving DecidableEq, Repr

structure SpanRecord where
  name : String
  attributes : Entries Value
  status : SpanStatus

structure BundleShape where
  type : BundleType
  minify : Bool
deriving DecidableEq, Repr

structure EngineCall where
  root : String
  importMap : Option SerializedImportMap
  compilerOptions : Entries Value
  shape : Option BundleShape

structure BridgeRequest where
  specifier : String
  isDynamic : Value
  cacheSetting : Value

/-- What a call does. A span is listed where it begins. -/
inductive Event
  | logged (level : Level) (name : String) (fields : Entries Value)
  | span (s : SpanRecord)
  | asked (r : BridgeRequest)
  | loaderCalled (r : LoadRequest Value)
  | opened (path : String)
  | requested (url : String)
  | engineCalled (c : EngineCall)
  | engineReceived (r : Option LoadResponse)

/-- A part of a call: for the log fields that are bound around it, its outcome and what it does, in
order. -/
def Run (α : Type) : Type := Entries Value → Except Failure α × List Event

namespace Run

variable {α β : Type}

def done (a : α) : Run α := fun _ => (.ok a, [])

def fail (e : Failure) : Run α := fun _ => (.error e, [])

def andThen (x : Run α) (f : α → Run β) : Run β := fun context =>
  match x context with
  | (.error e, events) => (.error e, events)
  | (.ok a, events) => ((f a context).1, events ++ (f a context).2)

instance : Monad Run where
  pure := done
  bind := andThen

def ofExcept : Except Failure α → Run α
  | .ok a => done a
  | .error e => fail e

def rescue (x : Run α) (f : Failure → Run α) : Run α := fun context =>
  match x context with
  | (.ok a, events) => (.ok a, events)
  | (.error e, events) => ((f e context).1, events ++ (f e context).2)

def settled (x : Run α) : Run (Except Failure α) := fun context =>
  (.ok (x context).1, (x context).2)

def mapFailure (f : Failure → Failure) (x : Run α) : Run α := x.rescue fun e => fail (f e)

def record (e : Event) : Run Unit := fun _ => (.ok (), [e])

/-- The fields of an event together with those bound around it; the event's own ones win. -/
def withContext (context fields : Entries Value) : Entries Value :=
  fields ++ context.filter fun e => !fields.contains e.1

def log (level : Level) (name : String) (fields : Entries Value) : Run Unit := fun context =>
  (.ok (), [.logged level name (withContext context fields)])

def bound (fields : Entries Value) (x : Run α) : Run α := fun context =>
  x (withContext context fields)

def outcome (x : Run α) : Except Failure α := (x []).1

def events (x : Run α) : List Event := (x []).2

end Run

def logField (name : String) (v : Value) : Text × Value := (Text.ofString name, v)

end EmitBridge
