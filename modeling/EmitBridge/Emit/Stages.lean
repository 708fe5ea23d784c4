import EmitBridge.Emit.Result
import EmitBridge.Engine.Lookup
import EmitBridge.ImportMap.Resolve
import EmitBridge.Load.Bridge
import EmitBridge.Options.Compiler

/-! Bundling and transpiling, in stages: options are checked and an engine is found, the root and
the import map are resolved, the engine is called once, and its result is shaped. A failure ends the
call in the stage in which it arises. -/

namespace EmitBridge

inductive EmitStage
  | validating
  | resolving
  | invoking
  | done
deriving DecidableEq, Repr

namespace EmitStage

def name : EmitStage → String
  | validating => "validating"
  | resolving => "resolving"
  | invoking => "invoking"
  | done => "done"

/-- Errors from stages before the engine is called are marked with their stage; those of the engine
stay untouched. -/
def marks : EmitStage → Bool
  | validating | resolving => true
  | invoking | done => false

def mark (s : EmitStage) (e : Failure) : Failure :=
  match e with
  | .emit e => if s.marks then .emit (e.during s.name) else .emit e
  | e => e

def run {α : Type} (s : EmitStage) (body : Run α) : Run α := do
  Run.log .debug "emit_stage" [logField "stage" (.string s.name)]
  body.mapFailure s.mark

end EmitStage

namespace BundleOptions

def ofValue (v : Value) : Except Failure (BundleOptions Value) :=
  match v with
  | .null => (Check.readBundleOptions []).toExcept "BundleOptions"
  | .bundleOptions o => .ok o
  | .dict es => (Check.readBundleOptions es).toExcept "BundleOptions"
  | v => .error (.fault (.notOptions "BundleOptions" v.typeName))

end BundleOptions

namespace EmitOptions

def ofValue (v : Value) : Except Failure (EmitOptions Value) :=
  match v with
  | .null => (Check.readTranspileOptions []).toExcept "TranspileOptions"
  | .transpileOptions o => .ok o
  | .dict es => (Check.readTranspileOptions es).toExcept "TranspileOptions"
  | v => .error (.fault (.notOptions "TranspileOptions" v.typeName))

def engineOptions (o : EmitOptions Value) : Entries Value :=
  match o.compilerOptions with
  | some c => c.toEngine
  | none => []

def bridge (w : World) (o : EmitOptions Value) : Except Failure Bridge :=
  match o.load with
  | some v => Bridge.ofValue v
  | none => do
    let s ← Settings.read [] w.surroundings
    return ⟨.fetch (FetchConfig.create o.cacheRoot o.cacheSetting o.allowRemote s)⟩

end EmitOptions

structure EmitCall where
  root : Value
  options : EmitOptions Value
  shape : Option BundleShape
  engine : Option Engine

namespace EmitCall

structure Resolved where
  root : Url
  bridge : Bridge
  importMap : Option SerializedImportMap

def validate (w : World) (c : EmitCall) : Run Engine := do
  Run.ofExcept (CompilerOptions.check c.options.compilerOptions)
  match c.engine with
  | some e => return e
  | none => Engine.default w (← Run.ofExcept (Settings.read [] w.surroundings))

def importMapSource (o : EmitOptions Value) : Run Value :=
  ImportMap.select (Value.ofOption Value.ofImportMapSource o.importMap)
    (ImportMap.inline? o.imports o.scopes)

def resolve [HostNames] (w : World) (c : EmitCall) : Run Resolved := do
  let root ← Run.ofExcept (Location.toUrl w.cwd none c.root)
  let bridge ← Run.ofExcept (c.options.bridge w)
  let source ← importMapSource c.options
  let importMap ← SerializedImportMap.build w bridge
    (Value.ofOption Value.cacheSetting c.options.cacheSetting) source
  return ⟨root, bridge, importMap⟩

def invoke [HostNames] (w : World) (c : EmitCall) : Run Value := do
  let engine ← EmitStage.validating.run (c.validate w)
  let r ← EmitStage.resolving.run (c.resolve w)
  let root ← Run.ofExcept (r.root.render.mapError Location.urlFailure)
  EmitStage.invoking.run
    (engine.call w r.bridge ⟨root, r.importMap, c.options.engineOptions, c.shape⟩)

def operationName (c : EmitCall) : String := if c.shape.isSome then "bundle" else "transpile"

def run [HostNames] {α : Type} (w : World) (c : EmitCall) (shape : Value → Except Failure α) :
    Run α := do
  let root ← Run.ofExcept (c.root.asText.mapError Location.urlFailure)
  Run.operation
    ⟨c.operationName, some root, c.shape.map fun s => s.type.text,
      some c.options.hasImportMap⟩ do
    let raw ← c.invoke w
    EmitStage.done.run (Run.ofExcept (shape raw))

end EmitCall

def bundle [HostNames] (w : World) (engine : Option Engine) (root options : Value) :
    Run BundleEmit := do
  let o ← Run.ofExcept (BundleOptions.ofValue options)
  EmitCall.run w ⟨root, o.common, some ⟨o.type, o.minify⟩, engine⟩ BundleEmit.ofValue

def transpile [HostNames] (w : World) (engine : Option Engine) (root options : Value) :
    Run Value.Pairs := do
  let o ← Run.ofExcept (EmitOptions.ofValue options)
  EmitCall.run w ⟨root, o, none, engine⟩ Value.pairs

end EmitBridge
