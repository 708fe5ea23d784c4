import EmitBridge.World.Basic

/-! Finding the engine that a path names: a module, a colon, and names to follow in it. -/

namespace EmitBridge

namespace Plugin

def engine? (p : Plugin) : Except Failure (Option Engine) := do
  let o ← p.made
  return if o.isEngine then some o.calls else none

end Plugin

namespace Engine

inductive Missing
  | form
  | moduleName (name cause : String)
  | member (moduleName name : String)
  | notAnEngine
deriving DecidableEq, Repr

namespace Missing

def message (path : String) : Missing → String
  | form => "Engine path must have the form 'module:attribute', got " ++ Quoted.string path
  | moduleName name _ => "Cannot import engine module " ++ Quoted.string name
  | member m name =>
    "Engine module " ++ Quoted.string m ++ " has no attribute " ++ Quoted.string name
  | notAnEngine => Quoted.string path ++ " does not provide bundle() and transpile()"

def cause? : Missing → Option String
  | moduleName _ cause => some cause
  | member .. => some "AttributeError"
  | _ => none

def failure (path : String) (m : Missing) : Failure :=
  .emit
    { EmitError.engineNotFound (m.message path) (some (.string path)) with cause := m.cause? }

end Missing

def splitPath? (path : String) : Option (String × String) :=
  match Cut.first ':' path.toList with
  | (_, none) => none
  | (m, some names) =>
    if m.isEmpty || names.isEmpty then none else some (String.ofList m, String.ofList names)

def names (s : String) : List String := (Cut.all '.' s.toList).map String.ofList

def relativeModule (name : String) : Failure :=
  .fault (.raised .type
    ("the 'package' argument is required to perform a relative import for " ++ Quoted.string name))

def imported (w : World) (name : String) : Import :=
  if name.front == '.' then .broken (relativeModule name)
  else (w.plugins.lookup name).getD (.refused "ModuleNotFoundError")

def find (w : World) (path : String) : Except Failure Engine :=
  match splitPath? path with
  | none => .error (Missing.form.failure path)
  | some (m, member) =>
    match imported w m with
    | .refused kind => .error ((Missing.moduleName m kind).failure path)
    | .broken e => .error e
    | .module plugin => do
      match ← plugin.follow? (names member) with
      | none => .error ((Missing.member m member).failure path)
      | some target =>
        match ← target.engine? with
        | none => .error (Missing.notAnEngine.failure path)
        | some e => .ok e

def load (w : World) (path : String) : Run Engine := do
  let e ← Run.ofExcept (find w path)
  Run.log .debug "engine_loaded"
    [logField "path" (.string path), logField "engine" (.string e.name)]
  return e

def default (w : World) (s : Settings) : Run Engine :=
  match s.engine with
  | some path =>
    if path.isEmpty then Run.fail missingSetting else load w path
  | none => Run.fail missingSetting
where
  missingSetting : Failure :=
    .emit (EmitError.engineNotFound
      "No compiler engine configured; pass engine= or set JSEMIT_ENGINE" none)

end Engine

end EmitBridge
