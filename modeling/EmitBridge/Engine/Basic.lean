import EmitBridge.Run.Basic

/-! Engines, and the modules in which they are found. An engine call is a script: it asks for one
module after another, each time with the outcome of the request before, until it ends. -/

namespace EmitBridge

inductive EngineScript
  | done (outcome : Except Failure Value)
  | load (r : BridgeRequest) (next : Except Failure (Option LoadResponse) → EngineScript)

structure Engine where
  name : String
  script : EngineCall → EngineScript

/-- What a name in a module stands for: an object with attributes, some of which fail when they are
read. If it has the methods of an engine, `calls` tells its kind and what they do. A class is called
to make an object of it. -/
structure Plugin where
  calls : Engine
  members : List (String × Except Failure Plugin)
  made? : Option (Except Failure Plugin)

/-- What comes of importing a module: the module, the kind of an import error, or whatever else its
code, or the import itself, fails with. -/
inductive Import
  | module (p : Plugin)
  | refused (kind : String)
  | broken (e : Failure)

namespace Plugin

def plain (members : List (String × Plugin)) : Plugin :=
  ⟨⟨"object", fun _ => .done (.ok .null)⟩, members.map fun m => (m.1, .ok m.2), none⟩

def nothing : Plugin := ⟨⟨"NoneType", fun _ => .done (.ok .null)⟩, [], none⟩

def methodNames : List String := ["bundle", "transpile"]

def methods : List (String × Plugin) := methodNames.map fun name => (name, plain [])

def engine (e : Engine) : Plugin := { plain methods with calls := e }

def classOf (made : Except Failure Plugin) (members : List (String × Plugin)) : Plugin :=
  { plain members with
    calls := ⟨"type", fun _ => .done (.ok .null)⟩
    made? := some made }

def engineClass (e : Except Failure Engine) : Plugin := classOf (engine <$> e) methods

def isNothing (p : Plugin) : Bool := p.calls.name == nothing.calls.name

/-- The methods of an engine are all there. An attribute that fails when it is read is a property of
the object's class, which is there without being read. -/
def isEngine (p : Plugin) : Bool :=
  methodNames.all fun name =>
    match p.members.lookup name with
    | some (.ok m) => !m.isNothing
    | some (.error _) => true
    | none => false

def made (p : Plugin) : Except Failure Plugin := p.made?.getD (.ok p)

def follow? (p : Plugin) : List String → Except Failure (Option Plugin)
  | [] => .ok (some p)
  | name :: rest =>
    match p.members.lookup name with
    | none => .ok none
    | some (.ok m) => follow? m rest
    | some (.error e) => .error e

end Plugin

end EmitBridge
