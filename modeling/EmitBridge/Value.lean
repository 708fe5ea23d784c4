import EmitBridge.Failure

/-! Values that callers, loaders and engines hand over, before and after they are checked. -/

namespace EmitBridge

structure Answer (α : Type) where
  outcome : Except (FailureOf α) α
  delay : Nat

/-- A function that answers requests. It is told whether a request is dynamic by its truth alone,
and lets turns pass only if it is asynchronous. -/
structure LoaderFunction (α : Type) where
  isAsync : Bool
  respond : LoadRequest Bool → Answer α

inductive LoaderMember (α : Type)
  | absent
  | function (f : LoaderFunction α)
  | other

structure GivenLoader (α : Type) where
  typeName : String
  own : Option (LoaderFunction α)
  member : LoaderMember α

inductive LoaderOf (α : Type)
  | custom (g : GivenLoader α)
  | fetch (config : FetchConfig)

inductive CalleeOf (α : Type)
  | function (f : LoaderFunction α)
  | fetch (config : FetchConfig)

namespace LoaderOf

variable {α : Type}

/-- A function under the name `load` comes before the loader itself. -/
def callee? : LoaderOf α → Option (CalleeOf α)
  | custom ⟨_, _, .function f⟩ => some (.function f)
  | custom ⟨_, own, _⟩ => own.map .function
  | fetch config => some (.fetch config)

def own? : LoaderOf α → Option (CalleeOf α)
  | custom g => g.own.map .function
  | fetch _ => none

end LoaderOf

inductive Value
  | null
  | bool (b : Bool)
  | int (n : Int)
  | float (x : Float)
  | str (t : Text)
  | bytes (bs : Bytes)
  | list (items : List Value)
  | tuple (items : List Value)
  | dict (entries : List (Text × Value))
  | url (u : Url)
  | path (p : FilePath)
  | cacheSetting (s : CacheSetting)
  | bundleType (t : BundleType)
  | compilerOptions (o : CompilerOptions Value)
  | importMap (m : ImportMap)
  | bundleOptions (o : BundleOptions Value)
  | transpileOptions (o : EmitOptions Value)
  | serializedImportMap (m : SerializedImportMap)
  | importMapDocument (d : ImportMapDocument)
  | configFile (c : ConfigFile Value)
  | response (r : LoadResponse)
  | bundleEmit (e : BundleEmit)
  | object (attrs : List (Text × Value))
  | loader (l : LoaderOf Value)

abbrev Failure := FailureOf Value

abbrev Loader := LoaderOf Value

abbrev Callee := CalleeOf Value

instance : Inhabited Value := ⟨.null⟩

namespace Value

def string (s : String) : Value := str (Text.ofString s)

def ofOption {α : Type} (f : α → Value) : Option α → Value
  | some a => f a
  | none => null

def ofSection (s : Section) : Value := dict (s.map fun e => (e.1, str e.2))

def ofScopes (s : Scopes) : Value := dict (s.map fun e => (e.1, ofSection e.2))

def ofMapBase : MapBase → Value
  | .text t => str t
  | .path p => path (.posix p)
  | .url u => url u

def ofImportMapSource : ImportMapSource → Value
  | .inline m => importMap m
  | .text t => str t
  | .path p => path (.posix p)
  | .url u => url u

def ofContent : Content → Value
  | .bytes bs => bytes bs
  | .text t => str t

mutual

def ofJson : Json → Value
  | .null => null
  | .bool b => bool b
  | .int n => int n
  | .float x => float x
  | .str t => str t
  | .arr items => list (ofJsonItems items)
  | .obj members => dict (ofJsonMembers members)

def ofJsonItems : List Json → List Value
  | [] => []
  | v :: rest => ofJson v :: ofJsonItems rest

def ofJsonMembers : List (Text × Json) → List (Text × Value)
  | [] => []
  | (name, v) :: rest => (name, ofJson v) :: ofJsonMembers rest

end

def typeName : Value → String
  | null => "NoneType"
  | bool _ => "bool"
  | int _ => "int"
  | float _ => "float"
  | str _ => "str"
  | bytes _ => "bytes"
  | list _ => "list"
  | tuple _ => "tuple"
  | dict _ => "dict"
  | url _ => "URL"
  | path (.posix _) => "PosixPath"
  | path (.win32 _) => "PureWindowsPath"
  | cacheSetting _ => "CacheSetting"
  | bundleType _ => "BundleType"
  | compilerOptions _ => "CompilerOptions"
  | importMap _ => "ImportMap"
  | bundleOptions _ => "BundleOptions"
  | transpileOptions _ => "TranspileOptions"
  | serializedImportMap _ => "SerializedImportMap"
  | importMapDocument _ => "ImportMapDocument"
  | configFile _ => "ConfigFile"
  | response (.module _) => "ModuleResponse"
  | response (.external _) => "ExternalResponse"
  | response (.builtIn _) => "BuiltInResponse"
  | bundleEmit _ => "BundleEmit"
  | object _ => "EngineResult"
  | loader (.custom g) => g.typeName
  | loader (.fetch _) => "FetchLoader"

def text? : Value → Option Text
  | str t => some t
  | cacheSetting s => some s.text
  | bundleType t => some t.text
  | _ => none

def loadMember? : Value → Option Value
  | object attrs => attrs.lookup (Text.ofString "load")
  | compilerOptions o => o.extras.lookup (Text.ofString "load")
  | bundleOptions o => o.common.load
  | transpileOptions o => o.load
  | _ => none

def callee? : Value → Option Callee
  | loader l => l.callee?
  | v =>
    match v.loadMember? with
    | some (loader l) => l.own?
    | _ => none

def isTruthy : Value → Bool
  | null => false
  | bool b => b
  | int n => n != 0
  | float x => x != 0.0
  | str t => !t.isEmpty
  | bytes bs => !bs.isEmpty
  | list items => !items.isEmpty
  | tuple items => !items.isEmpty
  | dict entries => !entries.isEmpty
  | url u => !(u.authority.isEmpty && u.path.isEmpty && u.query.isEmpty && u.fragment.isEmpty)
  | _ => true

end Value

end EmitBridge
