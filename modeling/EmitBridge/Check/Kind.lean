import EmitBridge.Check.Response

/-! The kinds of records: reading a record of a kind, and changing a field of one. -/

namespace EmitBridge

inductive RecordKind
  | compilerOptions
  | importMap
  | bundleOptions
  | transpileOptions
  | serializedImportMap
  | importMapDocument
  | configFile
  | moduleResponse
  | externalResponse
  | builtInResponse
  | bundleEmit
deriving DecidableEq, Repr

namespace RecordKind

def name : RecordKind → String
  | compilerOptions => "CompilerOptions"
  | importMap => "ImportMap"
  | bundleOptions => "BundleOptions"
  | transpileOptions => "TranspileOptions"
  | serializedImportMap => "SerializedImportMap"
  | importMapDocument => "ImportMapDocument"
  | configFile => "ConfigFile"
  | moduleResponse => "ModuleResponse"
  | externalResponse => "ExternalResponse"
  | builtInResponse => "BuiltInResponse"
  | bundleEmit => "BundleEmit"

def check (k : RecordKind) (v : Value) : Checked Value :=
  match k with
  | compilerOptions => Value.compilerOptions <$> Check.compilerOptions v
  | importMap => Value.importMap <$> Check.importMap v
  | bundleOptions => Value.bundleOptions <$> Check.bundleOptions v
  | transpileOptions => Value.transpileOptions <$> Check.transpileOptions v
  | serializedImportMap => Value.serializedImportMap <$> Check.serializedImportMap v
  | importMapDocument => Value.importMapDocument <$> Check.importMapDocument v
  | configFile => Value.configFile <$> Check.configFile v
  | moduleResponse => (fun m => Value.response (.module m)) <$> Check.moduleResponse v
  | externalResponse => (fun s => Value.response (.external s)) <$> Check.externalResponse v
  | builtInResponse => (fun s => Value.response (.builtIn s)) <$> Check.builtInResponse v
  | bundleEmit => Value.bundleEmit <$> Check.bundleEmit v

def read (k : RecordKind) (v : Value) : Except Failure Value := (k.check v).toExcept k.name

def changeable? : RecordKind → Option (List String)
  | importMapDocument => some ["imports", "scopes"]
  | configFile => some ["compiler_options", "imports", "scopes", "import_map"]
  | _ => none

def isOutside (name : String) : Bool := name.front == '_'

def assign (k : RecordKind) (field : String) (v : Value) : Except Failure Unit :=
  if isOutside field then .ok ()
  else match k.changeable? with
    | none => .error (.invalid k.name [(Check.violation .frozen v).under field])
    | some fields =>
      if fields.contains field then .ok () else .error (.fault (.noField k.name field))

end RecordKind

end EmitBridge
