import EmitBridge.Failure

/-! The names that callers use, in the order in which they are listed, each with the part of the
package that defines it. -/

namespace EmitBridge.Catalog

def packageName : String := "jsemit"

def version : String := "0.1.0"

def parts : List (String × List String) :=
  [("emit", ["bundle", "transpile", "BundleEmit", "EmitStage"]),
    ("config",
      ["BundleOptions", "TranspileOptions", "CompilerOptions", "ImportMap", "CacheSetting",
        "BundleType", "EmitSettings"]),
    ("location", ["location_to_url"]),
    ("options", ["check_compiler_options"]),
    ("import_map", ["build_import_map", "SerializedImportMap"]),
    ("loader", ["LoadBridge", "Loader", "FetchLoader", "create_cache"]),
    ("responses", ["ModuleResponse", "ExternalResponse", "BuiltInResponse"]),
    ("engine", ["Engine", "load_engine"]),
    ("errors",
      ["EmitError", "ConfigError", "EngineNotFoundError", "LocationError", "ImportMapError",
        "LoadError", "EngineError"])]

def names : List String := parts.flatMap Prod.snd

inductive Entry
  | definition (part name : String)
  | version
  | names
deriving DecidableEq, Repr

def find (name : String) : Except Fault Entry :=
  match parts.find? fun p => p.2.contains name with
  | some p => .ok (.definition (packageName ++ "." ++ p.1) name)
  | none =>
    if name == "__version__" then .ok .version
    else if name == "__all__" then .ok .names
    else .error (.missingName packageName name)

end EmitBridge.Catalog
