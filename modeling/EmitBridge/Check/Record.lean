import EmitBridge.Check.Scalar

/-! Rules for records: each is read from a mapping of its fields, and a record of the same kind
passes as it is. -/

namespace EmitBridge.Check

def record {α : Type} (name : String) (same? : Value → Option α) (read : Entries Value → Checked α)
    (v : Value) : Checked α :=
  match same? v with
  | some a => pure a
  | none =>
    match v with
    | .dict es => read es
    | v => refuse (.record name) v

def mapSection (v : Value) : Checked Section := dict text v

def scopes (v : Value) : Checked Scopes := dict mapSection v

namespace Field

def baseUrl : Field := ⟨"base_url", "baseUrl"⟩

def jsonString : Field := ⟨"json_string", "jsonString"⟩

def imports : Field := plain "imports"

def scopes : Field := plain "scopes"

def importMap : Field := ⟨"import_map", "importMap"⟩

def compilerOptions : Field := ⟨"compiler_options", "compilerOptions"⟩

def load : Field := plain "load"

def allowRemote : Field := ⟨"allow_remote", "allowRemote"⟩

def cacheRoot : Field := ⟨"cache_root", "cacheRoot"⟩

def cacheSetting : Field := ⟨"cache_setting", "cacheSetting"⟩

def type : Field := plain "type"

def minify : Field := plain "minify"

def checkJs : Field := ⟨"check_js", "checkJs"⟩

def emitDecoratorMetadata : Field := ⟨"emit_decorator_metadata", "emitDecoratorMetadata"⟩

def importsNotUsedAsValues : Field := ⟨"imports_not_used_as_values", "importsNotUsedAsValues"⟩

def inlineSourceMap : Field := ⟨"inline_source_map", "inlineSourceMap"⟩

def inlineSources : Field := ⟨"inline_sources", "inlineSources"⟩

def jsx : Field := plain "jsx"

def jsxFactory : Field := ⟨"jsx_factory", "jsxFactory"⟩

def jsxFragmentFactory : Field := ⟨"jsx_fragment_factory", "jsxFragmentFactory"⟩

def jsxImportSource : Field := ⟨"jsx_import_source", "jsxImportSource"⟩

def sourceMap : Field := ⟨"source_map", "sourceMap"⟩

def kind : Field := plain "kind"

def specifier : Field := plain "specifier"

def headers : Field := plain "headers"

def content : Field := plain "content"

def code : Field := plain "code"

def map : Field := plain "map"

end Field

def compilerFields : List Field :=
  [.checkJs, .emitDecoratorMetadata, .importsNotUsedAsValues, .inlineSourceMap, .inlineSources,
    .jsx, .jsxFactory, .jsxFragmentFactory, .jsxImportSource, .sourceMap]

def readCompilerOptions (es : Entries Value) : Checked (CompilerOptions Value) :=
  (fun a b c d e f g h i j => ⟨a, b, c, d, e, f, g, h, i, j, extras compilerFields es⟩)
    <$> Field.checkJs.optional none (option boolean) es
    <*> Field.emitDecoratorMetadata.optional none (option boolean) es
    <*> Field.importsNotUsedAsValues.optional none (option text) es
    <*> Field.inlineSourceMap.optional none (option boolean) es
    <*> Field.inlineSources.optional none (option boolean) es
    <*> Field.jsx.optional none (option text) es
    <*> Field.jsxFactory.optional none (option text) es
    <*> Field.jsxFragmentFactory.optional none (option text) es
    <*> Field.jsxImportSource.optional none (option text) es
    <*> Field.sourceMap.optional none (option boolean) es

def compilerOptions : Value → Checked (CompilerOptions Value) :=
  record "CompilerOptions" (fun | .compilerOptions o => some o | _ => none) readCompilerOptions

def pathReading : String :=
  let ofText := "function-after[path_validator(), str]"
  let strict := "json-or-python[json=" ++ ofText ++ ",python=is-instance[Path]]"
  "lax-or-strict[lax=union[" ++ strict ++ "," ++ ofText ++ "],strict=" ++ strict ++ "]"

def urlReading : String :=
  let ofText := "chain[str,function-plain[URL()]]"
  "json-or-python[json=" ++ ofText ++ ",python=union[is-instance[URL]," ++ ofText ++ "]]"

def url (v : Value) : Checked Url :=
  match v with
  | .url u => pure u
  | v =>
    ((refuse .url v).under "is-instance[URL]").orElse
      (((text v).andThen fun _ => refuse .url v).under "chain[str,function-plain[URL()]]")

/-- A location is read as text, else as a path, else as an address. -/
def locationOr {α : Type} (ofText : Text → α) (ofPath : PosixPath → α) (ofUrl : Url → α)
    (v : Value) : Checked α :=
  (((text v).under "str").andThen fun t => pure (ofText t)).orElse
    ((((path v).under pathReading).andThen fun p => pure (ofPath p)).orElse
      (((url v).under urlReading).andThen fun u => pure (ofUrl u)))

def mapBase (v : Value) : Checked MapBase := locationOr .text .path .url v

def importMapFields : List Field := [.baseUrl, .imports, .scopes]

def readImportMap (es : Entries Value) : Checked ImportMap :=
  (fun a b c _ => ⟨a, b, c⟩)
    <$> Field.baseUrl.optional none (option mapBase) es
    <*> Field.imports.optional none (option mapSection) es
    <*> Field.scopes.optional none (option scopes) es
    <*> noExtras importMapFields es

def importMap : Value → Checked ImportMap :=
  record "ImportMap" (fun | .importMap m => some m | _ => none) readImportMap

def importMapSource (v : Value) : Checked ImportMapSource :=
  (((importMap v).under "ImportMap").andThen fun m => pure (.inline m)).orElse
    (locationOr .text .path .url v)

def load (v : Value) : Checked (Option Value) :=
  match v with
  | .null => pure none
  | v =>
    match v.callee? with
    | some _ => pure (some v)
    | none =>
      refuse (.custom ("load must be callable or provide a load() method, got " ++ v.typeName)) v

def emitFields : List Field :=
  [.importMap, .imports, .scopes, .compilerOptions, .load, .allowRemote, .cacheRoot, .cacheSetting]

def readEmitOptions (es : Entries Value) : Checked (EmitOptions Value) :=
  (fun a b c d e f g h => ⟨a, b, c, d, e, f, g, h⟩)
    <$> Field.importMap.optional none (option importMapSource) es
    <*> Field.imports.optional none (option mapSection) es
    <*> Field.scopes.optional none (option scopes) es
    <*> Field.compilerOptions.optional none (option compilerOptions) es
    <*> Field.load.optional none load es
    <*> Field.allowRemote.optional none (option boolean) es
    <*> Field.cacheRoot.optional none (option path) es
    <*> Field.cacheSetting.optional none (option cacheSetting) es

def bundleFields : List Field := emitFields ++ [.type, .minify]

def readBundleOptions (es : Entries Value) : Checked (BundleOptions Value) :=
  (fun a b c _ => ⟨a, b, c⟩)
    <$> readEmitOptions es
    <*> Field.type.optional .module bundleType es
    <*> Field.minify.optional false boolean es
    <*> noExtras bundleFields es

def bundleOptions : Value → Checked (BundleOptions Value) :=
  record "BundleOptions" (fun | .bundleOptions o => some o | _ => none) readBundleOptions

def readTranspileOptions (es : Entries Value) : Checked (EmitOptions Value) :=
  (fun a _ => a) <$> readEmitOptions es <*> noExtras emitFields es

def transpileOptions : Value → Checked (EmitOptions Value) :=
  record "TranspileOptions" (fun | .transpileOptions o => some o | _ => none) readTranspileOptions

def directoryText (v : Value) : Checked Text :=
  (text v).andThen fun t =>
    if t.points.getLast? == some (CodePoint.ofChar '/') then pure t
    else refuse (.custom ("base_url must end with '/': " ++ t.toString)) v

def readSerializedImportMap (es : Entries Value) : Checked SerializedImportMap :=
  SerializedImportMap.mk
    <$> Field.baseUrl.required directoryText es
    <*> Field.jsonString.required text es

def serializedImportMap : Value → Checked SerializedImportMap :=
  record "SerializedImportMap" (fun | .serializedImportMap m => some m | _ => none)
    readSerializedImportMap

def readImportMapDocument (es : Entries Value) : Checked ImportMapDocument :=
  ImportMapDocument.mk
    <$> Field.imports.optional none (option mapSection) es
    <*> Field.scopes.optional none (option scopes) es

def importMapDocument : Value → Checked ImportMapDocument :=
  record "ImportMapDocument" (fun | .importMapDocument d => some d | _ => none)
    readImportMapDocument

def readConfigFile (es : Entries Value) : Checked (ConfigFile Value) :=
  ConfigFile.mk
    <$> Field.compilerOptions.optional none (option (dict pure)) es
    <*> Field.imports.optional none (option mapSection) es
    <*> Field.scopes.optional none (option scopes) es
    <*> Field.importMap.optional none (option text) es

def configFile : Value → Checked (ConfigFile Value) :=
  record "ConfigFile" (fun | .configFile c => some c | _ => none) readConfigFile

def readBundleEmit (es : Entries Value) : Checked BundleEmit :=
  BundleEmit.mk
    <$> Field.code.required text es
    <*> Field.map.optional none (option text) es

def bundleEmit : Value → Checked BundleEmit :=
  record "BundleEmit" (fun | .bundleEmit e => some e | _ => none) readBundleEmit

end EmitBridge.Check
