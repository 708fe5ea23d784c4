import EmitBridge.Value

/-! The fields of a record under their names, and the pairs that a value consists of. -/

namespace EmitBridge

namespace Members

def field (name : String) (v : Value) : Text × Value := (Text.ofString name, v)

def importMap (m : ImportMap) : Entries Value :=
  [field "base_url" (Value.ofOption Value.ofMapBase m.baseUrl),
    field "imports" (Value.ofOption Value.ofSection m.imports),
    field "scopes" (Value.ofOption Value.ofScopes m.scopes)]

def compilerOptions (o : CompilerOptions Value) : Entries Value :=
  [field "check_js" (Value.ofOption Value.bool o.checkJs),
    field "emit_decorator_metadata" (Value.ofOption Value.bool o.emitDecoratorMetadata),
    field "imports_not_used_as_values" (Value.ofOption Value.str o.importsNotUsedAsValues),
    field "inline_source_map" (Value.ofOption Value.bool o.inlineSourceMap),
    field "inline_sources" (Value.ofOption Value.bool o.inlineSources),
    field "jsx" (Value.ofOption Value.str o.jsx),
    field "jsx_factory" (Value.ofOption Value.str o.jsxFactory),
    field "jsx_fragment_factory" (Value.ofOption Value.str o.jsxFragmentFactory),
    field "jsx_import_source" (Value.ofOption Value.str o.jsxImportSource),
    field "source_map" (Value.ofOption Value.bool o.sourceMap)]

def posixPath (p : PosixPath) : Value := .path (.posix p)

def emitOptions (o : EmitOptions Value) : Entries Value :=
  [field "import_map" (Value.ofOption Value.ofImportMapSource o.importMap),
    field "imports" (Value.ofOption Value.ofSection o.imports),
    field "scopes" (Value.ofOption Value.ofScopes o.scopes),
    field "compiler_options" (Value.ofOption Value.compilerOptions o.compilerOptions),
    field "load" (o.load.getD .null),
    field "allow_remote" (Value.ofOption Value.bool o.allowRemote),
    field "cache_root" (Value.ofOption posixPath o.cacheRoot),
    field "cache_setting" (Value.ofOption Value.cacheSetting o.cacheSetting)]

def bundleOptions (o : BundleOptions Value) : Entries Value :=
  emitOptions o.common ++ [field "type" (.bundleType o.type), field "minify" (.bool o.minify)]

def configFile (c : ConfigFile Value) : Entries Value :=
  [field "compiler_options" (Value.ofOption Value.dict c.compilerOptions),
    field "imports" (Value.ofOption Value.ofSection c.imports),
    field "scopes" (Value.ofOption Value.ofScopes c.scopes),
    field "import_map" (Value.ofOption Value.str c.importMap)]

def response : LoadResponse → Entries Value
  | .module m =>
    [field "kind" (.string "module"), field "specifier" (.string m.specifier),
      field "headers" (Value.ofOption Value.ofSection m.headers),
      field "content" (Value.ofContent m.content)]
  | .external s => [field "kind" (.string "external"), field "specifier" (.string s)]
  | .builtIn s => [field "kind" (.string "builtIn"), field "specifier" (.string s)]

end Members

namespace Value

def members? : Value → Option (Entries Value)
  | compilerOptions o => some (Members.compilerOptions o)
  | importMap m => some (Members.importMap m)
  | bundleOptions o => some (Members.bundleOptions o)
  | transpileOptions o => some (Members.emitOptions o)
  | serializedImportMap m =>
    some [Members.field "base_url" (str m.baseUrl), Members.field "json_string" (str m.jsonString)]
  | importMapDocument d =>
    some [Members.field "imports" (ofOption ofSection d.imports),
      Members.field "scopes" (ofOption ofScopes d.scopes)]
  | configFile c => some (Members.configFile c)
  | response r => some (Members.response r)
  | bundleEmit e =>
    some [Members.field "code" (str e.code), Members.field "map" (ofOption str e.map)]
  | _ => none

def undeclared : Value → Entries Value
  | compilerOptions o => o.extras
  | _ => []

def items? : Value → Option (List Value)
  | list items => some items
  | tuple items => some items
  | bytes bs => some (bs.map fun b => int b.toNat)
  | dict es => some (es.map fun e => str e.1)
  | v =>
    match v.text? with
    | some t => some (t.points.map fun p => str ⟨[p]⟩)
    | none =>
      v.members?.map fun es => (es ++ v.undeclared).map fun e => tuple [str e.1, e.2]

end Value

end EmitBridge
