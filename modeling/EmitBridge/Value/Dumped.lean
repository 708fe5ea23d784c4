import EmitBridge.Value.Members

/-! Values as engines receive them: records become mappings of what they hold, with unset fields
left out. -/

namespace EmitBridge

namespace Members

def camelCase : List Char → List Char
  | [] => []
  | '_' :: c :: rest => c.toUpper :: camelCase rest
  | c :: rest => c :: camelCase rest

def isSet : Value → Bool
  | .null => false
  | _ => true

def outward (es : Entries Value) : Entries Value :=
  (es.filter fun e => isSet e.2).map fun e =>
    (Text.ofString (String.ofList (camelCase e.1.toString.toList)), e.2)

end Members

namespace Value

mutual

def dumped : Value → Value
  | list items => list (dumpedItems items)
  | tuple items => tuple (dumpedItems items)
  | dict es => dict (dumpedEntries es)
  | compilerOptions o => dict (dumpedCompilerOptions o)
  | importMap m => dict (Members.outward (Members.importMap m))
  | bundleOptions o => dict (dumpedBundleOptions o)
  | transpileOptions o => dict (dumpedEmitOptions o)
  | configFile c => dict (dumpedConfigFile c)
  | serializedImportMap m =>
    dict [Members.field "baseUrl" (str m.baseUrl), Members.field "jsonString" (str m.jsonString)]
  | importMapDocument d =>
    dict (Members.outward [Members.field "imports" (ofOption ofSection d.imports),
      Members.field "scopes" (ofOption ofScopes d.scopes)])
  | response r => dict (Members.outward (Members.response r))
  | bundleEmit e =>
    dict (Members.outward [Members.field "code" (str e.code),
      Members.field "map" (ofOption str e.map)])
  | v => v

def dumpedItems : List Value → List Value
  | [] => []
  | v :: rest => dumped v :: dumpedItems rest

def dumpedEntries : List (Text × Value) → List (Text × Value)
  | [] => []
  | (name, v) :: rest => (name, dumped v) :: dumpedEntries rest

def dumpedOption : Option Value → Value
  | some v => dumped v
  | none => null

def dumpedDict : Option (List (Text × Value)) → Value
  | some es => dict (dumpedEntries es)
  | none => null

/-- Known options that are set come first, then all other ones that are not null. -/
def dumpedCompilerOptions : CompilerOptions Value → List (Text × Value)
  | ⟨checkJs, emitDecoratorMetadata, importsNotUsedAsValues, inlineSourceMap, inlineSources, jsx,
      jsxFactory, jsxFragmentFactory, jsxImportSource, sourceMap, extras⟩ =>
    Members.outward
      [Members.field "check_js" (ofOption bool checkJs),
        Members.field "emit_decorator_metadata" (ofOption bool emitDecoratorMetadata),
        Members.field "imports_not_used_as_values" (ofOption str importsNotUsedAsValues),
        Members.field "inline_source_map" (ofOption bool inlineSourceMap),
        Members.field "inline_sources" (ofOption bool inlineSources),
        Members.field "jsx" (ofOption str jsx),
        Members.field "jsx_factory" (ofOption str jsxFactory),
        Members.field "jsx_fragment_factory" (ofOption str jsxFragmentFactory),
        Members.field "jsx_import_source" (ofOption str jsxImportSource),
        Members.field "source_map" (ofOption bool sourceMap)]
      ++ (dumpedEntries extras).filter fun e => Members.isSet e.2

def dumpedSomeOptions : Option (CompilerOptions Value) → Value
  | some o => dict (dumpedCompilerOptions o)
  | none => null

def dumpedEmitOptions : EmitOptions Value → List (Text × Value)
  | ⟨source, imports, scopes, options, load, allowRemote, cacheRoot, setting⟩ =>
    Members.outward
      [Members.field "import_map" (match source with
          | some (.inline m) => dict (Members.outward (Members.importMap m))
          | source => ofOption ofImportMapSource source),
        Members.field "imports" (ofOption ofSection imports),
        Members.field "scopes" (ofOption ofScopes scopes),
        Members.field "compiler_options" (dumpedSomeOptions options),
        Members.field "load" (dumpedOption load),
        Members.field "allow_remote" (ofOption bool allowRemote),
        Members.field "cache_root" (ofOption Members.posixPath cacheRoot),
        Members.field "cache_setting" (ofOption cacheSetting setting)]

def dumpedBundleOptions : BundleOptions Value → List (Text × Value)
  | ⟨common, type, minify⟩ =>
    dumpedEmitOptions common
      ++ [Members.field "type" (bundleType type), Members.field "minify" (bool minify)]

def dumpedConfigFile : ConfigFile Value → List (Text × Value)
  | ⟨options, imports, scopes, location⟩ =>
    Members.outward
      [Members.field "compiler_options" (dumpedDict options),
        Members.field "imports" (ofOption ofSection imports),
        Members.field "scopes" (ofOption ofScopes scopes),
        Members.field "import_map" (ofOption str location)]

end

end Value

end EmitBridge
