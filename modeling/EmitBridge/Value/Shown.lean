import EmitBridge.Value

/-! Values as messages and logs show them: text as it is or in quotes, records with their field
names. -/

namespace EmitBridge

namespace Url

def shown (u : Url) : String :=
  match u.render with
  | .ok s => s
  | .error _ => String.ofList (unsplit u.scheme.toList u.authority.toList u.path.toList
      u.query.toList u.fragment.toList)

end Url

namespace Shown

def truth (b : Bool) : String := if b then "True" else "False"

def nothing : String := "None"

def option {α : Type} (f : α → String) : Option α → String
  | some a => f a
  | none => nothing

def listed (items : List String) : String := "[" ++ String.intercalate ", " items ++ "]"

def tuple : List String → String
  | [item] => "(" ++ item ++ ",)"
  | items => "(" ++ String.intercalate ", " items ++ ")"

def entry (e : Text × String) : String := Quoted.text e.1 ++ ": " ++ e.2

def dict (entries : List (Text × String)) : String :=
  "\x7b" ++ String.intercalate ", " (entries.map entry) ++ "\x7d"

def mapSection (s : Section) : String := dict (s.map fun e => (e.1, Quoted.text e.2))

def scopes (s : Scopes) : String := dict (s.map fun e => (e.1, mapSection e.2))

def url (u : Url) : String := "URL('" ++ u.shown ++ "')"

def posixPath (p : PosixPath) : String := "PosixPath(" ++ Quoted.string p.toString ++ ")"

def filePath : FilePath → String
  | .posix p => posixPath p
  | .win32 p => "PureWindowsPath(" ++ Quoted.string (String.ofList p.toPosixChars) ++ ")"

def cacheSetting (s : CacheSetting) : String :=
  "<CacheSetting." ++ s.name ++ ": '" ++ s.text ++ "'>"

def bundleType (t : BundleType) : String :=
  "<BundleType." ++ t.name ++ ": '" ++ t.text ++ "'>"

abbrev Fields := List (String × String)

def field (f : String × String) : String := f.1 ++ "=" ++ f.2

def plain (fs : Fields) : String := String.intercalate " " (fs.map field)

def called (name : String) (fs : Fields) : String :=
  name ++ "(" ++ String.intercalate ", " (fs.map field) ++ ")"

def importMapFields (m : ImportMap) : Fields :=
  [("base_url", option (fun b => match b with
      | .text t => Quoted.text t
      | .path p => posixPath p
      | .url u => url u) m.baseUrl),
    ("imports", option mapSection m.imports),
    ("scopes", option scopes m.scopes)]

def importMapSource : ImportMapSource → String
  | .inline m => called "ImportMap" (importMapFields m)
  | .text t => Quoted.text t
  | .path p => posixPath p
  | .url u => url u

def responseFields : LoadResponse → Fields
  | .module m =>
    [("kind", "'module'"), ("specifier", Quoted.string m.specifier),
      ("headers", option mapSection m.headers),
      ("content", match m.content with
        | .bytes bs => Quoted.bytes bs
        | .text t => Quoted.text t)]
  | .external s => [("kind", "'external'"), ("specifier", Quoted.string s)]
  | .builtIn s => [("kind", "'builtIn'"), ("specifier", Quoted.string s)]

end Shown

namespace Value

mutual

def quoted : Value → String
  | null => Shown.nothing
  | bool b => Shown.truth b
  | int n => toString n
  | float x => FloatText.render x
  | str t => Quoted.text t
  | bytes bs => Quoted.bytes bs
  | list items => Shown.listed (quotedItems items)
  | tuple items => Shown.tuple (quotedItems items)
  | dict entries => Shown.dict (quotedEntries entries)
  | url u => Shown.url u
  | path p => Shown.filePath p
  | cacheSetting s => Shown.cacheSetting s
  | bundleType t => Shown.bundleType t
  | compilerOptions o => Shown.called "CompilerOptions" (compilerFields o)
  | importMap m => Shown.called "ImportMap" (Shown.importMapFields m)
  | bundleOptions o => Shown.called "BundleOptions" (bundleFields o)
  | transpileOptions o => Shown.called "TranspileOptions" (emitFields o)
  | serializedImportMap m =>
    Shown.called "SerializedImportMap"
      [("base_url", Quoted.text m.baseUrl), ("json_string", Quoted.text m.jsonString)]
  | importMapDocument d =>
    Shown.called "ImportMapDocument"
      [("imports", Shown.option Shown.mapSection d.imports),
        ("scopes", Shown.option Shown.scopes d.scopes)]
  | configFile c => Shown.called "ConfigFile" (configFields c)
  | response r => Shown.called (response r).typeName (Shown.responseFields r)
  | bundleEmit e =>
    Shown.called "BundleEmit"
      [("code", Quoted.text e.code), ("map", Shown.option Quoted.text e.map)]
  | object attrs => Shown.called "EngineResult" (quotedAttrs attrs)
  | loader l => "<" ++ (loader l).typeName ++ ">"

def quotedItems : List Value → List String
  | [] => []
  | v :: rest => quoted v :: quotedItems rest

def quotedEntries : List (Text × Value) → List (Text × String)
  | [] => []
  | (name, v) :: rest => (name, quoted v) :: quotedEntries rest

def quotedAttrs : List (Text × Value) → List (String × String)
  | [] => []
  | (name, v) :: rest => (name.toString, quoted v) :: quotedAttrs rest

def quotedOption : Option Value → String
  | some v => quoted v
  | none => Shown.nothing

def quotedDict : Option (List (Text × Value)) → String
  | some es => Shown.dict (quotedEntries es)
  | none => Shown.nothing

def compilerFields : CompilerOptions Value → Shown.Fields
  | ⟨checkJs, emitDecoratorMetadata, importsNotUsedAsValues, inlineSourceMap, inlineSources, jsx,
      jsxFactory, jsxFragmentFactory, jsxImportSource, sourceMap, extras⟩ =>
    [("check_js", Shown.option Shown.truth checkJs),
      ("emit_decorator_metadata", Shown.option Shown.truth emitDecoratorMetadata),
      ("imports_not_used_as_values", Shown.option Quoted.text importsNotUsedAsValues),
      ("inline_source_map", Shown.option Shown.truth inlineSourceMap),
      ("inline_sources", Shown.option Shown.truth inlineSources),
      ("jsx", Shown.option Quoted.text jsx),
      ("jsx_factory", Shown.option Quoted.text jsxFactory),
      ("jsx_fragment_factory", Shown.option Quoted.text jsxFragmentFactory),
      ("jsx_import_source", Shown.option Quoted.text jsxImportSource),
      ("source_map", Shown.option Shown.truth sourceMap)] ++ quotedAttrs extras

def quotedCompilerOptions : Option (CompilerOptions Value) → String
  | some o => Shown.called "CompilerOptions" (compilerFields o)
  | none => Shown.nothing

def emitFields : EmitOptions Value → Shown.Fields
  | ⟨source, imports, scopes, options, load, allowRemote, cacheRoot, setting⟩ =>
    [("import_map", Shown.option Shown.importMapSource source),
      ("imports", Shown.option Shown.mapSection imports),
      ("scopes", Shown.option Shown.scopes scopes),
      ("compiler_options", quotedCompilerOptions options),
      ("load", quotedOption load),
      ("allow_remote", Shown.option Shown.truth allowRemote),
      ("cache_root", Shown.option Shown.posixPath cacheRoot),
      ("cache_setting", Shown.option Shown.cacheSetting setting)]

def bundleFields : BundleOptions Value → Shown.Fields
  | ⟨common, type, minify⟩ =>
    emitFields common ++ [("type", Shown.bundleType type), ("minify", Shown.truth minify)]

def configFields : ConfigFile Value → Shown.Fields
  | ⟨options, imports, scopes, location⟩ =>
    [("compiler_options", quotedDict options),
      ("imports", Shown.option Shown.mapSection imports),
      ("scopes", Shown.option Shown.scopes scopes),
      ("import_map", Shown.option Quoted.text location)]

end

def shown : Value → String
  | str t => t.toString
  | url u => u.shown
  | path p => p.toString
  | cacheSetting s => "CacheSetting." ++ s.name
  | bundleType t => "BundleType." ++ t.name
  | compilerOptions o => Shown.plain (compilerFields o)
  | importMap m => Shown.plain (Shown.importMapFields m)
  | bundleOptions o => Shown.plain (bundleFields o)
  | transpileOptions o => Shown.plain (emitFields o)
  | serializedImportMap m =>
    Shown.plain [("base_url", Quoted.text m.baseUrl), ("json_string", Quoted.text m.jsonString)]
  | importMapDocument d =>
    Shown.plain [("imports", Shown.option Shown.mapSection d.imports),
      ("scopes", Shown.option Shown.scopes d.scopes)]
  | configFile c => Shown.plain (configFields c)
  | response r => Shown.plain (Shown.responseFields r)
  | bundleEmit e =>
    Shown.plain [("code", Quoted.text e.code), ("map", Shown.option Quoted.text e.map)]
  | v => v.quoted

end Value

def Value.shownUrl? : Value → Option Url
  | .url u => some u
  | .importMap ⟨some (.url u), _, _⟩ => some u
  | _ => none

/-- The value as text. An address whose service number cannot be read has none. -/
def Value.asText (v : Value) : Except UrlError String :=
  match v.shownUrl? with
  | some u => u.render.map fun _ => v.shown
  | none => .ok v.shown

end EmitBridge
