import EmitBridge.ImportMap.Serialized
import EmitBridge.Load.Bridge
import EmitBridge.Run.Span

/-! Choosing the one import map source of a call, and making the import map for the engine from it.
An import map file is loaded through the bridge, by one request. -/

namespace EmitBridge

namespace ImportMap

def inline? (imports : Option Section) (scopes : Option Scopes) : Option ImportMap :=
  if imports.isNone && scopes.isNone then none else some ⟨none, imports, scopes⟩

def readInline? (imports scopes : Value) : Except Failure (Option ImportMap) :=
  match imports, scopes with
  | .null, .null => .ok none
  | imports, scopes =>
    some <$> (Check.readImportMap
      [(Text.ofString "imports", imports), (Text.ofString "scopes", scopes)]).toExcept "ImportMap"

/-- The source that counts: inline sections before any other source, which is then passed over with
a warning. -/
def select (source : Value) (inlined : Option ImportMap) : Run Value :=
  match inlined, source with
  | none, source => Run.done source
  | some m, .null => Run.done (.importMap m)
  | some m, source => do
    let text ← Run.ofExcept (source.asText.mapError Location.urlFailure)
    Run.log .warning "import_map_ignored"
      [logField "reason" (.string "inline imports/scopes take precedence"),
        logField "import_map" (.string text)]
    return .importMap m

end ImportMap

namespace SerializedImportMap

/-- A failure to load an import map. One that tells of an import map already stays as it is. -/
def ofLoadFailure (specifier : String) (e : Failure) : Failure :=
  match e with
  | .emit ⟨.importMap, _, _, _, _, _⟩ => e
  | e =>
    failure specifier ("Failed to load import map " ++ specifier ++ ": " ++ e.message)
      (some e.name)

def ofResponse [HostNames] (room : Nat) (specifier : String) (response : Option LoadResponse) :
    Except Failure (ImportMapDocument × Url) :=
  match response with
  | none => .error (failure specifier ("Import map not found: " ++ specifier) none)
  | some (.module m) =>
    match ImportMapDocument.read room m.content with
    | .error r => .error (r.toFailure specifier)
    | .ok d => do return (d, ← (Url.verbatim m.specifier).mapError Location.urlFailure)
  | some r =>
    .error (failure specifier
      ("Unexpected response kind '" ++ r.kind ++ "' for import map " ++ specifier) none)

/-- Loads an import map file. Its base is the directory of its final address. -/
def load [HostNames] (w : World) (b : Bridge) (setting : Value) (location : Value) :
    Run SerializedImportMap := do
  let url ← Run.ofExcept (Location.toUrl w.cwd none location)
  let specifier ← Run.ofExcept (url.render.mapError Location.urlFailure)
  let (document, final) ←
    Run.span "import_map" [logField "emit.import_map" (.string specifier)] false true do
      let response ←
        (b.load w ⟨specifier, .bool false, setting⟩).mapFailure (ofLoadFailure specifier)
      Run.ofExcept (ofResponse w.nesting.importMap specifier response)
  let base := final.parentDirectory
  let shown ← Run.ofExcept (base.render.mapError Location.urlFailure)
  Run.log .debug "import_map_loaded"
    [logField "specifier" (.string specifier), logField "base_url" (.string shown)]
  Run.ofExcept (make base document.imports document.scopes)

def build [HostNames] (w : World) (b : Bridge) (setting : Value) (source : Value) :
    Run (Option SerializedImportMap) :=
  match source with
  | .null => Run.done none
  | .importMap m => Run.ofExcept (some <$> ofInline w.cwd m)
  | location => some <$> load w b setting location

end SerializedImportMap

end EmitBridge
