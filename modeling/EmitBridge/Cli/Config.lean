import EmitBridge.Check.Record
import EmitBridge.Cli.Flags
import EmitBridge.Cli.Status
import EmitBridge.Load.Cache
import EmitBridge.Location
import EmitBridge.Value.Members

/-! The options of an emit call from a config file and from the command line, which wins. -/

namespace EmitBridge

namespace ConfigFile

def unreadable (path : PosixPath) (f : Fault) : Failure :=
  let told := .command (.system ("Cannot read config file " ++ path.toString ++ ": " ++ f.message))
  match f with
  | .system _ => told
  | .notUtf8 _ => told
  | f => .fault f

def ofChars (room : Nat) (path : PosixPath) (text : List Char) :
    Except Failure (ConfigFile Value) :=
  match Json.parse room text with
  | .error e =>
    if e.isTooDeep then .error (.fault (.json e))
    else
      .error (.command (.user
        ("Config file " ++ path.toString ++ " is not valid JSON: " ++ (Fault.json e).message)))
  | .ok j =>
    match Check.configFile (Value.ofJson j) with
    | .passed c => .ok c
    | .refused vs =>
      .error (.command (.user
        ("Invalid config file " ++ path.toString ++ ":\n" ++ Violation.report vs)))

def load (w : World) (path : PosixPath) : Run (ConfigFile Value) := do
  match ← Run.readTextFile w path with
  | .error f => Run.fail (unreadable path f)
  | .ok text => Run.ofExcept (ofChars w.nesting.config path text)

/-- The address of an import map that a config file names; it is named from the file's own
directory. -/
def importMapUrl [HostNames] (w : World) (path : PosixPath) (location : Text) :
    Except Failure Url :=
  let directory := PosixPath.absolute w.cwd path.parent
  match Location.toUrl w.cwd (some (.path (.posix directory))) (.str location) with
  | .ok u => .ok u
  | .error (.emit e) =>
    if e.kind == .location then
      .error (.command (.user ("Invalid importMap in " ++ path.toString ++ ": " ++ e.text)))
    else .error (.emit e)
  | .error e => .error e

def namedImportMap [HostNames] (w : World) (path : PosixPath) (c : ConfigFile Value) :
    Except Failure (Option Url) :=
  match c.importMap with
  | some t => if t.isEmpty then .ok none else some <$> importMapUrl w path t
  | none => .ok none

def sources (c : ConfigFile Value) (named : Option Url) : Entries Value :=
  (c.imports.map fun s => Members.field "imports" (Value.ofSection s)).toList
    ++ (c.scopes.map fun s => Members.field "scopes" (Value.ofScopes s)).toList
    ++ (named.map fun u => Members.field "import_map" (.url u)).toList

end ConfigFile

namespace EmitFlags

def configured [HostNames] (w : World) (f : EmitFlags) : Run (Entries Value × Entries Value) :=
  match f.config with
  | none => Run.done ([], [])
  | some path => do
    let c ← ConfigFile.load w path
    let named ← Run.ofExcept (c.namedImportMap w path)
    return (c.compilerOptions.getD [], c.sources named)

/-- A named import map takes the place of all sources of the config file. -/
def importMapEntries (f : EmitFlags) (sources : Entries Value) : Entries Value :=
  match f.importMap with
  | some s => if s.isEmpty then sources else [Members.field "import_map" (.string s)]
  | none => sources

def compilerOptions (f : EmitFlags) (configured : Entries Value) : Entries Value :=
  let on (isOn : Bool) (name : String) (es : Entries Value) : Entries Value :=
    if isOn then es.put (Text.ofString name) (.bool true) else es
  on f.inlineSources "inlineSources"
    (on f.inlineSourceMap "inlineSourceMap" (on f.sourceMap "sourceMap" configured))

def assemble (f : EmitFlags) (compilerOptions sources : Entries Value) : Entries Value :=
  let compiler := f.compilerOptions compilerOptions
  f.importMapEntries sources
    ++ (if compiler.isEmpty then [] else [Members.field "compiler_options" (.dict compiler)])
    ++ (if f.noRemote then [Members.field "allow_remote" (.bool false)] else [])
    ++ (f.cacheRoot.map fun p => Members.field "cache_root" (.path (.posix p))).toList
    ++ (f.cacheSetting.map fun s => Members.field "cache_setting" (.string s)).toList

def options [HostNames] (w : World) (f : EmitFlags) : Run (Entries Value) := do
  let (compilerOptions, sources) ← f.configured w
  return f.assemble compilerOptions sources

end EmitFlags

end EmitBridge
