import EmitBridge.Cli.Request
import EmitBridge.World.Basic

/-! The options of the two commands, and what is checked before a command begins: paths must be
files or directories where something is there already, and some values are chosen from a few. -/

namespace EmitBridge

structure EmitFlags where
  config : Option PosixPath
  importMap : Option String
  sourceMap : Bool
  inlineSourceMap : Bool
  inlineSources : Bool
  noRemote : Bool
  cacheRoot : Option PosixPath
  cacheSetting : Option String
deriving DecidableEq, Repr

structure CommandLine where
  root : String
  flags : EmitFlags
  engine : Option String
  output : Option PosixPath
  shape : Option BundleShape
deriving DecidableEq, Repr

inductive CommandRequest
  | help
  | emit (c : CommandLine)
deriving DecidableEq, Repr

namespace CommandRequest

inductive Key
  | config
  | importMap
  | sourceMap
  | inlineSourceMap
  | inlineSources
  | noRemote
  | cacheRoot
  | cacheSetting
  | engine
  | output
  | type
  | minify
  | help
deriving DecidableEq, Repr

def commonForms : List (OptionForm Key) :=
  [⟨.config, ["-c", "--config"], true⟩,
    ⟨.importMap, ["--import-map"], true⟩,
    ⟨.sourceMap, ["--source-map"], false⟩,
    ⟨.inlineSourceMap, ["--inline-source-map"], false⟩,
    ⟨.inlineSources, ["--inline-sources"], false⟩,
    ⟨.noRemote, ["--no-remote"], false⟩,
    ⟨.cacheRoot, ["--cache-root"], true⟩,
    ⟨.cacheSetting, ["--cache-setting"], true⟩,
    ⟨.engine, ["--engine"], true⟩,
    ⟨.output, ["-o", "--output"], true⟩,
    ⟨.help, ["--help"], false⟩]

def forms : CommandName → List (OptionForm Key)
  | .bundle =>
    commonForms ++ [⟨.type, ["-t", "--type"], true⟩, ⟨.minify, ["--minify"], false⟩]
  | .transpile => commonForms

inductive Demand
  | anything
  | file
  | directory
  | choice (texts : List String)
deriving DecidableEq, Repr

def demand : Key → Demand
  | .config | .output => .file
  | .cacheRoot => .directory
  | .cacheSetting => .choice (CacheSetting.all.map CacheSetting.text)
  | .type => .choice (BundleType.all.map BundleType.text)
  | _ => .anything

namespace Demand

def choices (texts : List String) : String :=
  String.intercalate ", " (texts.map Quoted.string)

def problem? (w : World) (value : String) : Demand → Option String
  | anything => none
  | file =>
    match w.entry value with
    | .directory => some ("File " ++ Quoted.string value ++ " is a directory.")
    | _ => none
  | directory =>
    match w.entry value with
    | .content _ => some ("Directory " ++ Quoted.string value ++ " is a file.")
    | _ => none
  | choice texts =>
    if texts.contains value then none
    else some (Quoted.string value ++ " is not one of " ++ choices texts ++ ".")

def isPath : Demand → Bool
  | file | directory => true
  | _ => false

def check (w : World) (hint value : String) (d : Demand) : Except Failure Unit :=
  if d.isPath && World.hasNull value then .error (.fault .nullByte)
  else match d.problem? w value with
    | some problem => .error (.usage (.badParameter hint problem))
    | none => .ok ()

end Demand

def hint (c : CommandName) (k : Key) : String :=
  match (forms c).find? fun f => f.key == k with
  | some f => String.intercalate " / " (f.names.map fun n => "'" ++ n ++ "'")
  | none => ""

def checkOption (w : World) (c : CommandName) (a : Arguments Key) (k : Key) :
    Except Failure Unit :=
  match a.value? k with
  | some value => (demand k).check w (hint c k) value
  | none => .ok ()

def path? (a : Arguments Key) (k : Key) : Option PosixPath :=
  (a.value? k).map PosixPath.ofString

def flags (a : Arguments Key) : EmitFlags where
  config := path? a .config
  importMap := a.value? .importMap
  sourceMap := a.has .sourceMap
  inlineSourceMap := a.has .inlineSourceMap
  inlineSources := a.has .inlineSources
  noRemote := a.has .noRemote
  cacheRoot := path? a .cacheRoot
  cacheSetting := a.value? .cacheSetting

def shape : CommandName → Arguments Key → Option BundleShape
  | .bundle, a =>
    let type := (a.value? .type).bind fun t => BundleType.ofText? (Text.ofString t)
    some ⟨type.getD .module, a.has .minify⟩
  | .transpile, _ => none

def root (a : Arguments Key) : Except UsageError String :=
  match a.words with
  | [] => .error (.missingParameter "ROOT")
  | [root] => .ok root
  | _ :: more => .error (.extraArguments more)

def ofArguments (w : World) (c : CommandName) (a : Arguments Key) :
    Except Failure CommandRequest := do
  if a.has .help then return help
  a.keys.forM (checkOption w c a)
  let root ← (root a).mapError FailureOf.usage
  return emit ⟨root, flags a, a.value? .engine, path? a .output, shape c a⟩

def read (w : World) (c : CommandName) (words : List String) : Except Failure CommandRequest := do
  ofArguments w c (← (Arguments.read (forms c) true words).mapError FailureOf.usage)

end CommandRequest

end EmitBridge
