import EmitBridge.Check.Scalar
import EmitBridge.Settings.EnvFile

/-! Settings of the process: given ones come first, then the environment, then the file of
settings, then defaults. -/

namespace EmitBridge

structure Settings where
  engine : Option String
  cacheDir : Option PosixPath
  cacheSetting : CacheSetting
  allowRemote : Bool
  httpTimeout : Float
  logLevel : String
  logJson : Bool

structure Surroundings where
  env : List (String × String)
  envFile : Option String

namespace Settings

def envPrefix : String := "jsemit_"

def lowerKeys (bs : EnvFile.Bindings) : Entries (Option Value) :=
  Entries.ofList (bs.map fun b =>
    ((Text.ofChars b.1).lower, b.2.map fun v => .str (Text.ofChars v)))

def envBindings (s : Surroundings) : EnvFile.Bindings :=
  s.env.map fun v => (v.1.toList, some v.2.toList)

def find? (given : Entries Value) (env file : Entries (Option Value)) (field : String) :
    Option Value :=
  let key := Text.ofString (envPrefix ++ field)
  (given.get? (Text.ofString field)).or ((env.get? key).join.or (file.get? key).join)

def fields : List String :=
  ["engine", "cache_dir", "cache_setting", "allow_remote", "http_timeout", "log_level", "log_json"]

def collect (given : Entries Value) (s : Surroundings) : Entries Value :=
  let env := lowerKeys (envBindings s)
  let file := match s.envFile with
    | some text => lowerKeys (EnvFile.read (envBindings s) text.toList)
    | none => []
  fields.filterMap fun f => (find? given env file f).map fun v => (Text.ofString f, v)

def word (v : Value) : Checked String := Text.toString <$> Check.text v

def check (es : Entries Value) : Checked Settings :=
  Settings.mk
    <$> (Check.Field.plain "engine").optional none (Check.option word) es
    <*> (Check.Field.plain "cache_dir").optional none (Check.option Check.path) es
    <*> (Check.Field.plain "cache_setting").optional .use Check.cacheSetting es
    <*> (Check.Field.plain "allow_remote").optional true Check.boolean es
    <*> (Check.Field.plain "http_timeout").optional 30.0 Check.timeout es
    <*> (Check.Field.plain "log_level").optional "WARNING" word es
    <*> (Check.Field.plain "log_json").optional false Check.boolean es

def read (given : Entries Value) (s : Surroundings) : Except Failure Settings :=
  (check (collect given s)).toExcept "EmitSettings"

end Settings

end EmitBridge
