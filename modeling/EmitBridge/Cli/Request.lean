import EmitBridge.Cli.Arguments
import EmitBridge.Cli.Help

/-! What a command line asks the program for, before its command is looked at. -/

namespace EmitBridge

inductive CommandName
  | bundle
  | transpile
deriving DecidableEq, Repr

namespace CommandName

def text : CommandName → String
  | bundle => "bundle"
  | transpile => "transpile"

def ofText? (s : String) : Option CommandName := [bundle, transpile].find? fun c => c.text == s

def help : CommandName → String
  | bundle => Help.bundle
  | transpile => Help.transpile

end CommandName

inductive CliRequest
  | help
  | version
  | command (name : CommandName) (isVerbose : Bool) (words : List String)
deriving DecidableEq, Repr

namespace CliRequest

inductive Key
  | version
  | noColor
  | verbose
  | help
deriving DecidableEq, Repr

def forms : List (OptionForm Key) :=
  [⟨.version, ["--version"], false⟩, ⟨.noColor, ["--no-color"], false⟩,
    ⟨.verbose, ["-v", "--verbose"], false⟩, ⟨.help, ["--help"], false⟩]

def information? (a : Arguments Key) : Option CliRequest :=
  a.keys.findSome? fun
    | .help => some help
    | .version => some version
    | _ => none

/-- What is asked for by words in which no command is found: they are read as options once more. -/
def withoutCommand (name : String) (words : List String) : Except UsageError CliRequest := do
  match information? (← Arguments.read forms false words) with
  | some r => return r
  | none => .error (.noSuchCommand name)

def ofArguments (a : Arguments Key) : Except UsageError CliRequest :=
  match information? a, a.words with
  | some r, _ => .ok r
  | none, [] => .error .missingCommand
  | none, name :: rest =>
    match CommandName.ofText? name with
    | some c => .ok (command c (a.has .verbose) rest)
    | none => withoutCommand name (name :: rest)

def read (words : List String) : Except UsageError CliRequest :=
  if words.isEmpty then .error (.noArguments Help.overview)
  else do ofArguments (← Arguments.read forms false words)

end CliRequest

end EmitBridge
