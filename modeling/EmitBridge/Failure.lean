import EmitBridge.Json.Parser
import EmitBridge.Model.Basic
import EmitBridge.Model.Violation
import EmitBridge.Text.Quoted

/-! What a call can fail with: the library's own errors, refused values, command errors, and
everything else that goes wrong on the way. -/

namespace EmitBridge

inductive EmitErrorKind
  | emit
  | config
  | engineNotFound
  | location
  | importMap
  | load
  | engine
deriving DecidableEq, Repr

namespace EmitErrorKind

def name : EmitErrorKind → String
  | emit => "EmitError"
  | config => "ConfigError"
  | engineNotFound => "EngineNotFoundError"
  | location => "LocationError"
  | importMap => "ImportMapError"
  | load => "LoadError"
  | engine => "EngineError"

end EmitErrorKind

inductive Subject (α : Type)
  | specifier (value : α)
  | location (value : α)
  | path (value : α)

/-- An error of the library. `stage` is the part of the call in which it arose, and `cause` the
kind of the failure it came from. -/
structure EmitError (α : Type) where
  kind : EmitErrorKind
  message : String
  details : List (Text × α)
  stage : Option String
  cause : Option String
  subject : Option (Subject α)

structure SystemError where
  number : Nat
  path : Option String
deriving DecidableEq, Repr

namespace SystemError

def explanation (number : Nat) : String :=
  match number with
  | 1 => "Operation not permitted"
  | 2 => "No such file or directory"
  | 5 => "Input/output error"
  | 12 => "Cannot allocate memory"
  | 13 => "Permission denied"
  | 16 => "Device or resource busy"
  | 17 => "File exists"
  | 20 => "Not a directory"
  | 21 => "Is a directory"
  | 22 => "Invalid argument"
  | 23 => "Too many open files in system"
  | 24 => "Too many open files"
  | 26 => "Text file busy"
  | 27 => "File too large"
  | 28 => "No space left on device"
  | 30 => "Read-only file system"
  | 36 => "File name too long"
  | 40 => "Too many levels of symbolic links"
  | 116 => "Stale file handle"
  | 122 => "Disk quota exceeded"
  | n => "Unknown error " ++ toString n

def message (e : SystemError) : String :=
  "[Errno " ++ toString e.number ++ "] " ++ explanation e.number
    ++ match e.path with
      | some p => ": " ++ Quoted.string p
      | none => ""

def name (number : Nat) : String :=
  match number with
  | 1 | 13 => "PermissionError"
  | 2 => "FileNotFoundError"
  | 3 => "ProcessLookupError"
  | 4 => "InterruptedError"
  | 10 => "ChildProcessError"
  | 11 | 114 | 115 => "BlockingIOError"
  | 17 => "FileExistsError"
  | 20 => "NotADirectoryError"
  | 21 => "IsADirectoryError"
  | 32 | 108 => "BrokenPipeError"
  | 103 => "ConnectionAbortedError"
  | 104 => "ConnectionResetError"
  | 110 => "TimeoutError"
  | 111 => "ConnectionRefusedError"
  | _ => "OSError"

end SystemError

inductive TargetError
  | unprintable (c : Char) (position : Nat)
  | tooLong
  | portNumber (text : String)
  | quad (host : String)
  | groups (host : String)
  | hostName (host : String)
  | unprintableComponent (name : String) (c : Char) (position : Nat)
  | componentTooLong (name : String)
  | relativePath
  | doubleSlash
  | colonPath
deriving DecidableEq, Repr

namespace TargetError

def shown (c : Char) : String := Quoted.string (String.singleton c)

def message : TargetError → String
  | unprintable c position =>
    "Invalid non-printable ASCII character in URL, " ++ shown c ++ " at position "
      ++ toString position ++ "."
  | tooLong => "URL too long"
  | portNumber text => "Invalid port: " ++ Quoted.string text
  | quad host => "Invalid IPv4 address: " ++ Quoted.string host
  | groups host => "Invalid IPv6 address: " ++ Quoted.string host
  | hostName host => "Invalid IDNA hostname: " ++ Quoted.string host
  | unprintableComponent name c position =>
    "Invalid non-printable ASCII character in URL " ++ name ++ " component, " ++ shown c
      ++ " at position " ++ toString position ++ "."
  | componentTooLong name => "URL component '" ++ name ++ "' too long"
  | relativePath => "For absolute URLs, path must be empty or begin with '/'"
  | doubleSlash => "Relative URLs cannot have a path starting with '//'"
  | colonPath => "Relative URLs cannot have a path starting with ':'"

end TargetError

inductive RaisedKind
  | runtime
  | value
  | type
  | key
  | system (number : Option Nat)
  | other (name : String)
deriving DecidableEq, Repr

namespace RaisedKind

def name : RaisedKind → String
  | runtime => "RuntimeError"
  | value => "ValueError"
  | type => "TypeError"
  | key => "KeyError"
  | system (some n) => SystemError.name n
  | system none => "OSError"
  | other name => name

end RaisedKind

inductive Fault
  | url (e : UrlError)
  | notUtf8 (e : Utf8.DecodeError)
  | surrogates (e : Utf8.EncodeError)
  | json (e : Json.Error)
  | system (e : SystemError)
  | target (e : TargetError)
  | hostName (e : HostNameError)
  | nullByte
  | bytesPath
  | notAPath (typeName : String)
  | notASetting (shown : String)
  | notALoader (typeName : String)
  | notDivided (typeName : String)
  | notOptions (expected typeName : String)
  | noField (record field : String)
  | notAMapping (typeName : String)
  | pairLength (position length : Nat)
  | notAPair (position : Nat)
  | notAKey (typeName : String)
  | repeatedName (function name : String)
  | noScheme (shown : String)
  | transport (kind message : String)
  | missingKey (shown : String)
  | missingAttribute (typeName attr : String)
  | missingName (moduleName name : String)
  | missingArguments (function : String) (names : List String)
  | notPrintable (typeName : String)
  | printedTooDeep
  | notAMemberName (typeName : String)
  | badLevel (shown : String)
  | markup (tag : String) (position : Nat)
  | bareClosingTag (position : Nat)
  | action (message : String)
  | raised (kind : RaisedKind) (message : String)
deriving Repr

namespace Fault

def name : Fault → String
  | url e => e.name
  | notUtf8 _ => "UnicodeDecodeError"
  | surrogates _ => "UnicodeEncodeError"
  | json (.refused ..) => "JSONDecodeError"
  | json (.digits _) => "ValueError"
  | json (.tooDeep _) => "RecursionError"
  | system e => SystemError.name e.number
  | target _ => "InvalidURL"
  | hostName e => e.kind
  | nullByte => "ValueError"
  | bytesPath => "TypeError"
  | notAPath _ => "TypeError"
  | notASetting _ => "ValueError"
  | notALoader _ => "TypeError"
  | notDivided _ => "TypeError"
  | notOptions .. => "TypeError"
  | noField .. => "ValueError"
  | notAMapping _ => "TypeError"
  | pairLength .. => "ValueError"
  | notAPair _ => "TypeError"
  | notAKey _ => "TypeError"
  | repeatedName .. => "TypeError"
  | noScheme _ => "ValueError"
  | transport kind _ => kind
  | missingKey _ => "KeyError"
  | missingAttribute .. => "AttributeError"
  | missingName .. => "AttributeError"
  | missingArguments .. => "TypeError"
  | notPrintable _ => "TypeError"
  | printedTooDeep => "RecursionError"
  | notAMemberName _ => "TypeError"
  | badLevel _ => "ValueError"
  | markup .. => "MarkupError"
  | bareClosingTag _ => "MarkupError"
  | action _ => "MarkupError"
  | raised kind _ => kind.name

def argumentList : List String → String
  | [] => ""
  | [a] => "'" ++ a ++ "'"
  | [a, b] => "'" ++ a ++ "' and '" ++ b ++ "'"
  | a :: rest => "'" ++ a ++ "', " ++ argumentList rest

def message : Fault → String
  | url e => e.message
  | notUtf8 e => e.message
  | surrogates e => e.message
  | json e => e.message
  | system e => e.message
  | target e => e.message
  | hostName e => e.message
  | nullByte => "embedded null byte"
  | bytesPath => "cannot use a string pattern on a bytes-like object"
  | notAPath typeName => "expected str, bytes or os.PathLike object, not " ++ typeName
  | notASetting shown => shown ++ " is not a valid CacheSetting"
  | notALoader typeName => "Expected a loader or a callable, got " ++ typeName
  | notDivided typeName =>
    "unsupported operand type(s) for /: '" ++ typeName ++ "' and 'str'"
  | notOptions expected typeName =>
    "options must be " ++ expected ++ " or a mapping, got " ++ typeName
  | noField record field => "\"" ++ record ++ "\" object has no field \"" ++ field ++ "\""
  | notAMapping typeName => "'" ++ typeName ++ "' object is not iterable"
  | pairLength position length =>
    "dictionary update sequence element #" ++ toString position ++ " has length "
      ++ toString length ++ "; 2 is required"
  | notAPair position =>
    "cannot convert dictionary update sequence element #" ++ toString position
      ++ " to a sequence"
  | repeatedName function name =>
    function ++ "() got multiple values for argument '" ++ name ++ "'"
  | noScheme shown => "unknown url type: " ++ shown
  | transport _ message => message
  | notAKey typeName => "unhashable type: '" ++ typeName ++ "'"
  | missingKey shown => shown
  | missingAttribute typeName attr =>
    "'" ++ typeName ++ "' object has no attribute '" ++ attr ++ "'"
  | missingName moduleName name =>
    "module '" ++ moduleName ++ "' has no attribute " ++ Quoted.string name
  | missingArguments function names =>
    function ++ "() missing " ++ toString names.length ++ " required positional argument"
      ++ (if names.length == 1 then "" else "s") ++ ": " ++ argumentList names
  | notPrintable typeName => "Object of type " ++ typeName ++ " is not JSON serializable"
  | printedTooDeep => "maximum recursion depth exceeded while calling a Python object"
  | notAMemberName typeName =>
    "keys must be str, int, float, bool or None, not " ++ typeName
  | badLevel shown => "Unknown level: " ++ shown
  | markup tag position =>
    "closing tag '" ++ tag ++ "' at position " ++ toString position
      ++ " doesn't match any open tag"
  | bareClosingTag position =>
    "closing tag '[/]' at position " ++ toString position ++ " has nothing to close"
  | action message => message
  | raised _ message => message

end Fault

inductive UsageError
  | noArguments (help : String)
  | noSuchOption (name : String)
  | noSuchCommand (name : String)
  | missingCommand
  | missingParameter (name : String)
  | badParameter (hint problem : String)
  | optionArgument (name : String)
  | optionValue (name : String)
  | extraArguments (args : List String)
deriving DecidableEq, Repr

namespace UsageError

def name : UsageError → String
  | noArguments _ => "NoArgsIsHelpError"
  | noSuchOption _ => "NoSuchOption"
  | noSuchCommand _ => "NoSuchCommand"
  | missingCommand => "UsageError"
  | missingParameter _ => "MissingParameter"
  | badParameter .. => "BadParameter"
  | optionArgument _ => "BadOptionUsage"
  | optionValue _ => "BadOptionUsage"
  | extraArguments _ => "UsageError"

def message : UsageError → String
  | noArguments help => help
  | noSuchOption name => "No such option " ++ Quoted.string name ++ "."
  | noSuchCommand name => "No such command " ++ Quoted.string name ++ "."
  | missingCommand => "Missing command."
  | missingParameter name => "Missing argument '" ++ name ++ "'."
  | badParameter hint problem => "Invalid value for " ++ hint ++ ": " ++ problem
  | optionArgument name => "Option " ++ Quoted.string name ++ " requires an argument."
  | optionValue name => "Option " ++ Quoted.string name ++ " does not take a value."
  | extraArguments args =>
    (if args.length == 1 then "Got unexpected extra argument (" else
      "Got unexpected extra arguments (") ++ String.intercalate " " args ++ ")"

end UsageError

structure CommandError where
  message : String
  status : Nat
deriving DecidableEq, Repr

inductive FailureOf (α : Type)
  | emit (e : EmitError α)
  | invalid (title : String) (vs : List Violation)
  | command (e : CommandError)
  | usage (e : UsageError)
  | fault (f : Fault)

end EmitBridge
