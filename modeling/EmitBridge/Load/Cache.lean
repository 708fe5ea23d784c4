import EmitBridge.Check.Response
import EmitBridge.Digest.Sha256
import EmitBridge.Run.Basic
import EmitBridge.World.Basic

/-! Modules in a cache directory. A module lies below its scheme and host, under the digest of its
path and query, with a file beside it that tells its headers and its final address. -/

namespace EmitBridge

namespace Run

def readFile (w : World) (path : PosixPath) : Run (Except Fault Bytes) := do
  Run.record (.opened path.toString)
  return w.read path.toString

def readTextFile (w : World) (path : PosixPath) : Run (Except Fault (List Char)) := do
  Run.record (.opened path.toString)
  return w.readText path.toString

end Run

namespace Url

def portNumber (u : Url) : Except UrlError (Option Nat) :=
  u.parts.map fun a => a.portNumber.or (defaultPort? u.scheme)

def isDefaultPort (u : Url) : Except UrlError Bool :=
  u.parts.map fun a =>
    match a.portNumber with
    | some n => defaultPort? u.scheme == some n
    | none => !u.authority.isEmpty

def target (u : Url) : String :=
  if u.query.isEmpty then u.rawPath else u.rawPath ++ "?" ++ u.query

end Url

namespace Cache

def hostDirectory (u : Url) : Except UrlError String := do
  let host := String.ofList ((← u.rawHost).getD [])
  match ← u.portNumber with
  | some n => if ← u.isDefaultPort then pure host else pure (host ++ "_PORT" ++ toString n)
  | none => pure host

def fileName (u : Url) : String := String.ofList (Sha256.hex (Utf8.encodeString u.target))

def path (root : PosixPath) (u : Url) : Except UrlError PosixPath := do
  let host ← hostDirectory u
  return root ++ PosixPath.ofString "deps" ++ PosixPath.ofString u.scheme
    ++ PosixPath.ofString host ++ PosixPath.ofString (fileName u)

def entry (root : CacheRoot) (u : Url) : Except Fault PosixPath :=
  match root with
  | .path p => (path p u).mapError .url
  | .other typeName => do
    let _ ← (hostDirectory u).mapError Fault.url
    .error (.notDivided typeName)

def metadataPath (path : PosixPath) : PosixPath := path.withSuffix ".metadata.json"

/-- The entries of a text that is a JSON object. Of a text that is no JSON it is as if it said
nothing, unless it is nested too deep. -/
def metadata (room : Nat) (text : Except Fault (List Char)) :
    Except Fault (Option (Entries Value)) :=
  match text with
  | .error _ => .ok (some [])
  | .ok cs =>
    match Json.parse room cs with
    | .error e => if e.isTooDeep then .error (.json e) else .ok (some [])
    | .ok (.obj members) => .ok (some (Value.ofJsonMembers members))
    | .ok _ => .ok none

def moduleOf (specifier : String) (content : Bytes) (told : Option (Entries Value)) :
    Checked ModuleResponse :=
  let told := told.getD []
  Check.readModuleResponse
    [(Text.ofString "specifier", (told.get? (Text.ofString "url")).getD (.string specifier)),
      (Text.ofString "headers", (told.get? (Text.ofString "headers")).getD .null),
      (Text.ofString "content", .bytes content)]

def cachedModule (path : PosixPath) (specifier : String) (content : Bytes)
    (told : Option (Entries Value)) : Run ModuleResponse :=
  match moduleOf specifier content told with
  | .passed m => Run.done m
  | .refused _ => do
    Run.log .debug "cache_metadata_ignored"
      [logField "specifier" (.string specifier), logField "path" (.string path.toString)]
    return ⟨specifier, none, .bytes content⟩

def read (w : World) (root : CacheRoot) (specifier : String) (u : Url) :
    Run (Option ModuleResponse) := do
  let path ← Run.ofExcept ((entry root u).mapError .fault)
  match ← Run.readFile w path with
  | .error (.system _) => return none
  | .error f => Run.fail (.fault f)
  | .ok content =>
    let text ← Run.readTextFile w (metadataPath path)
    let told ← Run.ofExcept ((metadata w.nesting.metadata text).mapError .fault)
    some <$> cachedModule path specifier content told

end Cache

end EmitBridge
