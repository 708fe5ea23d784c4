import EmitBridge.Check.Record
import EmitBridge.Json.Printer
import EmitBridge.Location

/-! Import maps as an engine receives them, and as files hold them: an object with the sections
that are there. -/

namespace EmitBridge

namespace ImportMap

def jsonSection (s : Section) : Json := .obj (s.map fun e => (e.1, .str e.2))

def jsonScopes (s : Scopes) : Json := .obj (s.map fun e => (e.1, jsonSection e.2))

def member {α : Type} (name : String) (json : α → Json) (part : Option α) :
    List (Text × Json) :=
  part.toList.map fun a => (Text.ofString name, json a)

def document (imports : Option Section) (scopes : Option Scopes) : Json :=
  .obj (member "imports" jsonSection imports ++ member "scopes" jsonScopes scopes)

def documentText (imports : Option Section) (scopes : Option Scopes) : Text :=
  Text.ofChars (document imports scopes).render

end ImportMap

namespace SerializedImportMap

def make (base : Url) (imports : Option Section) (scopes : Option Scopes) :
    Except Failure SerializedImportMap := do
  let base ← base.render.mapError Location.urlFailure
  (Check.readSerializedImportMap
    [(Text.ofString "base_url", .string base),
      (Text.ofString "json_string", .str (ImportMap.documentText imports scopes))]).toExcept
    "SerializedImportMap"

def ofInline [HostNames] (cwd : PosixPath) (m : ImportMap) :
    Except Failure SerializedImportMap := do
  let base ← Location.toUrl cwd none
    (match m.baseUrl with
      | some b => Value.ofMapBase b
      | none => .string ".")
  make base.directory m.imports m.scopes

def failure (specifier problem : String) (cause : Option String) : Failure :=
  .emit { EmitError.importMap (.string specifier) (some problem) with cause := cause }

def toEngine (m : SerializedImportMap) : Entries Value :=
  [(Text.ofString "baseUrl", .str m.baseUrl), (Text.ofString "jsonString", .str m.jsonString)]

end SerializedImportMap

namespace ImportMapDocument

inductive Refusal
  | tooDeep (cause : Fault)
  | notJson (cause : Fault)
  | notAnObject
  | sections
deriving Repr

namespace Refusal

open SerializedImportMap (failure)

/-- The refusal as a failure. That a text is nested too deep is told of by nobody. -/
def toFailure (specifier : String) : Refusal → Failure
  | tooDeep f => .fault f
  | notJson f =>
    failure specifier ("Import map is not valid JSON: " ++ specifier) (some f.name)
  | notAnObject => failure specifier ("Import map must be a JSON object: " ++ specifier) none
  | sections =>
    failure specifier ("Import map has an invalid imports or scopes section: " ++ specifier)
      (some "ValidationError")

end Refusal

def ofJson : Json → Except Refusal ImportMapDocument
  | .obj members =>
    match Check.readImportMapDocument (Value.ofJsonMembers members) with
    | .passed d => .ok d
    | .refused _ => .error .sections
  | _ => .error .notAnObject

def parse (room : Nat) (t : Text) : Except Refusal ImportMapDocument :=
  match Json.parse room (t.toChars?.getD t.toString.toList) with
  | .ok v => ofJson v
  | .error e => .error (if e.isTooDeep then .tooDeep (.json e) else .notJson (.json e))

def read (room : Nat) (content : Content) : Except Refusal ImportMapDocument :=
  match content.toText with
  | .ok t => parse room t
  | .error e => .error (.notJson (.notUtf8 e))

end ImportMapDocument

end EmitBridge
