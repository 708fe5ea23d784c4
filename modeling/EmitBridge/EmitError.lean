import EmitBridge.Value.Shown

/-! The library's own errors, and what every failure is called and says. -/

namespace EmitBridge

namespace EmitError

def text (e : EmitError Value) : String :=
  if e.details.isEmpty then e.message
  else
    e.message ++ " ("
      ++ String.intercalate ", " (e.details.map fun d => d.1.toString ++ "=" ++ d.2.shown) ++ ")"

def messageOr (message : Option String) (standard : String) : String :=
  match message with
  | some m => if m.isEmpty then standard else m
  | none => standard

def plain (kind : EmitErrorKind) (message : String) : EmitError Value :=
  ⟨kind, message, [], none, none, none⟩

def config (message : String) : EmitError Value := plain .config message

def engineNotFound (message : String) (path : Option Value) : EmitError Value where
  kind := .engineNotFound
  message := message
  details := match path with
    | some p => if p.isTruthy then [("path", p)] else []
    | none => []
  stage := none
  cause := none
  subject := some (.path (path.getD .null))

def location (value : Value) (message : Option String) : EmitError Value where
  kind := .location
  message := messageOr message ("Invalid module location: " ++ value.quoted)
  details := [("location", .string value.shown)]
  stage := none
  cause := none
  subject := some (.location value)

def importMap (specifier : Value) (message : Option String) : EmitError Value where
  kind := .importMap
  message := messageOr message ("Unable to load import map: " ++ specifier.shown)
  details := [("specifier", specifier)]
  stage := none
  cause := none
  subject := some (.specifier specifier)

def load (specifier : Value) (message : Option String) : EmitError Value where
  kind := .load
  message := messageOr message ("Module not found: " ++ specifier.shown)
  details := [("specifier", specifier)]
  stage := none
  cause := none
  subject := some (.specifier specifier)

def specifier? (e : EmitError Value) : Option Value :=
  match e.subject with
  | some (.specifier .null) => none
  | some (.specifier v) => some v
  | _ => none

def during (stage : String) (e : EmitError Value) : EmitError Value :=
  match e.stage with
  | none => { e with stage := some stage }
  | some _ => e

def becauseOf (cause : String) (e : EmitError Value) : EmitError Value :=
  { e with cause := some cause }

end EmitError

namespace FailureOf

def name : Failure → String
  | emit e => e.kind.name
  | invalid .. => "ValidationError"
  | command _ => "CLIError"
  | usage e => e.name
  | fault f => f.name

def message : Failure → String
  | emit e => e.text
  | invalid title vs => Violation.account title vs
  | command e => e.message
  | usage e => e.message
  | fault f => f.message

def attributes (f : Failure) : Entries Value :=
  [(Text.ofString "error", .string f.message), (Text.ofString "error_type", .string f.name)]
    ++ match f with
      | emit e =>
        (Text.ofString "stage", Value.ofOption Value.string e.stage)
          :: (e.specifier?.map fun v => (Text.ofString "specifier", v)).toList
      | _ => []

end FailureOf

end EmitBridge
