import EmitBridge.Check.Record
import EmitBridge.EmitError

/-! Rules for load responses, and the response that a loader's value stands for. The `kind` of a
mapping tells which of the three it is. -/

namespace EmitBridge.Check

def literal (word : String) (v : Value) : Checked Unit :=
  match v with
  | .str t => if t == Text.ofString word then pure () else refuse (.literal word) v
  | v => refuse (.literal word) v

/-- Header names in lower case; of two headers whose names become one the later one counts. -/
def lowerNames (headers : Section) : Section :=
  headers.foldl (fun done e => Entries.put e.1.lower e.2 done) []

def headers (v : Value) : Checked (Option Section) :=
  (option mapSection v).andThen fun hs => pure (hs.map lowerNames)

def content (v : Value) : Checked Content :=
  match v with
  | .bytes bs => pure (.bytes bs)
  | v =>
    match v.text? with
    | some t => pure (.text t)
    | none => ((refuse .bytes v).under "bytes").orElse ((refuse .string v).under "str")

def readModuleResponse (es : Entries Value) : Checked ModuleResponse :=
  (fun _ a b c => ⟨a, b, c⟩)
    <$> Field.kind.optional () (literal "module") es
    <*> Field.specifier.required specifier es
    <*> Field.headers.optional none headers es
    <*> Field.content.required content es

def moduleResponse : Value → Checked ModuleResponse :=
  record "ModuleResponse" (fun | .response (.module m) => some m | _ => none) readModuleResponse

def readNamed (kind : String) (es : Entries Value) : Checked String :=
  (fun _ a => a)
    <$> Field.kind.optional () (literal kind) es
    <*> Field.specifier.required specifier es

def externalResponse : Value → Checked String :=
  record "ExternalResponse" (fun | .response (.external s) => some s | _ => none)
    (readNamed "external")

def builtInResponse : Value → Checked String :=
  record "BuiltInResponse" (fun | .response (.builtIn s) => some s | _ => none)
    (readNamed "builtIn")

def loadResponse (es : Entries Value) : Checked LoadResponse :=
  match es.get? (Text.ofString "kind") with
  | none => refuse .noKind (.dict es)
  | some v =>
    match v with
    | .str t =>
      if t == Text.ofString "module" then LoadResponse.module <$> readModuleResponse es
      else if t == Text.ofString "external" then
        LoadResponse.external <$> readNamed "external" es
      else if t == Text.ofString "builtIn" then LoadResponse.builtIn <$> readNamed "builtIn" es
      else refuse .unknownKind (.dict es)
    | _ => refuse .unknownKind (.dict es)

end EmitBridge.Check

namespace EmitBridge.LoadResponse

def refusal (specifier problem : String) : EmitError Value :=
  EmitError.load (.string specifier) (some problem)

def ofValue (specifier : String) (v : Value) : Except Failure (Option LoadResponse) :=
  match v with
  | .null => .ok none
  | .response r => .ok (some r)
  | .dict es =>
    match Check.loadResponse es with
    | .passed r => .ok (some r)
    | .refused vs =>
      .error (.emit ((refusal specifier
        ("Invalid load response for " ++ specifier ++ ": " ++ toString vs.length
          ++ " validation error(s)")).becauseOf "ValidationError"))
  | v =>
    .error (.emit (refusal specifier
      ("Loader returned " ++ v.typeName ++ " instead of a load response for " ++ specifier)))

def withBytes : LoadResponse → Except Failure LoadResponse
  | module m =>
    match m.content.toBytes with
    | .ok bs => .ok (.module { m with content := .bytes bs })
    | .error e => .error (.fault (.surrogates e))
  | r => .ok r

end EmitBridge.LoadResponse
