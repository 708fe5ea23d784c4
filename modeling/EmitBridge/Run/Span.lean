import EmitBridge.Run.Basic

/-! Spans: parts of a call that are logged when they begin and end, with failures described, and
emit operations, whose attributes are bound to all that is logged within. -/

namespace EmitBridge

namespace SpanRecord

def isPlain : Value → Bool
  | .bool _ | .int _ | .float _ | .str _ | .cacheSetting _ | .bundleType _ => true
  | _ => false

def single? (v : Value) : Option Value :=
  match v with
  | .bytes bs => (Utf8.decode bs).toOption.map fun cs => .str (Text.ofChars cs)
  | v => if isPlain v then some v else none

def items? (type : Option String) : List Value → Option (List Value)
  | [] => some []
  | .null :: rest => (items? type rest).map (.null :: ·)
  | item :: rest => do
    let v ← single? item
    if type.all (· == v.typeName) then (items? (some v.typeName) rest).map (v :: ·) else none

def attribute? (v : Value) : Option Value :=
  match v with
  | .list items => (items? none items).map .tuple
  | .tuple items => (items? none items).map .tuple
  | v => single? v

def setAttribute (name : Text) (v : Value) (attributes : Entries Value) : Entries Value :=
  match attribute? v with
  | some v => if name.isEmpty then attributes else Entries.put name v attributes
  | none => attributes

def attributesOf (es : Entries Value) : Entries Value :=
  es.foldl (fun done e => setAttribute e.1 e.2 done) []

def failureAttributes (failure : Entries Value) (attributes : Entries Value) : Entries Value :=
  ["stage", "specifier"].foldl
    (fun done key =>
      match failure.get? (Text.ofString key) with
      | some .null => done
      | some v => setAttribute (Text.ofString ("emit." ++ key)) v done
      | none => done)
    attributes

end SpanRecord

namespace Run

variable {α : Type}

def ownNames : List String := ["self", "event"]

/-- The fault of a field that a log call cannot take: the name is its own, or given twice. A name
is given twice only while a failure is told; the call's arguments are then put together during the
handling of that failure, and the clash shows as the bare key. -/
def fieldFault? (level : Level) (given attributes : Entries Value) : Option Fault :=
  match attributes.find? fun e => given.contains e.1 with
  | some e => some (.missingKey (Quoted.text e.1))
  | none =>
    match attributes.find? fun e => ownNames.contains e.1.toString with
    | some e => some (.repeatedName ("BoundLogger." ++ level.name) e.1.toString)
    | none =>
      if attributes.contains (Text.ofString "method_name") then
        some (.repeatedName "BoundLogger._proxy_to_logger" "method_name")
      else none

def logNamed (level : Level) (name : String) (given attributes : Entries Value) : Run Unit :=
  match fieldFault? level given attributes with
  | some f => fail (.fault f)
  | none => log level name (given ++ attributes)

def span (name : String) (attributes : Entries Value) (logStart logEnd : Bool) (body : Run α) :
    Run α := fun context =>
  let shown := SpanRecord.attributesOf attributes
  let before :=
    if logStart then logNamed .debug (name ++ "_started") [] attributes context else (.ok (), [])
  match before with
  | (.error e, events) => (.error e, .span ⟨name, shown, .unset⟩ :: events)
  | (.ok _, events) =>
    match body context with
    | (.ok a, inner) =>
      let after :=
        if logEnd then logNamed .info (name ++ "_completed") [] attributes context
        else (.ok (), [])
      (after.1.map fun _ => a, .span ⟨name, shown, .ok⟩ :: events ++ inner ++ after.2)
    | (.error e, inner) =>
      let failure := e.attributes
      let after := logNamed .error (name ++ "_failed") failure attributes context
      (match after.1 with
        | .ok _ => .error e
        | .error f => .error f,
        .span ⟨name, SpanRecord.failureAttributes failure shown, .failed e.message e.name⟩
          :: events ++ inner ++ after.2)

structure Operation where
  name : String
  root : Option String
  bundleType : Option String
  hasImportMap : Option Bool

namespace Operation

def textField (name : String) (text : Option String) : Entries Value :=
  match text with
  | some s => if s.isEmpty then [] else [logField name (.string s)]
  | none => []

def attributes (o : Operation) : Entries Value :=
  logField "emit.operation" (.string o.name)
    :: textField "emit.root" o.root ++ textField "emit.bundle_type" o.bundleType
    ++ match o.hasImportMap with
      | some b => [logField "emit.has_import_map" (.bool b)]
      | none => []

end Operation

def operation (o : Operation) (body : Run α) : Run α :=
  bound o.attributes (span ("emit." ++ o.name) o.attributes true true body)

end Run

end EmitBridge
