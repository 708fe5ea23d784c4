import EmitBridge.Check.Record
import EmitBridge.Value.Members
import EmitBridge.Value.Pairs

/-! What an engine hands back, shaped as the result of a call. -/

namespace EmitBridge

namespace Value

def attribute? (v : Value) (name : Text) : Option Value :=
  match v with
  | object attrs => attrs.lookup name
  | v => ((v.members?.getD []) ++ v.undeclared).lookup name

def truthy? (v : Value) : Option Value := if v.isTruthy then some v else none

end Value

namespace BundleEmit

def make (code : Value) (map : Option Value) : Except Failure BundleEmit :=
  (Check.readBundleEmit
    [(Text.ofString "code", code), (Text.ofString "map", map.getD .null)]).toExcept "BundleEmit"

def sourceMap? (find? : Text → Option Value) : Option Value :=
  ((find? (Text.ofString "map")).bind Value.truthy?).or
    ((find? (Text.ofString "maybe_map")).bind Value.truthy?)

def ofValue (v : Value) : Except Failure BundleEmit :=
  let code := Text.ofString "code"
  match v with
  | .dict es =>
    match Entries.get? es code with
    | some c => make c (sourceMap? (Entries.get? es))
    | none => .error (.fault (.missingKey (Quoted.text code)))
  | v =>
    match v.attribute? code with
    | some c => make c (sourceMap? v.attribute?)
    | none => .error (.fault (.missingAttribute v.typeName "code"))

end BundleEmit

end EmitBridge
