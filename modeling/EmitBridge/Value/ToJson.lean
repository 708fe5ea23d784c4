import EmitBridge.Json.Printer
import EmitBridge.Value.Pairs

/-! Values as JSON values. -/

namespace EmitBridge.Value

mutual

def jsonWith (other : Value → Json) : Value → Json
  | null => .null
  | bool b => .bool b
  | int n => .int n
  | float x => .float x
  | str t => .str t
  | cacheSetting s => .str (Text.ofString s.text)
  | bundleType t => .str (Text.ofString t.text)
  | list items => .arr (jsonItems other items)
  | tuple items => .arr (jsonItems other items)
  | dict entries => .obj (jsonEntries other entries)
  | v => other v

def jsonItems (other : Value → Json) : List Value → List Json
  | [] => []
  | v :: rest => jsonWith other v :: jsonItems other rest

def jsonEntries (other : Value → Json) : List (Text × Value) → List (Text × Json)
  | [] => []
  | (name, v) :: rest => (name, jsonWith other v) :: jsonEntries other rest

end

mutual

/-- What the first part is refused for that has no JSON value, or is nested too deep for one. -/
def outsideJson? (room : Nat) : Value → Option Fault
  | null | bool _ | int _ | float _ | str _ | cacheSetting _ | bundleType _ => none
  | list items | tuple items =>
    match room with
    | 0 => some .printedTooDeep
    | room + 1 => outsideItems? room items
  | dict entries =>
    match room with
    | 0 => some .printedTooDeep
    | room + 1 => outsideEntries? room entries
  | v => some (.notPrintable v.typeName)

def outsideItems? (room : Nat) : List Value → Option Fault
  | [] => none
  | v :: rest => (outsideJson? room v).or (outsideItems? room rest)

def outsideEntries? (room : Nat) : List (Text × Value) → Option Fault
  | [] => none
  | (_, v) :: rest => (outsideJson? room v).or (outsideEntries? room rest)

end

/-- The JSON value of a value, if all of it has one, with no more than so many containers in one
another. -/
def toJson (room : Nat) (v : Value) : Except Fault Json :=
  match v.outsideJson? room with
  | none => .ok (v.jsonWith fun _ => .null)
  | some f => .error f

def memberName (key : Value) : Except Fault Text :=
  match key with
  | null => .ok (Text.ofString "null")
  | bool b => .ok (Text.ofString (if b then "true" else "false"))
  | int n => .ok (Text.ofChars (Json.intText n))
  | float x => .ok (Text.ofChars (Json.floatText x))
  | key =>
    match key.text? with
    | some t => .ok t
    | none => .error (.notAMemberName key.typeName)

def pairsToJson (room : Nat) (ps : Pairs) : Except Fault Json :=
  Json.obj <$> ps.mapM fun p => do
    let name ← memberName p.1
    return (name, ← p.2.toJson room)

end EmitBridge.Value
