import EmitBridge.EmitError
import EmitBridge.Value.Members

/-! A value as keys with what they stand for: the entries of a mapping, or a sequence of pairs. -/

namespace EmitBridge.Value

abbrev Pairs := List (Value × Value)

def sameKey (a b : Value) : Bool :=
  match a.text?, b.text? with
  | some s, some t => s == t
  | none, none => a.typeName == b.typeName && a.quoted == b.quoted
  | _, _ => false

def putPair (key v : Value) : Pairs → Pairs
  | [] => [(key, v)]
  | (k, w) :: rest => if sameKey k key then (k, v) :: rest else (k, w) :: putPair key v rest

def checkKey : Value → Except Failure Unit
  | list _ => .error (.fault (.notAKey "list"))
  | dict _ => .error (.fault (.notAKey "dict"))
  | _ => .ok ()

def pairsFrom (position : Nat) (done : Pairs) : List Value → Except Failure Pairs
  | [] => .ok done
  | item :: rest =>
    match item.items? with
    | none => .error (.fault (.notAPair position))
    | some [key, v] => do
      checkKey key
      pairsFrom (position + 1) (putPair key v done) rest
    | some parts => .error (.fault (.pairLength position parts.length))

def pairs : Value → Except Failure Pairs
  | dict es => .ok (es.map fun e => (str e.1, e.2))
  | v =>
    match v.items? with
    | some items => pairsFrom 0 [] items
    | none => .error (.fault (.notAMapping v.typeName))

end EmitBridge.Value
