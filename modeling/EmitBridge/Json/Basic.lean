import EmitBridge.Text.Basic

/-! JSON values. Members of an object keep their order, and a name occurs once. -/

namespace EmitBridge

inductive Json
  | null
  | bool (b : Bool)
  | int (n : Int)
  | float (x : Float)
  | str (t : Text)
  | arr (items : List Json)
  | obj (members : List (Text × Json))
deriving Inhabited

abbrev Entries (α : Type) := List (Text × α)

namespace Entries

variable {α : Type}

def get? (es : Entries α) (name : Text) : Option α := es.lookup name

def contains (es : Entries α) (name : Text) : Bool := (es.lookup name).isSome

def put (name : Text) (value : α) : Entries α → Entries α
  | [] => [(name, value)]
  | (n, v) :: rest => if n == name then (n, value) :: rest else (n, v) :: put name value rest

def ofList (es : List (Text × α)) : Entries α := es.foldl (fun done e => put e.1 e.2 done) []

end Entries

namespace Json

def get? (name : Text) : Json → Option Json
  | obj members => members.lookup name
  | _ => none

end Json

end EmitBridge
