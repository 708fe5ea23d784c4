import EmitBridge.Json.Basic

/-! JSON values with the members of every object in the order of their names. -/

namespace EmitBridge

namespace Text

def isAtMost (s t : Text) : Bool := go s.points t.points
where
  go : List CodePoint → List CodePoint → Bool
    | [], _ => true
    | _ :: _, [] => false
    | p :: ps, q :: qs => if p.val == q.val then go ps qs else p.val < q.val

end Text

namespace Entries

variable {α : Type}

def insertSorted (e : Text × α) : List (Text × α) → List (Text × α)
  | [] => [e]
  | f :: rest => if e.1.isAtMost f.1 then e :: f :: rest else f :: insertSorted e rest

def sorted (es : List (Text × α)) : List (Text × α) := es.foldr insertSorted []

end Entries

namespace Json

mutual

def sorted : Json → Json
  | arr items => arr (sortedItems items)
  | obj members => obj (Entries.sorted (sortedMembers members))
  | v => v

def sortedItems : List Json → List Json
  | [] => []
  | v :: rest => sorted v :: sortedItems rest

def sortedMembers : List (Text × Json) → List (Text × Json)
  | [] => []
  | (name, v) :: rest => (name, sorted v) :: sortedMembers rest

end

end Json

end EmitBridge
