import EmitBridge.Value.Shown

/-! Checking values against rules. Every broken rule is reported, in the order of the rules. -/

namespace EmitBridge

/-- What a value was read as, or all rules that it breaks. -/
inductive Checked (α : Type)
  | passed (a : α)
  | refused (vs : List Violation)

namespace Checked

variable {α β : Type}

/-- Two checks in a row, neither of which hides what the other one refuses. -/
def both (f : Checked (α → β)) (a : Checked α) : Checked β :=
  match f, a with
  | passed f, passed a => passed (f a)
  | passed _, refused ws => refused ws
  | refused vs, passed _ => refused vs
  | refused vs, refused ws => refused (vs ++ ws)

instance : Applicative Checked where
  pure := passed
  seq f a := both f (a ())

def andThen (a : Checked α) (f : α → Checked β) : Checked β :=
  match a with
  | passed a => f a
  | refused vs => refused vs

/-- The first of two readings that passes; if neither does, both are reported. -/
def orElse (a b : Checked α) : Checked α :=
  match a, b with
  | passed a, _ => passed a
  | refused _, passed b => passed b
  | refused vs, refused ws => refused (vs ++ ws)

def under (name : String) : Checked α → Checked α
  | passed a => passed a
  | refused vs => refused (vs.map (Violation.under name))

def toExcept (title : String) : Checked α → Except Failure α
  | passed a => .ok a
  | refused vs => .error (.invalid title vs)

end Checked

namespace Check

variable {α : Type}

def violation (rule : Rule) (v : Value) : Violation := ⟨[], rule, v.quoted, v.typeName⟩

def refuse (rule : Rule) (v : Value) : Checked α := .refused [violation rule v]

def option (check : Value → Checked α) : Value → Checked (Option α)
  | .null => pure none
  | v => some <$> check v

def entries (check : Value → Checked α) : Entries Value → Checked (Entries α)
  | [] => pure []
  | (name, v) :: rest =>
    (fun a more => (name, a) :: more) <$> (check v).under name.toString <*> entries check rest

def dict (check : Value → Checked α) : Value → Checked (Entries α)
  | .dict es => entries check es
  | v => refuse .dict v

structure Field where
  name : String
  key : String
deriving DecidableEq, Repr

namespace Field

def plain (name : String) : Field := ⟨name, name⟩

/-- The key under which a mapping gives the field, and the value there. The field's own name counts
only where the other key is missing. -/
def find? (f : Field) (es : Entries Value) : Option (String × Value) :=
  match es.get? f.key with
  | some v => some (f.key, v)
  | none => (es.get? f.name).map fun v => (f.name, v)

def claims (f : Field) (es : Entries Value) (key : Text) : Bool :=
  (f.find? es).any fun e => Text.ofString e.1 == key

def optional (f : Field) (absent : α) (check : Value → Checked α) (es : Entries Value) :
    Checked α :=
  match f.find? es with
  | some (key, v) => (check v).under key
  | none => pure absent

def required (f : Field) (check : Value → Checked α) (es : Entries Value) : Checked α :=
  match f.find? es with
  | some (key, v) => (check v).under key
  | none => (refuse .missing (.dict es) : Checked α).under f.key

end Field

def extras (fields : List Field) (es : Entries Value) : Entries Value :=
  es.filter fun e => !fields.any fun f => f.claims es e.1

def noExtras (fields : List Field) (es : Entries Value) : Checked Unit :=
  match extras fields es with
  | [] => pure ()
  | more => .refused (more.map fun e => (violation .extra e.2).under e.1.toString)

end Check

end EmitBridge
