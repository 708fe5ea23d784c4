import EmitBridge.Failure
import EmitBridge.Text.Cut

/-! The words of a command line as options and arguments. Options of one letter may stand together
behind one dash, and a value may follow its option in the same word. -/

namespace EmitBridge

structure OptionForm (κ : Type) where
  key : κ
  names : List String
  takesValue : Bool
deriving Repr

structure Arguments (κ : Type) where
  options : List (κ × Option String)
  words : List String
deriving Repr

namespace OptionForm

variable {κ : Type}

def isShort (name : String) : Bool :=
  match name.toList with
  | [_, c] => c != '-'
  | _ => false

def find? (forms : List (OptionForm κ)) (name : String) : Option (OptionForm κ) :=
  forms.find? fun f => f.names.contains name

abbrev Reading (κ : Type) := List (κ × Option String) × Option (κ × String)

def readShort (forms : List (OptionForm κ)) : List Char → Except UsageError (Reading κ)
  | [] => .ok ([], none)
  | c :: rest =>
    let name := String.ofList ['-', c]
    match find? forms name with
    | none => .error (.noSuchOption name)
    | some f =>
      if !f.takesValue then do
        let (more, open?) ← readShort forms rest
        return ((f.key, none) :: more, open?)
      else if rest.isEmpty then .ok ([], some (f.key, name))
      else .ok ([(f.key, some (String.ofList rest))], none)

def splitValue (word : String) : String × Option String :=
  let (name, value) := Cut.first '=' word.toList
  (String.ofList name, value.map String.ofList)

def readWord (forms : List (OptionForm κ)) (word : String) : Except UsageError (Reading κ) :=
  let (name, value?) := splitValue word
  match if isShort name then none else find? forms name with
  | some f =>
    match f.takesValue, value? with
    | true, some value => .ok ([(f.key, some value)], none)
    | true, none => .ok ([], some (f.key, name))
    | false, some _ => .error (.optionValue name)
    | false, none => .ok ([(f.key, none)], none)
  | none =>
    match word.toList with
    | '-' :: '-' :: _ => .error (.noSuchOption name)
    | _ :: letters => readShort forms letters
    | [] => .ok ([], none)

end OptionForm

namespace Arguments

variable {κ : Type}

def isOption (word : String) : Bool :=
  match word.toList with
  | '-' :: _ :: _ => true
  | _ => false

def withOptions (options : List (κ × Option String)) (a : Arguments κ) : Arguments κ :=
  { a with options := options ++ a.options }

def withWord (word : String) (a : Arguments κ) : Arguments κ :=
  { a with words := word :: a.words }

/-- Reads the words of a command line. Two dashes end its options; so does, unless options and
arguments may be mixed, the first argument. -/
def read (forms : List (OptionForm κ)) (mixed : Bool) :
    List String → Except UsageError (Arguments κ)
  | [] => .ok ⟨[], []⟩
  | word :: rest =>
    if word == "--" then .ok ⟨[], rest⟩
    else if isOption word then
      match OptionForm.readWord forms word with
      | .error e => .error e
      | .ok (options, none) => withOptions options <$> read forms mixed rest
      | .ok (options, some (key, name)) =>
        match rest with
        | [] => .error (.optionArgument name)
        | value :: rest => withOptions (options ++ [(key, some value)]) <$> read forms mixed rest
    else if mixed then withWord word <$> read forms mixed rest
    else .ok ⟨[], word :: rest⟩

variable [BEq κ]

def has (a : Arguments κ) (key : κ) : Bool := a.options.any fun o => o.1 == key

def value? (a : Arguments κ) (key : κ) : Option String := (a.options.reverse.lookup key).join

def keys (a : Arguments κ) : List κ := (a.options.map Prod.fst).eraseDups

end Arguments

end EmitBridge
