import EmitBridge.Text.Basic

/-! Why a value is refused for a field, and where in the value the fault lies. -/

namespace EmitBridge

inductive Rule
  | missing
  | string
  | unicode
  | boolType
  | boolText
  | dict
  | record (name : String)
  | extra
  | choice (texts : List String)
  | path
  | url
  | bytes
  | nonEmpty
  | literal (text : String)
  | custom (text : String)
  | frozen
  | positive
  | atMost600
  | numberType
  | numberText
  | key
  | noKind
  | unknownKind
deriving DecidableEq, Repr

namespace Rule

def choices : List String → String
  | [] => ""
  | [a] => "'" ++ a ++ "'"
  | [a, b] => "'" ++ a ++ "' or '" ++ b ++ "'"
  | a :: rest => "'" ++ a ++ "', " ++ choices rest

def word : Rule → String
  | missing => "missing"
  | string => "string_type"
  | unicode => "string_unicode"
  | boolType => "bool_type"
  | boolText => "bool_parsing"
  | dict => "dict_type"
  | record _ => "model_type"
  | extra => "extra_forbidden"
  | choice _ => "enum"
  | path => "path_type"
  | url => "is_instance_of"
  | bytes => "bytes_type"
  | nonEmpty => "string_too_short"
  | literal _ => "literal_error"
  | custom _ => "value_error"
  | frozen => "frozen_instance"
  | positive => "greater_than"
  | atMost600 => "less_than_equal"
  | numberType => "float_type"
  | numberText => "float_parsing"
  | key => "invalid_key"
  | noKind => "union_tag_not_found"
  | unknownKind => "union_tag_invalid"

def message : Rule → String
  | missing => "Field required"
  | string => "Input should be a valid string"
  | unicode => "Input should be a valid string, unable to parse raw data as a unicode string"
  | boolType => "Input should be a valid boolean"
  | boolText => "Input should be a valid boolean, unable to interpret input"
  | dict => "Input should be a valid dictionary"
  | record name => "Input should be a valid dictionary or instance of " ++ name
  | extra => "Extra inputs are not permitted"
  | choice texts => "Input should be " ++ choices texts
  | path => "Input is not a valid path for <class 'pathlib.Path'>"
  | url => "Input should be an instance of URL"
  | bytes => "Input should be a valid bytes"
  | nonEmpty => "String should have at least 1 character"
  | literal text => "Input should be '" ++ text ++ "'"
  | custom text => "Value error, " ++ text
  | frozen => "Instance is frozen"
  | positive => "Input should be greater than 0"
  | atMost600 => "Input should be less than or equal to 600"
  | numberType => "Input should be a valid number"
  | numberText => "Input should be a valid number, unable to parse string as a number"
  | key => "Keys should be strings"
  | noKind => "Unable to extract tag using discriminator 'kind'"
  | unknownKind => "Input tag does not match any of the expected tags"

end Rule

structure Violation where
  place : List String
  rule : Rule
  input : String
  inputType : String
deriving DecidableEq, Repr

namespace Violation

def under (name : String) (v : Violation) : Violation := { v with place := name :: v.place }

def line (v : Violation) : String :=
  "  - " ++ String.intercalate "." v.place ++ ": " ++ v.rule.message

def inputLimit : Nat := 50

def fitting : Nat → List Char → List Char
  | _, [] => []
  | room, c :: rest => if c.utf8Size ≤ room then c :: fitting (room - c.utf8Size) rest else []

def shortened (input : String) : String :=
  if input.utf8ByteSize ≤ inputLimit then input
  else
    let cs := input.toList
    String.ofList (fitting 25 cs) ++ "..." ++ String.ofList (fitting 24 cs.reverse).reverse

def helpAddress : String := "https://errors.pydantic.dev/2.14/v/"

def paragraph (v : Violation) : String :=
  (if v.place.isEmpty then "" else String.intercalate "." v.place ++ "\n")
    ++ "  " ++ v.rule.message ++ " [type=" ++ v.rule.word ++ ", input_value=" ++ shortened v.input
    ++ ", input_type=" ++ v.inputType ++ "]\n    For further information visit " ++ helpAddress
    ++ v.rule.word

def account (title : String) (vs : List Violation) : String :=
  String.intercalate "\n"
    ((toString vs.length ++ (if vs.length == 1 then " validation error for "
      else " validation errors for ") ++ title) :: vs.map paragraph)

def report (vs : List Violation) : String :=
  String.intercalate "\n" ("Validation failed:" :: vs.map line)

end Violation

end EmitBridge
