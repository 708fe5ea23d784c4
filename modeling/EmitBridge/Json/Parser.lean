import EmitBridge.Json.Basic
import EmitBridge.Number.Float
import EmitBridge.Text.Decimal
import EmitBridge.Text.Hex

/-! JSON texts. `NaN` and the infinities are numbers; strings hold no control characters; a text
that is refused says where and why, unless it is nested too deep to be read. -/

namespace EmitBridge.Json

inductive Cause
  | byteOrderMark
  | value
  | name
  | colon
  | comma
  | extra
  | unterminated
  | controlCharacter
  | badEscape
  | hexEscape
deriving DecidableEq, Repr

namespace Cause

def message : Cause → String
  | byteOrderMark => "Unexpected UTF-8 BOM (decode using utf-8-sig)"
  | value => "Expecting value"
  | name => "Expecting property name enclosed in double quotes"
  | colon => "Expecting ':' delimiter"
  | comma => "Expecting ',' delimiter"
  | extra => "Extra data"
  | unterminated => "Unterminated string starting at"
  | controlCharacter => "Invalid control character at"
  | badEscape => "Invalid \\escape"
  | hexEscape => "Invalid \\uXXXX escape"

end Cause

inductive Container
  | array
  | object
deriving DecidableEq, Repr

def Container.name : Container → String
  | array => "array"
  | object => "object"

inductive Error
  | refused (cause : Cause) (line column position : Nat)
  | digits (count : Nat)
  | tooDeep (container : Container)
deriving DecidableEq, Repr

namespace Error

def message : Error → String
  | refused cause line column position =>
    cause.message ++ ": line " ++ toString line ++ " column " ++ toString column ++ " (char "
      ++ toString position ++ ")"
  | digits count =>
    "Exceeds the limit (" ++ toString digitLimit
      ++ " digits) for integer string conversion: value has " ++ toString count
      ++ " digits; use sys.set_int_max_str_digits() to increase the limit"
  | tooDeep container =>
    "maximum recursion depth exceeded while decoding a JSON " ++ container.name
      ++ " from a unicode string"

def isTooDeep : Error → Bool
  | tooDeep _ => true
  | _ => false

end Error

namespace Parser

inductive Stop
  | refused (cause : Cause) (rest : List Char)
  | digits (count : Nat)
  | tooDeep (container : Container)

def isBlank (c : Char) : Bool := c == ' ' || c == '\t' || c == '\n' || c == '\r'

def skipBlanks (s : List Char) : List Char := s.dropWhile isBlank

def shortEscape? (c : Char) : Option Char :=
  match c with
  | '"' => some '"'
  | '\\' => some '\\'
  | '/' => some '/'
  | 'b' => some '\x08'
  | 'f' => some '\x0c'
  | 'n' => some '\n'
  | 'r' => some '\r'
  | 't' => some '\t'
  | _ => none

def hex4? (a b c d : Char) : Option CodePoint := do
  let w ← Hex.value? a
  let x ← Hex.value? b
  let y ← Hex.value? c
  let z ← Hex.value? d
  some (CodePoint.ofNat (4096 * w + 256 * x + 16 * y + z))

def stringBody (opening : List Char) : List Char → Except Stop (List CodePoint × List Char)
  | [] => .error (.refused .unterminated opening)
  | '"' :: rest => .ok ([], rest)
  | ['\\'] => .error (.refused .unterminated opening)
  | '\\' :: 'u' :: a :: b :: c :: d :: e :: rest =>
    match hex4? a b c d with
    | none => .error (.refused .hexEscape ('u' :: a :: b :: c :: d :: e :: rest))
    | some p => (stringBody opening (e :: rest)).map fun r => (p :: r.1, r.2)
  | '\\' :: 'u' :: rest => .error (.refused .hexEscape ('u' :: rest))
  | '\\' :: c :: rest =>
    match shortEscape? c with
    | none => .error (.refused .badEscape ('\\' :: c :: rest))
    | some x => (stringBody opening rest).map fun r => (CodePoint.ofChar x :: r.1, r.2)
  | c :: rest =>
    if c.toNat < 0x20 then .error (.refused .controlCharacter (c :: rest))
    else (stringBody opening rest).map fun r => (CodePoint.ofChar c :: r.1, r.2)

/-- Two surrogates that belong together become the code point they spell. -/
def joinSurrogates : List CodePoint → List CodePoint
  | [] => []
  | [p] => [p]
  | p :: q :: rest =>
    if p.isHighSurrogate && q.isLowSurrogate then
      CodePoint.ofNat (0x10000 + (p.val - 0xD800) * 0x400 + (q.val - 0xDC00)) :: joinSurrogates rest
    else p :: joinSurrogates (q :: rest)

def string (s : List Char) : Except Stop (Text × List Char) :=
  (stringBody s (s.drop 1)).map fun r => (⟨joinSurrogates r.1⟩, r.2)

def takeDigits (s : List Char) : List Char × List Char :=
  (s.takeWhile Char.isDigit, s.dropWhile Char.isDigit)

def natOfDigits (ds : List Char) : Nat := ds.foldl (fun n c => 10 * n + (c.toNat - 0x30)) 0

def wholeDigits : List Char → Option (List Char × List Char)
  | '0' :: rest => some (['0'], rest)
  | s => match takeDigits s with
    | ([], _) => none
    | r => some r

def fractionDigits : List Char → Option (List Char × List Char)
  | '.' :: rest => match takeDigits rest with
    | ([], _) => none
    | r => some r
  | _ => none

def exponentPart : List Char → Option (Int × List Char)
  | c :: rest =>
    if c == 'e' || c == 'E' then
      let (negative, rest) := match rest with
        | '-' :: rest => (true, rest)
        | '+' :: rest => (false, rest)
        | rest => (false, rest)
      match takeDigits rest with
      | ([], _) => none
      | (ds, rest) =>
        let n : Int := natOfDigits ds
        some (if negative then -n else n, rest)
    else none
  | [] => none

def number (start : List Char) (negative : Bool) (s : List Char) :
    Except Stop (Json × List Char) :=
  match wholeDigits s with
  | none => .error (.refused .value start)
  | some (whole, rest) =>
    let fraction := fractionDigits rest
    let rest := match fraction with
      | some r => r.2
      | none => rest
    match fraction, exponentPart rest with
    | none, none =>
      if digitLimit < whole.length then .error (.digits whole.length)
      else
        let n : Int := natOfDigits whole
        .ok (.int (if negative then -n else n), rest)
    | fraction, exponent =>
      let places := match fraction with
        | some r => r.1
        | none => []
      let (shift, rest) := exponent.getD (0, rest)
      .ok (.float (FloatText.signed negative (natOfDigits (whole ++ places))
        (shift - places.length)), rest)

def literal? (name : String) (s : List Char) : Option (List Char) :=
  if name.toList.isPrefixOf s then some (s.drop name.length) else none

def literals : List (String × Json) :=
  [("null", .null), ("true", .bool true), ("false", .bool false),
    ("NaN", .float FloatText.notANumber), ("Infinity", .float FloatText.infinity),
    ("-Infinity", .float (-FloatText.infinity))]

def scalar (s : List Char) : Except Stop (Json × List Char) :=
  match literals.findSome? fun l => (literal? l.1 s).map fun rest => (l.2, rest) with
  | some r => .ok r
  | none =>
    match s with
    | '-' :: rest => number s true rest
    | _ => number s false s

mutual

/-- A value. There is room for so many containers in one another. Every step down or along uses one
unit of `fuel`; no character takes more than two. -/
def value (fuel room : Nat) (s : List Char) : Except Stop (Json × List Char) :=
  match fuel with
  | 0 => .error (.refused .value s)
  | fuel + 1 =>
    match s, room with
    | '"' :: _, _ => (string s).map fun r => (.str r.1, r.2)
    | '[' :: _, 0 => .error (.tooDeep .array)
    | '[' :: rest, room + 1 =>
      match skipBlanks rest with
      | ']' :: rest => .ok (.arr [], rest)
      | rest => (elements fuel room rest).map fun r => (.arr r.1, r.2)
    | '{' :: _, 0 => .error (.tooDeep .object)
    | '{' :: rest, room + 1 =>
      match skipBlanks rest with
      | '}' :: rest => .ok (.obj [], rest)
      | rest => (members fuel room rest).map fun r => (.obj (Entries.ofList r.1), r.2)
    | s, _ => scalar s

def elements (fuel room : Nat) (s : List Char) : Except Stop (List Json × List Char) :=
  match fuel with
  | 0 => .error (.refused .value s)
  | fuel + 1 => do
    let (item, rest) ← value fuel room s
    match skipBlanks rest with
    | ']' :: rest => .ok ([item], rest)
    | ',' :: rest =>
      let (items, rest) ← elements fuel room (skipBlanks rest)
      .ok (item :: items, rest)
    | rest => .error (.refused .comma rest)

def members (fuel room : Nat) (s : List Char) : Except Stop (List (Text × Json) × List Char) :=
  match fuel with
  | 0 => .error (.refused .name s)
  | fuel + 1 =>
    match s with
    | '"' :: _ => do
      let (name, rest) ← string s
      match skipBlanks rest with
      | ':' :: rest =>
        let (item, rest) ← value fuel room (skipBlanks rest)
        match skipBlanks rest with
        | '}' :: rest => .ok ([(name, item)], rest)
        | ',' :: rest =>
          let (more, rest) ← members fuel room (skipBlanks rest)
          .ok ((name, item) :: more, rest)
        | rest => .error (.refused .comma rest)
      | rest => .error (.refused .colon rest)
    | s => .error (.refused .name s)

end

def document (room : Nat) (s : List Char) : Except Stop Json :=
  match s with
  | '\uFEFF' :: _ => .error (.refused .byteOrderMark s)
  | s => do
    let (v, rest) ← value (2 * s.length + 2) room (skipBlanks s)
    match skipBlanks rest with
    | [] => .ok v
    | rest => .error (.refused .extra rest)

end Parser

def place (s : List Char) (left : Nat) : Nat × Nat × Nat :=
  let before := s.take (s.length - left)
  let line := before.count '\n' + 1
  let column := (before.reverse.takeWhile (· != '\n')).length + 1
  (line, column, before.length)

def parse (room : Nat) (s : List Char) : Except Error Json :=
  match Parser.document room s with
  | .ok v => .ok v
  | .error (.digits count) => .error (.digits count)
  | .error (.tooDeep container) => .error (.tooDeep container)
  | .error (.refused cause rest) =>
    let (line, column, position) := place s rest.length
    .error (.refused cause line column position)

end EmitBridge.Json
