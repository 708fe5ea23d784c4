import EmitBridge.Json.Basic
import EmitBridge.Number.Float
import EmitBridge.Text.Hex

/-! JSON texts in ASCII: other characters are escaped by their UTF-16 units. -/

namespace EmitBridge.Json

def unitEscape (n : Nat) : List Char := '\\' :: 'u' :: Hex.lowerDigits 4 n

def escape (p : CodePoint) : List Char :=
  if p.val == 0x22 then ['\\', '"']
  else if p.val == 0x5C then ['\\', '\\']
  else if p.val == 0x0A then ['\\', 'n']
  else if p.val == 0x0D then ['\\', 'r']
  else if p.val == 0x09 then ['\\', 't']
  else if p.val == 0x0C then ['\\', 'f']
  else if p.val == 0x08 then ['\\', 'b']
  else if 0x20 ≤ p.val && p.val ≤ 0x7E then [Char.ofNat p.val]
  else if p.val < 0x10000 then unitEscape p.val
  else
    let n := p.val - 0x10000
    unitEscape (0xD800 + n / 0x400) ++ unitEscape (0xDC00 + n % 0x400)

def quoted (t : Text) : List Char := '"' :: t.points.flatMap escape ++ ['"']

def floatText (x : Float) : List Char :=
  match FloatText.render x with
  | "nan" => "NaN".toList
  | "inf" => "Infinity".toList
  | "-inf" => "-Infinity".toList
  | s => s.toList

def intText (n : Int) : List Char := (toString n).toList

def separated (sep : List Char) : List (List Char) → List Char
  | [] => []
  | [x] => x
  | x :: rest => x ++ sep ++ separated sep rest

mutual

def render : Json → List Char
  | null => "null".toList
  | bool true => "true".toList
  | bool false => "false".toList
  | int n => intText n
  | float x => floatText x
  | str t => quoted t
  | arr items => '[' :: separated [',', ' '] (renderItems items) ++ [']']
  | obj members => '\x7b' :: separated [',', ' '] (renderMembers members) ++ ['\x7d']

def renderItems : List Json → List (List Char)
  | [] => []
  | v :: rest => render v :: renderItems rest

def renderMembers : List (Text × Json) → List (List Char)
  | [] => []
  | (name, v) :: rest => (quoted name ++ ':' :: ' ' :: render v) :: renderMembers rest

end

def lineBreak (level : Nat) : List Char := '\n' :: List.replicate (2 * level) ' '

def block (level : Nat) (opening closing : Char) (items : List (List Char)) : List Char :=
  if items.isEmpty then [opening, closing]
  else
    opening :: lineBreak (level + 1) ++ separated (',' :: lineBreak (level + 1)) items
      ++ lineBreak level ++ [closing]

mutual

def renderLines (level : Nat) : Json → List Char
  | arr items => block level '[' ']' (renderItemLines level items)
  | obj members => block level '\x7b' '\x7d' (renderMemberLines level members)
  | v => render v

def renderItemLines (level : Nat) : List Json → List (List Char)
  | [] => []
  | v :: rest => renderLines (level + 1) v :: renderItemLines level rest

def renderMemberLines (level : Nat) : List (Text × Json) → List (List Char)
  | [] => []
  | (name, v) :: rest =>
    (quoted name ++ ':' :: ' ' :: renderLines (level + 1) v) :: renderMemberLines level rest

end

end EmitBridge.Json
