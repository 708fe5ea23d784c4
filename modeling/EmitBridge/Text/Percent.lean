import EmitBridge.Text.Cut
import EmitBridge.Text.Utf8

/-! Percent-encoding: each byte that a part of an address does not hold plainly is written as a
percent sign and two digits. -/

namespace EmitBridge.Percent

def escape (b : UInt8) : List Char :=
  ['%', Hex.upperDigit (b.toNat / 16), Hex.upperDigit (b.toNat % 16)]

def encode (plain : Char → Bool) (s : List Char) : List Char :=
  s.flatMap fun c => if plain c then [c] else (Utf8.encodePoint c.toNat).flatMap escape

def byte? (a b : Char) : Option UInt8 := do
  let x ← Hex.value? a
  let y ← Hex.value? b
  some (UInt8.ofNat (16 * x + y))

def bytes : List Char → Bytes
  | [] => []
  | '%' :: a :: b :: rest =>
    match byte? a b with
    | some byte => byte :: bytes rest
    | none => 0x25 :: bytes (a :: b :: rest)
  | c :: rest => Utf8.encodePoint c.toNat ++ bytes rest

/-- What a part of an address writes plainly. An escape of a `kept` character stays an
escape. -/
structure Part where
  plain : Char → Bool
  kept : Char → Bool
  spaceAsPlus : Bool

namespace Part

def escapeOrPlain (p : Part) (b : UInt8) : List Char :=
  let c := Char.ofNat b.toNat
  if b < 0x80 && p.plain c && !p.kept c then [c] else escape b

def char (p : Part) (c : Char) : List Char :=
  if c == ' ' && p.spaceAsPlus then ['+']
  else if p.plain c then [c]
  else (Utf8.encodePoint c.toNat).flatMap escape

/-- Escapes what has to be escaped, once: escapes that are already there are kept, or undone
where the character is plain. -/
def requote (p : Part) : List Char → List Char
  | [] => []
  | '%' :: a :: b :: rest =>
    match byte? a b with
    | some byte => p.escapeOrPlain byte ++ requote p rest
    | none => escape 0x25 ++ requote p (a :: b :: rest)
  | c :: rest => p.char c ++ requote p rest

end Part

abbrev Pending := List (UInt8 × List Char)

namespace Pending

def written (ps : Pending) : List Char := ps.flatMap Prod.snd

/-- A read escape either completes a character, or waits for more, or fits nothing. -/
inductive Step
  | char (c : Char)
  | more
  | misfit

def step (ps : Pending) (b : UInt8) : Step :=
  match Utf8.decode (ps.map Prod.fst ++ [b]) with
  | .ok (c :: _) => .char c
  | .ok [] => .more
  | .error e => if e.cause == .unexpectedEnd then .more else .misfit

end Pending

def decodeFrom (pending : Pending) : List Char → List Char
  | [] => pending.written
  | '%' :: a :: b :: rest =>
    match byte? a b with
    | none => pending.written ++ '%' :: decodeFrom [] (a :: b :: rest)
    | some byte =>
      match pending.step byte with
      | .char c => c :: decodeFrom [] rest
      | .more => decodeFrom (pending ++ [(byte, ['%', a, b])]) rest
      | .misfit =>
        pending.written ++
          match Pending.step [] byte with
          | .char c => c :: decodeFrom [] rest
          | .more => decodeFrom [(byte, ['%', a, b])] rest
          | .misfit => '%' :: a :: b :: decodeFrom [] rest
  | c :: rest => pending.written ++ c :: decodeFrom [] rest

def decode (s : List Char) : List Char := decodeFrom [] s

end EmitBridge.Percent
