import EmitBridge.Text.Basic
import EmitBridge.Text.Hex

/-! UTF-8, read strictly: the first byte sequence that spells no character is refused, with its
place and the reason. -/

namespace EmitBridge

abbrev Bytes := List UInt8

namespace Utf8

inductive DecodeCause
  | invalidStart
  | invalidContinuation
  | unexpectedEnd
deriving DecidableEq, Repr

/-- `length` bytes from `start` on, the first of them `first`, spell no character. -/
structure DecodeError where
  first : UInt8
  start : Nat
  length : Nat
  cause : DecodeCause
deriving DecidableEq, Repr

namespace DecodeCause

def message : DecodeCause → String
  | invalidStart => "invalid start byte"
  | invalidContinuation => "invalid continuation byte"
  | unexpectedEnd => "unexpected end of data"

end DecodeCause

def codecName : String := "'utf-8' codec"

namespace DecodeError

def message (e : DecodeError) : String :=
  let place :=
    if e.length == 1 then
      "byte 0x" ++ String.ofList (Hex.lowerDigits 2 e.first.toNat) ++ " in position "
        ++ toString e.start
    else
      "bytes in position " ++ toString e.start ++ "-" ++ toString (e.start + e.length - 1)
  codecName ++ " can't decode " ++ place ++ ": " ++ e.cause.message

end DecodeError

def encodePoint (n : Nat) : Bytes :=
  if n < 0x80 then [UInt8.ofNat n]
  else if n < 0x800 then [UInt8.ofNat (0xC0 + n / 0x40), UInt8.ofNat (0x80 + n % 0x40)]
  else if n < 0x10000 then
    [UInt8.ofNat (0xE0 + n / 0x1000), UInt8.ofNat (0x80 + n / 0x40 % 0x40),
      UInt8.ofNat (0x80 + n % 0x40)]
  else
    [UInt8.ofNat (0xF0 + n / 0x40000), UInt8.ofNat (0x80 + n / 0x1000 % 0x40),
      UInt8.ofNat (0x80 + n / 0x40 % 0x40), UInt8.ofNat (0x80 + n % 0x40)]

def encodeChars (cs : List Char) : Bytes := cs.flatMap fun c => encodePoint c.toNat

def encodeString (s : String) : Bytes := encodeChars s.toList

/-- A run of surrogates from `start` on has no bytes. -/
structure EncodeError where
  first : CodePoint
  start : Nat
  length : Nat
deriving DecidableEq, Repr

namespace EncodeError

def message (e : EncodeError) : String :=
  let place :=
    if e.length == 1 then
      "character '\\u" ++ String.ofList (Hex.lowerDigits 4 e.first.val) ++ "' in position "
        ++ toString e.start
    else
      "characters in position " ++ toString e.start ++ "-" ++ toString (e.start + e.length - 1)
  codecName ++ " can't encode " ++ place ++ ": surrogates not allowed"

end EncodeError

def encode (t : Text) : Except EncodeError Bytes :=
  match t.toChars? with
  | some cs => .ok (encodeChars cs)
  | none =>
    let before := t.points.takeWhile fun p => !p.isSurrogate
    let run := (t.points.drop before.length).takeWhile CodePoint.isSurrogate
    .error ⟨run.headD 0, before.length, run.length⟩

def isTail (b : UInt8) : Bool := 0x80 ≤ b && b ≤ 0xBF

def isSecond (first second : UInt8) : Bool :=
  isTail second && match first with
    | 0xE0 => 0xA0 ≤ second
    | 0xED => second ≤ 0x9F
    | 0xF0 => 0x90 ≤ second
    | 0xF4 => second ≤ 0x8F
    | _ => true

def joined (lead : Nat) (tails : List UInt8) : Char :=
  Char.ofNat (tails.foldl (fun n b => 0x40 * n + (b.toNat - 0x80)) lead)

def decodeFrom (pos : Nat) : Bytes → Except DecodeError (List Char)
  | [] => .ok []
  | a :: rest =>
    let refuse (length : Nat) (cause : DecodeCause) : Except DecodeError (List Char) :=
      .error ⟨a, pos, length, cause⟩
    if a < 0x80 then (Char.ofNat a.toNat :: ·) <$> decodeFrom (pos + 1) rest
    else if a < 0xC2 || 0xF4 < a then refuse 1 .invalidStart
    else if a < 0xE0 then
      match rest with
      | [] => refuse 1 .unexpectedEnd
      | b :: rest =>
        if isTail b then (joined (a.toNat - 0xC0) [b] :: ·) <$> decodeFrom (pos + 2) rest
        else refuse 1 .invalidContinuation
    else if a < 0xF0 then
      match rest with
      | [] => refuse 1 .unexpectedEnd
      | [b] => if isSecond a b then refuse 2 .unexpectedEnd else refuse 1 .invalidContinuation
      | b :: c :: rest =>
        if !isSecond a b then refuse 1 .invalidContinuation
        else if !isTail c then refuse 2 .invalidContinuation
        else (joined (a.toNat - 0xE0) [b, c] :: ·) <$> decodeFrom (pos + 3) rest
    else
      match rest with
      | [] => refuse 1 .unexpectedEnd
      | [b] => if isSecond a b then refuse 2 .unexpectedEnd else refuse 1 .invalidContinuation
      | [b, c] =>
        if !isSecond a b then refuse 1 .invalidContinuation
        else if !isTail c then refuse 2 .invalidContinuation
        else refuse 3 .unexpectedEnd
      | b :: c :: d :: rest =>
        if !isSecond a b then refuse 1 .invalidContinuation
        else if !isTail c then refuse 2 .invalidContinuation
        else if !isTail d then refuse 3 .invalidContinuation
        else (joined (a.toNat - 0xF0) [b, c, d] :: ·) <$> decodeFrom (pos + 4) rest

def decode (bs : Bytes) : Except DecodeError (List Char) := decodeFrom 0 bs

def decodeLossy : Bytes → List Char
  | [] => []
  | b :: rest =>
    match decode (b :: rest) with
    | .ok cs => cs
    | .error e =>
      (decode ((b :: rest).take e.start)).toOption.getD []
        ++ '\uFFFD' :: decodeLossy (rest.drop (e.start + e.length - 1))
termination_by bs => bs.length
decreasing_by
  simp only [List.length_drop, List.length_cons]
  omega

end Utf8

end EmitBridge
