/-! Hexadecimal digits. -/

namespace EmitBridge.Hex

def digit (isUpper : Bool) (n : Nat) : Char :=
  Char.ofNat (if n % 16 < 10 then 0x30 + n % 16 else (if isUpper then 0x37 else 0x57) + n % 16)

abbrev lowerDigit (n : Nat) : Char := digit false n

abbrev upperDigit (n : Nat) : Char := digit true n

def value? (c : Char) : Option Nat :=
  if '0' ≤ c && c ≤ '9' then some (c.toNat - 0x30)
  else if 'a' ≤ c && c ≤ 'f' then some (c.toNat - 0x57)
  else if 'A' ≤ c && c ≤ 'F' then some (c.toNat - 0x37)
  else none

def lowerDigits : (width : Nat) → (n : Nat) → List Char
  | 0, _ => []
  | width + 1, n => lowerDigits width (n / 16) ++ [lowerDigit n]

def bytes? : List Char → Option (List UInt8)
  | [] => some []
  | [_] => none
  | a :: b :: rest => do
    let x ← value? a
    let y ← value? b
    let bs ← bytes? rest
    some (UInt8.ofNat (16 * x + y) :: bs)

def ofBytes (bs : List UInt8) : List Char := bs.flatMap fun b => lowerDigits 2 b.toNat

end EmitBridge.Hex
