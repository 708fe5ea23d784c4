import EmitBridge.Number.Shortest

/-! Floating-point numbers as text: the shortest decimal, positional between ten to the minus
fourth and ten to the sixteenth, and a float read from a decimal. -/

namespace EmitBridge.FloatText

def leastPoint : Int := -3

def greatestPoint : Int := 16

def positional (d : Shortest.Decimal) : List Char :=
  let n := d.digits.length
  if d.point ≤ 0 then '0' :: '.' :: List.replicate (-d.point).toNat '0' ++ d.digits
  else if n ≤ d.point.toNat then
    d.digits ++ List.replicate (d.point.toNat - n) '0' ++ ['.', '0']
  else d.digits.take d.point.toNat ++ '.' :: d.digits.drop d.point.toNat

def exponent (e : Int) : List Char :=
  let digits := (toString e.natAbs).toList
  (if e < 0 then '-' else '+') :: (if digits.length < 2 then '0' :: digits else digits)

def scientific (d : Shortest.Decimal) : List Char :=
  let mantissa := match d.digits with
    | [c] => [c]
    | c :: rest => c :: '.' :: rest
    | [] => []
  mantissa ++ 'e' :: exponent (d.point - 1)

def render (x : Float) : String :=
  let bits := x.toBits.toNat
  let magnitude := bits % 0x8000000000000000
  let sign := if bits < 0x8000000000000000 then "" else "-"
  if 0x7FF0000000000000 < magnitude then "nan"
  else if magnitude == 0x7FF0000000000000 then sign ++ "inf"
  else if magnitude == 0 then sign ++ "0.0"
  else
    let d := Shortest.decimal (Shortest.Binary.ofBits magnitude)
    sign ++ String.ofList
      (if leastPoint ≤ d.point && d.point ≤ greatestPoint then positional d else scientific d)

def infinity : Float := Float.ofBits 0x7FF0000000000000

def notANumber : Float := Float.ofBits 0x7FF8000000000000

def nearest (mantissa : Nat) (exponent : Int) : Float :=
  let top := ((toString mantissa).length : Int) + exponent
  if mantissa == 0 || top < -400 then 0.0
  else if 400 < top then infinity
  else match exponent with
    | .ofNat e => Float.ofScientific (mantissa * Nat.pow 10 e) false 0
    | .negSucc e => Float.ofScientific mantissa true (e + 1)

def signed (negative : Bool) (mantissa : Nat) (exponent : Int) : Float :=
  if negative then -nearest mantissa exponent else nearest mantissa exponent

end EmitBridge.FloatText
