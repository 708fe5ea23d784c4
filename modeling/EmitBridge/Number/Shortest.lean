/-! The fewest decimal digits that read back as the same binary number, and of those the
nearest. -/

namespace EmitBridge.Shortest

/-- The number `mantissa · 2 ^ exponent`, with what lies halfway to its neighbours given in
quarters of the mantissa's unit. -/
structure Binary where
  mantissa : Nat
  exponent : Int
  /-- The number below is half a unit away. -/
  closeBelow : Bool

namespace Binary

def ofBits (bits : Nat) : Binary :=
  let fraction : Nat := bits % 0x10000000000000
  let biased : Nat := bits / 0x10000000000000 % 0x800
  if biased == 0 then ⟨fraction, -1074, false⟩
  else ⟨0x10000000000000 + fraction, (biased : Int) - 1075, fraction == 0 && 1 < biased⟩

/-- Twice over: the factors under which `d · 10 ^ s` and `a · 2 ^ t` compare as whole numbers. -/
def factors (s t : Int) : Nat × Nat :=
  (Nat.pow 10 s.toNat * Nat.pow 2 (-t).toNat, Nat.pow 2 t.toNat * Nat.pow 10 (-s).toNat)

def holds (b : Binary) (d : Nat) (s : Int) : Bool :=
  let (f, g) := factors s (b.exponent - 2)
  let low := 4 * b.mantissa - (if b.closeBelow then 1 else 2)
  let high := 4 * b.mantissa + 2
  if b.mantissa % 2 == 0 then low * g ≤ d * f && d * f ≤ high * g
  else low * g < d * f && d * f < high * g

def floorAt (b : Binary) (s : Int) : Nat :=
  let (f, g) := factors s b.exponent
  b.mantissa * g / f

/-- The number is nearer to `d · 10 ^ s` than to the next point of the grid; a tie goes to the
even point. -/
def prefersFloor (b : Binary) (d : Nat) (s : Int) : Bool :=
  let (f, g) := factors s b.exponent
  let twice := 2 * (b.mantissa * g - d * f)
  if twice == f then d % 2 == 0 else twice < f

def decimalExponent (b : Binary) : Int :=
  match b.exponent with
  | .ofNat e => ((toString (b.mantissa * Nat.pow 2 e)).length : Int)
  | .negSucc e =>
    let whole := b.mantissa / Nat.pow 2 (e + 1)
    if whole != 0 then ((toString whole).length : Int)
    else match (List.range 400).find? fun j => Nat.pow 2 (e + 1) ≤ b.mantissa * Nat.pow 10 j with
      | some j => 1 - (j : Int)
      | none => 0

def onGrid? (b : Binary) (s : Int) : Option Nat :=
  let d := b.floorAt s
  match b.holds d s, b.holds (d + 1) s with
  | true, true => some (if b.prefersFloor d s then d else d + 1)
  | true, false => some d
  | false, true => some (d + 1)
  | false, false => none

end Binary

structure Decimal where
  digits : List Char
  point : Int

def trimmed (digits : List Char) : List Char :=
  (digits.reverse.dropWhile (· == '0')).reverse

def decimal (b : Binary) : Decimal :=
  let top := b.decimalExponent
  let found := (List.range 17).findSome? fun k =>
    let s := top - (k + 1 : Nat)
    (b.onGrid? s).map fun d => (d, s)
  match found with
  | some (d, s) =>
    let digits := (toString d).toList
    ⟨trimmed digits, s + digits.length⟩
  | none => ⟨['0'], 1⟩

end EmitBridge.Shortest
