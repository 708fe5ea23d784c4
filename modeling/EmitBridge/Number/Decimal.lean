import EmitBridge.Number.Float
import EmitBridge.Text.Decimal

/-! The float that a text spells: a decimal with or without a point and an exponent, or a name for
infinity or for no number. -/

namespace EmitBridge.FloatText

def isDigit (c : Char) : Bool := '0' ≤ c && c ≤ '9'

def natOf (ds : List Char) : Nat := ds.foldl (fun n c => 10 * n + (c.toNat - 0x30)) 0

def splitSign : List Char → Bool × List Char
  | '-' :: rest => (true, rest)
  | '+' :: rest => (false, rest)
  | rest => (false, rest)

def exponentOf? : List Char → Option Int
  | [] => some 0
  | c :: rest =>
    if c == 'e' || c == 'E' then
      let (negative, ds) := splitSign rest
      if ds.isEmpty || !ds.all isDigit then none
      else some (if negative then -(natOf ds : Int) else natOf ds)
    else none

def magnitude? (s : List Char) : Option (Nat × Int) := do
  let whole := s.takeWhile isDigit
  let rest := s.dropWhile isDigit
  let (places, rest) := match rest with
    | '.' :: rest => (rest.takeWhile isDigit, rest.dropWhile isDigit)
    | rest => ([], rest)
  if whole.isEmpty && places.isEmpty then none
  else do
    let e ← exponentOf? rest
    some (natOf (whole ++ places), e - places.length)

def named? (s : List Char) : Option Float :=
  match String.ofList (s.map Char.toLower) with
  | "inf" | "infinity" => some infinity
  | "nan" => some notANumber
  | _ => none

def plain? (s : List Char) : Option Float :=
  let (negative, s) := splitSign s
  match magnitude? s with
  | some (m, e) => some (signed negative m e)
  | none => (named? s).map fun x => if negative then -x else x

def isGrouped (s : List Char) : Bool :=
  s.contains '_' && s.head? != some '_' && s.getLast? != some '_'
    && !(s.zip (s.drop 1)).contains ('_', '_')

def isBlankChar (c : Char) : Bool := WholeNumber.isMargin (CodePoint.ofChar c)

/-- The float that a text spells, blanks around it aside; single `_` may group its digits. -/
def read? (s : List Char) : Option Float :=
  let trimmed := ((s.dropWhile isBlankChar).reverse.dropWhile isBlankChar).reverse
  match plain? trimmed with
  | some x => some x
  | none => if isGrouped trimmed then plain? (trimmed.filter (· != '_')) else none

end EmitBridge.FloatText
