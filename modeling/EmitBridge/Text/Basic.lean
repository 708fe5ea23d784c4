/-! Text as a sequence of code points, in which a surrogate may stand alone. A text without
surrogates is exactly a string. -/

namespace EmitBridge

abbrev CodePoint := Fin 0x110000

namespace CodePoint

def ofNat (n : Nat) : CodePoint := ⟨n % 0x110000, Nat.mod_lt _ (by decide)⟩

def ofChar (c : Char) : CodePoint := ofNat c.toNat

def isHighSurrogate (p : CodePoint) : Bool := 0xD800 ≤ p.val && p.val ≤ 0xDBFF

def isLowSurrogate (p : CodePoint) : Bool := 0xDC00 ≤ p.val && p.val ≤ 0xDFFF

def isSurrogate (p : CodePoint) : Bool := 0xD800 ≤ p.val && p.val ≤ 0xDFFF

def toChar? (p : CodePoint) : Option Char :=
  if p.isSurrogate then none else some (Char.ofNat p.val)

end CodePoint

structure Text where
  points : List CodePoint
deriving DecidableEq, Repr, Inhabited

namespace Text

def ofChars (cs : List Char) : Text := ⟨cs.map CodePoint.ofChar⟩

def ofString (s : String) : Text := ofChars s.toList

instance : Coe String Text := ⟨ofString⟩

instance : Append Text := ⟨fun s t => ⟨s.points ++ t.points⟩⟩

def length (t : Text) : Nat := t.points.length

def isEmpty (t : Text) : Bool := t.points.isEmpty

def hasSurrogate (t : Text) : Bool := t.points.any CodePoint.isSurrogate

def toChars? (t : Text) : Option (List Char) := t.points.mapM CodePoint.toChar?

def toString? (t : Text) : Option String := t.toChars?.map String.ofList

/-- The text as a string, with U+FFFD for every surrogate. -/
def toString (t : Text) : String :=
  String.ofList (t.points.map fun p => p.toChar?.getD '\uFFFD')

instance : ToString Text := ⟨Text.toString⟩

end Text

end EmitBridge
