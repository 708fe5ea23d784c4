import EmitBridge.Text.Printable
import EmitBridge.Text.Utf8

/-! Text and bytes in quotes, as messages show them: an apostrophe on both sides unless the
text holds one and no double quote. -/

namespace EmitBridge.Quoted

def apostrophe : Char := '\x27'

def doubleQuote : Char := '\x22'

def quoteFor (holds : Char → Bool) : Char :=
  if holds apostrophe && !holds doubleQuote then doubleQuote else apostrophe

def escape (quote : Char) (p : CodePoint) : List Char :=
  if p.val == quote.toNat || p.val == 0x5C then ['\\', Char.ofNat p.val]
  else if p.val == 0x09 then ['\\', 't']
  else if p.val == 0x0A then ['\\', 'n']
  else if p.val == 0x0D then ['\\', 'r']
  else if p.isPrintable then [Char.ofNat p.val]
  else if p.val < 0x100 then '\\' :: 'x' :: Hex.lowerDigits 2 p.val
  else if p.val < 0x10000 then '\\' :: 'u' :: Hex.lowerDigits 4 p.val
  else '\\' :: 'U' :: Hex.lowerDigits 8 p.val

def text (t : Text) : String :=
  let quote := quoteFor fun c => t.points.contains (CodePoint.ofChar c)
  String.ofList (quote :: t.points.flatMap (escape quote) ++ [quote])

def string (s : String) : String := text (Text.ofString s)

def escapeByte (quote : Char) (b : UInt8) : List Char :=
  if b.toNat < 0x7F then escape quote (CodePoint.ofNat b.toNat)
  else '\\' :: 'x' :: Hex.lowerDigits 2 b.toNat

def bytes (bs : Bytes) : String :=
  let quote := quoteFor fun c => bs.contains (UInt8.ofNat c.toNat)
  String.ofList ('b' :: quote :: bs.flatMap (escapeByte quote) ++ [quote])

end EmitBridge.Quoted
