import EmitBridge.Text.Case
import EmitBridge.Text.Cut
import EmitBridge.Text.Decimal
import EmitBridge.Text.Emoji.Names

/-! Emoji by name: a name between two colons stands for the emoji. A name that is none stays as it
is written, with both colons. -/

namespace EmitBridge.Emoji

def inPairs : List (List Char) → List (List Char × List Char)
  | name :: glyph :: rest => (name, glyph) :: inPairs rest
  | _ => []

def separates (c : Char) : Bool := [' ', '\n', ':', '[', '\\'].contains c

def table : List (List Char × List Char) :=
  let words := Cut.all ' ' (names.toList.map fun c => if separates c then ' ' else c)
  inPairs (words.filter (!·.isEmpty))

def variants : List (List Char × Char) := [("-emoji".toList, '\uFE0F'), ("-text".toList, '\uFE0E')]

def splitVariant (name : List Char) : List Char × List Char :=
  match variants.find? fun v => v.1.isSuffixOf name with
  | some v => (name.take (name.length - v.1.length), [v.2])
  | none => (name, [])

def lower (name : List Char) : List Char := (Text.ofChars name).lower.toString.toList

def glyph? (name : List Char) : Option (List Char) :=
  let (name, mark) := splitVariant name
  (table.lookup (lower name)).map (· ++ mark)

def isBlank (c : Char) : Bool := (CodePoint.ofChar c).isBlank

/-- Replaces names, where `name` has been read behind a colon, if there was one. Blanks end what
cannot be a name. -/
def replaceFrom (name : Option (List Char)) : List Char → List Char
  | [] =>
    match name with
    | none => []
    | some name => ':' :: name
  | c :: rest =>
    match name with
    | none => if c == ':' then replaceFrom (some []) rest else c :: replaceFrom none rest
    | some name =>
      if c == ':' then (glyph? name).getD (':' :: name ++ [':']) ++ replaceFrom none rest
      else if isBlank c then ':' :: name ++ c :: replaceFrom none rest
      else replaceFrom (some (name ++ [c])) rest

def replace (s : List Char) : List Char := replaceFrom none s

end EmitBridge.Emoji
