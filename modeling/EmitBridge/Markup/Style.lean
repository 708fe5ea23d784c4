import EmitBridge.Failure
import EmitBridge.Text.Case
import EmitBridge.Text.Cut
import EmitBridge.Text.Decimal

/-! Styles of text. Two spellings of one style have the same normal name. -/

namespace EmitBridge

namespace Color

def names : String := "
black red green yellow blue magenta cyan white bright_black bright_red bright_green
bright_yellow bright_blue bright_magenta bright_cyan bright_white grey0 gray0 navy_blue
dark_blue blue3 blue1 dark_green deep_sky_blue4 dodger_blue3 dodger_blue2 green4 spring_green4
turquoise4 deep_sky_blue3 dodger_blue1 green3 spring_green3 dark_cyan light_sea_green
deep_sky_blue2 deep_sky_blue1 spring_green2 cyan3 dark_turquoise turquoise2 green1 spring_green1
medium_spring_green cyan2 cyan1 dark_red deep_pink4 purple4 purple3 blue_violet orange4 grey37
gray37 medium_purple4 slate_blue3 royal_blue1 chartreuse4 dark_sea_green4 pale_turquoise4
steel_blue steel_blue3 cornflower_blue chartreuse3 cadet_blue sky_blue3 steel_blue1 pale_green3
sea_green3 aquamarine3 medium_turquoise chartreuse2 sea_green2 sea_green1 aquamarine1
dark_slate_gray2 dark_magenta dark_violet purple light_pink4 plum4 medium_purple3 slate_blue1
yellow4 wheat4 grey53 gray53 light_slate_grey light_slate_gray medium_purple light_slate_blue
dark_olive_green3 dark_sea_green light_sky_blue3 sky_blue2 dark_sea_green3 dark_slate_gray3
sky_blue1 chartreuse1 light_green pale_green1 dark_slate_gray1 red3 medium_violet_red magenta3
dark_orange3 indian_red hot_pink3 medium_orchid3 medium_orchid medium_purple2 dark_goldenrod
light_salmon3 rosy_brown grey63 gray63 medium_purple1 gold3 dark_khaki navajo_white3 grey69
gray69 light_steel_blue3 light_steel_blue yellow3 dark_sea_green2 light_cyan3 light_sky_blue1
green_yellow dark_olive_green2 dark_sea_green1 pale_turquoise1 deep_pink3 magenta2 hot_pink2
orchid medium_orchid1 orange3 light_pink3 pink3 plum3 violet light_goldenrod3 tan misty_rose3
thistle3 plum2 khaki3 light_goldenrod2 light_yellow3 grey84 gray84 light_steel_blue1 yellow2
dark_olive_green1 honeydew2 light_cyan1 red1 deep_pink2 deep_pink1 magenta1 orange_red1
indian_red1 hot_pink dark_orange salmon1 light_coral pale_violet_red1 orchid2 orchid1 orange1
sandy_brown light_salmon1 light_pink1 pink1 plum1 gold1 navajo_white1 misty_rose1 thistle1
yellow1 light_goldenrod1 khaki1 wheat1 cornsilk1 grey100 gray100 grey3 gray3 grey7 gray7 grey11
gray11 grey15 gray15 grey19 gray19 grey23 gray23 grey27 gray27 grey30 gray30 grey35 gray35
grey39 gray39 grey42 gray42 grey46 gray46 grey50 gray50 grey54 gray54 grey58 gray58 grey62
gray62 grey66 gray66 grey70 gray70 grey74 gray74 grey78 gray78 grey82 gray82 grey85 gray85
grey89 gray89 grey93 gray93
default
"

def splitWords (s : List Char) : List (List Char) :=
  (Cut.all ' ' (s.map fun c => if (CodePoint.ofChar c).isBlank then ' ' else c)).filter
    (!·.isEmpty)

def named : List (List Char) := splitWords names.toList

def isByte (s : List Char) : Bool :=
  !s.isEmpty && s.all Char.isDigit && s.foldl (fun n c => 10 * n + (c.toNat - 48)) 0 ≤ 255

def isHexDigit (c : Char) : Bool := c.isDigit || ('a' ≤ c && c ≤ 'f')

def arguments? (word s : List Char) : Option (List Char) :=
  if word.isPrefixOf s && s.getLast? == some ')' then some ((s.drop word.length).dropLast) else none

def isDecimal (c : Char) : Bool := (CodePoint.ofChar c).decimalValue?.isSome

def component (s : List Char) : Except Fault Nat :=
  if s.isEmpty then .error (.raised .value "invalid literal for int() with base 10: ''")
  else if digitLimit < s.length then .error (.json (.digits s.length))
  else .ok (WholeNumber.ofDigits (s.filterMap fun c => (CodePoint.ofChar c).decimalValue?))

/-- Three numbers with commas between them. That digits are missing is seen too late: there is no
such color, but a fault. -/
def isTriple (s : List Char) : Except Fault Bool :=
  let parts := Cut.all ',' s
  if s.all (fun c => isDecimal c || c == ',') && parts.length == 3 then do
    let ns ← parts.mapM component
    return ns.all (· ≤ 255)
  else .ok false

def isColor (s : List Char) : Except Fault Bool :=
  if named.contains s
    || (s.head? == some '#' && s.length == 7 && s.tail.all isHexDigit)
    || (arguments? "color(".toList s).any (fun n => n.length ≤ 3 && isByte n) then .ok true
  else match arguments? "rgb(".toList s with
    | some ns => isTriple ns
    | none => .ok false

end Color

structure Style where
  attributes : List (String × Bool)
  color : Option (List Char)
  background : Option (List Char)
  link : Option (List Char)
deriving DecidableEq, Repr

namespace Style

def attributeNames : List (String × List String) :=
  [("bold", ["bold", "b"]), ("dim", ["dim", "d"]), ("italic", ["italic", "i"]),
    ("underline", ["underline", "u"]), ("blink", ["blink"]), ("blink2", ["blink2"]),
    ("reverse", ["reverse", "r"]), ("conceal", ["conceal", "c"]), ("strike", ["strike", "s"]),
    ("underline2", ["underline2", "uu"]), ("frame", ["frame"]), ("encircle", ["encircle"]),
    ("overline", ["overline", "o"])]

def attribute? (word : List Char) : Option String :=
  (attributeNames.find? fun a => a.2.contains (String.ofList word)).map Prod.fst

def lower (s : List Char) : List Char := (Text.ofChars s).lower.toString.toList

/-- A style from its words, which add to `s`; a word that means nothing makes it none. -/
def readWords (s : Style) : List (List Char) → Except Fault (Option Style)
  | [] => .ok (some s)
  | [word] =>
    match attribute? (lower word) with
    | some a => .ok (some { s with attributes := (a, true) :: s.attributes })
    | none => do
      return if ← Color.isColor (lower word) then some { s with color := some (lower word) }
        else none
  | word :: next :: rest =>
    let w := lower word
    if w == "on".toList then do
      if ← Color.isColor (lower next) then
        readWords { s with background := some (lower next) } rest
      else return none
    else if w == "not".toList then
      match attribute? next with
      | some a => readWords { s with attributes := (a, false) :: s.attributes } rest
      | none => .ok none
    else if w == "link".toList then readWords { s with link := some next } rest
    else match attribute? w with
      | some a => readWords { s with attributes := (a, true) :: s.attributes } (next :: rest)
      | none => do
        if ← Color.isColor w then readWords { s with color := some w } (next :: rest)
        else return none

def read? (text : List Char) : Except Fault (Option Style) :=
  readWords ⟨[], none, none, none⟩ (Color.splitWords text)

def attributeWords (s : Style) : List (List Char) :=
  attributeNames.filterMap fun a =>
    (s.attributes.lookup a.1).map fun isOn => (if isOn then a.1 else "not " ++ a.1).toList

def name (s : Style) : List Char :=
  let words := s.attributeWords ++ s.color.toList
    ++ (s.background.map fun c => "on ".toList ++ c).toList
    ++ (s.link.map fun l => "link ".toList ++ l).toList
  if words.isEmpty then "none".toList else Cut.join ' ' words

/-- The normal name of what may be a style; another text is its own name, in lower case. -/
def normalName (text : List Char) : Except Fault (List Char) := do
  match ← read? text with
  | some s => return s.name
  | none => return lower (Text.trimChars text)

end Style

end EmitBridge
