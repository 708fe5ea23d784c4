import EmitBridge.Markup.Style

/-! Styled text, and how a console lays it out. -/

namespace EmitBridge

structure Span where
  start : Nat
  stop : Nat
  style : List Char
deriving DecidableEq, Repr

namespace Span

def shift (n : Nat) (s : Span) : Span := { s with start := s.start + n, stop := s.stop + n }

def between? (start stop : Nat) (s : Span) : Option Span :=
  let first := max s.start start
  let last := min s.stop stop
  if first < last then some ⟨first - start, last - start, s.style⟩ else none

end Span

structure Styled where
  chars : List Char
  spans : List Span
deriving DecidableEq, Repr

namespace Styled

def empty : Styled := ⟨[], []⟩

def append (t u : Styled) : Styled :=
  ⟨t.chars ++ u.chars, t.spans ++ u.spans.map (Span.shift t.chars.length)⟩

def spansIn (t : Styled) (start stop : Nat) : List Span :=
  t.spans.filterMap (Span.between? start stop)

def parts (t : Styled) (start : Nat) : List (List Char) → List Styled
  | [] => []
  | piece :: pieces =>
    ⟨piece, t.spansIn start (start + piece.length)⟩ :: parts t (start + piece.length + 1) pieces

/-- The lines of a text. A text of one line keeps all its spans, also those without a character. -/
def lines (t : Styled) : List Styled :=
  if t.chars.contains '\n' then t.parts 0 (Cut.all '\n' t.chars) else [t]

def pad (n : Nat) (t : Styled) : Styled where
  chars := t.chars ++ List.replicate n ' '
  spans := t.spans.map fun s =>
    if t.chars.length ≤ s.stop then { s with stop := s.stop + n } else s

def crop (n : Nat) (t : Styled) : Styled :=
  let length := t.chars.length - n
  { chars := t.chars.take length
    spans := (t.spans.filter (·.start < length)).map fun s => { s with stop := min length s.stop } }

end Styled

/-- Where lines for the user are shown: its width, how many columns a text takes, whether blanks
beyond the width are cut off, and for parameters of an action that cannot be read, what is said of
them. -/
structure Console where
  width : Nat
  columns : List Char → Nat
  cutsBlanks : Bool
  refusal? : List Char → Option String

namespace Console

variable (console : Console)

def isDropped (c : Char) : Bool := [7, 8, 11, 12, 13].contains c.toNat

def sanitize (s : List Char) : List Char := s.filter (!isDropped ·)

def tabWidth : Nat := 8

def gap (column : Nat) : Nat := (tabWidth - column % tabWidth) % tabWidth

/-- Pieces between tabs, with blanks for the tabs. `start` is the place of the first piece in the
whole text, and `column` where it is shown. -/
def tabbed (t : Styled) (start column : Nat) : List (List Char) → Styled
  | [] => .empty
  | [piece] => ⟨piece, t.spansIn start (start + piece.length)⟩
  | piece :: pieces =>
    let behind := start + piece.length + 1
    let blank : Styled := ⟨piece ++ [' '], t.spansIn start behind⟩
    let reached := column + console.columns blank.chars
    (blank.pad (gap reached)).append (tabbed t behind (reached + gap reached) pieces)

def expandTabs (t : Styled) : Styled :=
  if t.chars.contains '\t' then console.tabbed t 0 0 (Cut.all '\t' t.chars) else t

def excess (s : List Char) : Nat :=
  let blanks := (s.reverse.takeWhile fun c => (CodePoint.ofChar c).isBlank).length
  if console.cutsBlanks then min blanks (s.length - console.width) else 0

def cutBlanks (t : Styled) : Styled :=
  match console.excess t.chars with
  | 0 => t
  | n => t.crop n

def layout (t : Styled) : List Styled :=
  t.lines.map fun line => console.cutBlanks (console.expandTabs line)

def shown (t : Styled) : List Char := Cut.join '\n' ((console.layout t).map Styled.chars)

def checkStyles (t : Styled) : Except Fault Unit :=
  (console.layout t).forM fun line => line.spans.forM fun s => do
    let _ ← Style.read? s.style
    return ()

def print (t : Styled) : Except Fault (List Char) := do
  console.checkStyles t
  return console.shown t

end Console

end EmitBridge
