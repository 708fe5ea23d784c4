import EmitBridge.Markup.Console
import EmitBridge.Text.Emoji

/-! Text with tags in brackets for styles. A tag that closes nothing is refused. A backslash before
a tag makes text of it. -/

namespace EmitBridge.Markup

inductive Piece
  | text (s : List Char)
  | tag (position : Nat) (name : List Char) (parameters : Option (List Char))
deriving DecidableEq, Repr

def beginsTag (c : Char) : Bool := ('a' ≤ c && c ≤ 'z') || c == '#' || c == '/' || c == '@'

def backslash : Char := '\\'

def trailing (s : List Char) : Nat := (s.reverse.takeWhile (· == backslash)).length

def textPiece (s : List Char) : List Piece := if s.isEmpty then [] else [.text s]

/-- The pieces of some text with a tag behind it. Two backslashes before a tag are one, and a single
one makes text of the tag. -/
def pieces (position : Nat) (before body : List Char) : List Piece :=
  let n := trailing before
  textPiece (before.take (before.length - n)) ++ textPiece (List.replicate (n / 2) backslash)
    ++ [if n % 2 == 1 then .text ('[' :: body ++ [']'])
      else .tag position (Cut.first '=' body).1 (Cut.first '=' body).2]

/-- Cuts a text into its pieces. `position` is the place of the next character, `before` the text
since the last tag, and `inside` what follows a bracket that may begin a tag. -/
def scan (position : Nat) (before : List Char) (inside : Option (List Char)) :
    List Char → List Piece
  | [] =>
    match inside with
    | none => textPiece before
    | some body => textPiece (before ++ '[' :: body)
  | c :: rest =>
    match inside with
    | none =>
      if c == '[' then scan (position + 1) before (some []) rest
      else scan (position + 1) (before ++ [c]) none rest
    | some body =>
      if c == '[' then scan (position + 1) (before ++ '[' :: body) (some []) rest
      else if body.isEmpty && !beginsTag c then scan (position + 1) (before ++ ['[', c]) none rest
      else if c == ']' then
        pieces (position - body.length - 1) before body ++ scan (position + 1) [] none rest
      else scan (position + 1) before (some (body ++ [c])) rest

def unescape : List Char → List Char
  | [] => []
  | [c] => [c]
  | c :: d :: rest =>
    if c == backslash && d == '[' then '[' :: unescape rest else c :: unescape (d :: rest)

def written (name : List Char) (parameters : Option (List Char)) : String :=
  String.ofList ('[' :: name ++ match parameters with
    | some p => '=' :: p ++ [']']
    | none => [']'])

structure Opened where
  start : Nat
  name : List Char
  parameters : Option (List Char)
deriving DecidableEq, Repr

namespace Opened

def style (o : Opened) : List Char :=
  match o.parameters with
  | some p => o.name ++ ' ' :: p
  | none => o.name

def isAction (o : Opened) : Bool := o.name.head? == some '@'

/-- What the tag leaves where it is closed: its span, or nothing that is read later, if it stands
for an action. The parameters of an action are read. -/
def close (console : Console) (stop : Nat) (o : Opened) : Except Fault (List Span) :=
  if o.isAction then
    match (o.parameters.filter (!·.isEmpty)).bind console.refusal? with
    | some message => .error (.action message)
    | none => .ok []
  else .ok [⟨o.start, stop, o.style⟩]

end Opened

def close (position : Nat) (name : List Char) (parameters : Option (List Char))
    (opened : List Opened) : Except Fault (Opened × List Opened) :=
  let style := Text.trimChars name.tail
  if style.isEmpty then
    match opened with
    | o :: rest => .ok (o, rest)
    | [] => .error (.bareClosingTag position)
  else do
    let style ← Style.normalName style
    match opened.find? (·.name == style) with
    | some o => return (o, opened.eraseP (·.name == style))
    | none => .error (.markup (written name parameters) position)

def inOrder (spans : List Span) : List Span :=
  spans.reverse.mergeSort fun s t => s.start ≤ t.start

def plain (console : Console) (opened : List Opened) (done : Styled) :
    List Piece → Except Fault Styled
  | [] =>
    .ok ⟨done.chars, inOrder
      (done.spans ++ opened.map fun o => ⟨o.start, done.chars.length, o.style⟩)⟩
  | .text s :: rest =>
    plain console opened
      { done with chars := done.chars ++ Console.sanitize (Emoji.replace (unescape s)) } rest
  | .tag position name parameters :: rest =>
    if name.head? == some '/' then do
      let (o, opened) ← close position name parameters opened
      let span ← o.close console done.chars.length
      plain console opened { done with spans := done.spans ++ span } rest
    else do
      let style ← Style.normalName name
      plain console (⟨done.chars.length, style, parameters⟩ :: opened) done rest

def render (console : Console) (s : List Char) : Except Fault Styled :=
  plain console [] .empty (scan 0 [] none s)

end EmitBridge.Markup
