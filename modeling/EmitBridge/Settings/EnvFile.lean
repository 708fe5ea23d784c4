import EmitBridge.Text.Decimal

/-! Files of settings: a line holds a name, an equals sign and a value with or without quotes. In
values, `$` and a name in braces stand for what is set under the name. -/

namespace EmitBridge.EnvFile

def isBlank (c : Char) : Bool := (CodePoint.ofChar c).isBlank

def isSpace (c : Char) : Bool := isBlank c && c != '\n' && c != '\r'

def endsLine (c : Char) : Bool := c == '\n' || c == '\r'

def skipSpaces (s : List Char) : List Char := s.dropWhile isSpace

def skipLine (s : List Char) : List Char := (s.dropWhile fun c => !endsLine c).drop 1

def skipExport (s : List Char) : List Char :=
  if "export".toList.isPrefixOf s && (s.drop 6).head?.any isSpace then skipSpaces (s.drop 6) else s

def unescapedEnd (quote : Char) : List Char → Option (List Char × List Char)
  | [] => none
  | [c] => if c == quote then some ([], []) else none
  | c :: d :: rest =>
    if c == quote then some ([], d :: rest)
    else if c == '\\' && d == quote then
      (unescapedEnd quote rest).map fun r => (c :: d :: r.1, r.2)
    else (unescapedEnd quote (d :: rest)).map fun r => (c :: r.1, r.2)

def escapedEnd (quote : Char) : List Char → Option (List Char × List Char)
  | [] => none
  | [_] => none
  | c :: d :: rest =>
    if c == '\\' && d == quote then
      match escapedEnd quote rest with
      | some r => some (c :: d :: r.1, r.2)
      | none => some ([c], rest)
    else (escapedEnd quote (d :: rest)).map fun r => (c :: r.1, r.2)

/-- The text between quotes; where every quote has a backslash before it, the last one closes. -/
def quoted (quote : Char) (s : List Char) : Option (List Char × List Char) :=
  match unescapedEnd quote s with
  | some r => some r
  | none => escapedEnd quote s

def singleEscape? (c : Char) : Option Char :=
  if c == '\\' || c == '\x27' then some c else none

def doubleEscape? (c : Char) : Option Char :=
  match c with
  | '\\' => some '\\'
  | '\x27' => some '\x27'
  | '"' => some '"'
  | 'a' => some '\x07'
  | 'b' => some '\x08'
  | 'f' => some '\x0c'
  | 'n' => some '\n'
  | 'r' => some '\r'
  | 't' => some '\t'
  | 'v' => some '\x0b'
  | _ => none

def unescape (read : Char → Option Char) : List Char → List Char
  | [] => []
  | [c] => [c]
  | c :: d :: rest =>
    if c == '\\' then
      match read d with
      | some x => x :: unescape read rest
      | none => c :: unescape read (d :: rest)
    else c :: unescape read (d :: rest)

def withoutComment : List Char → List Char
  | [] => []
  | c :: rest =>
    if isBlank c && (rest.dropWhile isBlank).head? == some '#' then [] else c :: withoutComment rest

def trimEnd (s : List Char) : List Char := (s.reverse.dropWhile isBlank).reverse

def value (s : List Char) : Option (List Char × List Char) :=
  match s with
  | '\x27' :: rest => (quoted '\x27' rest).map fun r => (unescape singleEscape? r.1, r.2)
  | '"' :: rest => (quoted '"' rest).map fun r => (unescape doubleEscape? r.1, r.2)
  | s =>
    some (trimEnd (withoutComment (s.takeWhile fun c => !endsLine c)),
      s.dropWhile fun c => !endsLine c)

def name (s : List Char) : Option (Option (List Char) × List Char) :=
  match s with
  | '#' :: _ => some (none, s)
  | '\x27' :: rest =>
    let key := rest.takeWhile (· != '\x27')
    match rest.drop key.length with
    | _ :: after => if key.isEmpty then none else some (some key, after)
    | [] => none
  | s =>
    let key := s.takeWhile fun c => c != '=' && c != '#' && !isBlank c
    if key.isEmpty then none else some (some key, s.drop key.length)

def lineEnd (s : List Char) : Option (List Char) :=
  let s := match skipSpaces s with
    | '#' :: rest => rest.dropWhile fun c => !endsLine c
    | rest => rest
  match s with
  | [] => some []
  | c :: rest => if endsLine c then some rest else none

abbrev Bindings := List (List Char × Option (List Char))

/-- One line without the blanks before it: what it binds, and the text after it. A line that has
another form binds nothing. -/
def binding (s : List Char) : Option (List Char × Option (List Char)) × List Char :=
  let s := skipExport s
  match name s with
  | none => (none, skipLine s)
  | some (key, rest) =>
    match skipSpaces rest with
    | '=' :: rest =>
      let rest := skipSpaces rest
      match value rest with
      | none => (none, skipLine rest)
      | some (v, rest) =>
        match lineEnd rest with
        | some rest => (key.map fun k => (k, some v), rest)
        | none => (none, skipLine rest)
    | rest =>
      match lineEnd rest with
      | some rest => (key.map fun k => (k, none), rest)
      | none => (none, skipLine rest)

def bindings (fuel : Nat) (s : List Char) : Bindings :=
  match fuel with
  | 0 => []
  | fuel + 1 =>
    match s.dropWhile isBlank with
    | [] => []
    | s =>
      let (b, rest) := binding s
      b.toList ++ bindings fuel rest

def bind (name : List Char) (v : Option (List Char)) : Bindings → Bindings
  | [] => [(name, v)]
  | b :: rest => if b.1 == name then (name, v) :: rest else b :: bind name v rest

/-- A name in braces after `$`, perhaps with `:-` and a value for when nothing is set. -/
def reference? (s : List Char) : Option (List Char × Option (List Char) × List Char) :=
  match s with
  | '$' :: '\x7b' :: rest =>
    let name := rest.takeWhile fun c => c != '\x7d' && c != ':'
    match rest.drop name.length with
    | '\x7d' :: after => some (name, none, after)
    | ':' :: '-' :: more =>
      let absent := more.takeWhile (· != '\x7d')
      match more.drop absent.length with
      | _ :: after => some (name, some absent, after)
      | [] => none
    | _ => none
  | _ => none

def expand (lookup : List Char → Option (List Char)) (fuel : Nat) (s : List Char) : List Char :=
  match fuel with
  | 0 => []
  | fuel + 1 =>
    match reference? s with
    | some (name, absent, rest) =>
      ((lookup name).getD (absent.getD [])) ++ expand lookup fuel rest
    | none =>
      match s with
      | [] => []
      | c :: rest => c :: expand lookup fuel rest

def lookup (env : Bindings) (done : Bindings) (name : List Char) : Option (List Char) :=
  ((done.lookup name).or (env.lookup name)).map fun v => v.getD []

def resolve (env : Bindings) (done : Bindings) : Bindings → Bindings
  | [] => done
  | (name, v) :: rest =>
    let v := v.map fun v => expand (lookup env done) (v.length + 1) v
    resolve env (bind name v done) rest

def unifyBreaks : List Char → List Char
  | '\r' :: '\n' :: rest => '\n' :: unifyBreaks rest
  | '\r' :: rest => '\n' :: unifyBreaks rest
  | c :: rest => c :: unifyBreaks rest
  | [] => []

def read (env : Bindings) (s : List Char) : Bindings :=
  let s := unifyBreaks s
  resolve env [] (bindings (s.length + 1) s)

end EmitBridge.EnvFile
