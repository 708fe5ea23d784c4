import EmitBridge.Failure

/-! Addresses of requests: read from text, normalised, and written again. Characters that an
address cannot hold are escaped; escapes that are there are kept. -/

namespace EmitBridge

structure Target where
  scheme : List Char
  userinfo : List Char
  host : List Char
  portNumber : Option Int
  path : List Char
  query : Option (List Char)
  fragment : Option (List Char)
deriving DecidableEq, Repr

namespace Target

def lengthLimit : Nat := 65536

def isControl (c : Char) : Bool := c.toNat < 0x20 || c.toNat == 0x7F

def control? (s : List Char) : Option (Char × Nat) :=
  (s.zipIdx).find? fun c => isControl c.1

def isUnreserved (c : Char) : Bool := c.isAlphanum || "-._~".toList.contains c

def isOutside (escaped : String) (c : Char) : Bool :=
  0x20 < c.toNat && c.toNat < 0x7F && !escaped.toList.contains c

def isFragmentChar (c : Char) : Bool := isOutside "\"<>`" c

def isQueryChar (c : Char) : Bool := isOutside "\"#<>" c

def isPathChar (c : Char) : Bool := isOutside "\"#<>?`\x7b\x7d" c

def isUserinfoChar (c : Char) : Bool := isOutside "\"#<>?`\x7b\x7d/;=@[\\]^|" c

def isHostChar (c : Char) : Bool := isUnreserved c || "!$&'()*+,;=\"`\x7b\x7d%|\\".toList.contains c

/-- Escapes what is not plain; an escape that is there is kept as it is written. -/
def quote (plain : Char → Bool) : List Char → List Char
  | [] => []
  | '%' :: a :: b :: rest =>
    match Percent.byte? a b with
    | some _ => '%' :: a :: b :: quote plain rest
    | none => Percent.encode plain ['%'] ++ quote plain (a :: b :: rest)
  | c :: rest => Percent.encode plain [c] ++ quote plain rest

/-- Digits, any character, and so on: `n + 1` runs of digits with one character between two
runs. -/
def isQuadLike (n : Nat) (s : List Char) : Bool :=
  match n with
  | 0 => !s.isEmpty && s.all Char.isDigit
  | n + 1 =>
    (List.range (s.takeWhile Char.isDigit).length).any fun i =>
      match s.drop (i + 1) with
      | _ :: rest => isQuadLike n rest
      | [] => false

def bracketed? (s : List Char) : Option (List Char) :=
  match s with
  | '[' :: rest => if rest.getLast? == some ']' then some rest.dropLast else none
  | _ => none

def isGroups (s : List Char) : Bool :=
  match Cut.first '%' s with
  | (address, none) => (Ip.groups? address).isSome
  | (address, some zone) =>
    !zone.isEmpty && !zone.contains '%' && (Ip.groups? address).isSome

def normalHost [HostNames] (s : List Char) : Except TargetError (List Char) :=
  if s.isEmpty then .ok []
  else if isQuadLike 3 s then
    if (Ip.quad? s).isSome then .ok s else .error (.quad (String.ofList s))
  else match bracketed? s with
    | some inner => if isGroups inner then .ok inner else .error (.groups (String.ofList s))
    | none =>
      if s.all isAsciiChar then .ok (quote isHostChar (s.map Char.toLower))
      else match HostNames.register? s with
        | some name => .ok name
        | none => .error (.hostName (String.ofList s))

def normalPort (scheme : List Char) (s : List Char) : Except TargetError (Option Int) :=
  if s.isEmpty then .ok none
  else match WholeNumber.read? (s.map CodePoint.ofChar) with
    | none => .error (.portNumber (String.ofList s))
    | some n =>
      .ok (if (Url.defaultPort? (String.ofList scheme)).any fun d => (d : Int) == n then none
        else some n)

def checkPath (hasScheme hasAuthority : Bool) (path : List Char) : Except TargetError Unit :=
  if hasAuthority then
    if path.isEmpty || path.head? == some '/' then .ok () else .error .relativePath
  else if hasScheme then .ok ()
  else if path.take 2 == ['/', '/'] then .error .doubleSlash
  else if path.head? == some ':' then .error .colonPath
  else .ok ()

/-- A segment `..` takes back the one before it, except an empty first one. -/
def dotStep (done : List (List Char)) (segment : List Char) : List (List Char) :=
  if segment == ['.'] then done
  else if segment == ['.', '.'] then
    if done.isEmpty || done == [[]] then done else done.dropLast
  else done ++ [segment]

def normalPath (path : List Char) : List Char :=
  let segments := Cut.all '/' path
  if segments.contains ['.'] || segments.contains ['.', '.'] then
    Cut.join '/' (segments.foldl dotStep [])
  else path

def splitAuthority (s : List Char) : List Char × List Char × List Char :=
  let (userinfo, rest) := Cut.last '@' s
  let host := match rest with
    | '[' :: inner =>
      match Cut.last ']' inner with
      | (some before, _) => '[' :: before ++ [']']
      | (none, _) => rest.takeWhile fun c => c != ':' && c != '@'
    | rest => rest.takeWhile fun c => c != ':' && c != '@'
  let after := rest.drop host.length
  (userinfo.getD [], host, if after.head? == some ':' then after.drop 1 else after)

structure Raw where
  scheme : List Char
  userinfo : List Char
  host : List Char
  portNumber : List Char
  path : List Char
  query : Option (List Char)
  fragment : Option (List Char)

def normalise [HostNames] (r : Raw) : Except TargetError Target := do
  let userinfo := quote isUserinfoChar r.userinfo
  let host ← normalHost r.host
  let portNumber ← normalPort r.scheme r.portNumber
  let hasScheme := !r.scheme.isEmpty
  let hasAuthority := !userinfo.isEmpty || !host.isEmpty || portNumber.isSome
  checkPath hasScheme hasAuthority r.path
  let path := if hasScheme || hasAuthority then normalPath r.path else r.path
  return {
    scheme := r.scheme.map Char.toLower
    userinfo := userinfo
    host := host
    portNumber := portNumber
    path := quote isPathChar path
    query := r.query.map (quote isQueryChar)
    fragment := r.fragment.map (quote isFragmentChar) }

def splitScheme (s : List Char) : List Char × List Char :=
  match Cut.first ':' s with
  | (scheme, some rest) =>
    if scheme.all Url.isSchemeChar && !scheme.head?.any (!·.isAlpha) then (scheme, rest)
    else ([], s)
  | (_, none) => ([], s)

def split (s : List Char) : Raw :=
  let (scheme, rest) := splitScheme s
  let (authority, rest) := match rest with
    | '/' :: '/' :: rest =>
      let authority := rest.takeWhile fun c => !Url.endsAuthority c
      (authority, rest.drop authority.length)
    | rest => ([], rest)
  let (rest, fragment) := Cut.first '#' rest
  let (path, query) := Cut.first '?' rest
  let (userinfo, host, portNumber) := splitAuthority authority
  ⟨scheme, userinfo, host, portNumber, path, query, fragment⟩

def parse [HostNames] (s : List Char) : Except TargetError Target :=
  if lengthLimit < s.length then .error .tooLong
  else match control? s with
    | some (c, position) => .error (.unprintable c position)
    | none => normalise (split s)

def enclosed (host : List Char) : List Char :=
  if host.contains ':' then '[' :: host ++ [']'] else host

def portText (portNumber : Option Int) : List Char :=
  match portNumber with
  | some n => ':' :: (toString n).toList
  | none => []

def authority (t : Target) : List Char :=
  (if t.userinfo.isEmpty then [] else t.userinfo ++ ['@'])
    ++ enclosed t.host ++ portText t.portNumber

def toChars (t : Target) : List Char :=
  (if t.scheme.isEmpty then [] else t.scheme ++ [':'])
    ++ (if t.authority.isEmpty then [] else '/' :: '/' :: t.authority)
    ++ t.path
    ++ (match t.query with
      | some q => '?' :: q
      | none => [])
    ++ match t.fragment with
      | some f => '#' :: f
      | none => []

def toString (t : Target) : String := String.ofList t.toChars

def shownHost [HostNames] (t : Target) : Except HostNameError (List Char) :=
  if Url.labelMark.isPrefixOf t.host then HostNames.recover t.host else .ok t.host

def isAbsolute (t : Target) : Bool := !t.scheme.isEmpty && !t.host.isEmpty

def checkComponent (name : String) (s : List Char) : Except TargetError Unit :=
  if lengthLimit < s.length then .error (.componentTooLong name)
  else match control? s with
    | some (c, position) => .error (.unprintableComponent name c position)
    | none => .ok ()

def raw (t : Target) : Raw :=
  let (userinfo, host, portNumber) := splitAuthority t.authority
  ⟨t.scheme, userinfo, host, portNumber, t.path, t.query, t.fragment⟩

def withHost [HostNames] (host : List Char) (t : Target) : Except TargetError Target := do
  checkComponent "path" t.path
  checkComponent "query" (t.query.getD [])
  checkComponent "fragment" (t.fragment.getD [])
  checkComponent "host" host
  normalise { t.raw with host := enclosed host }

def withFragment [HostNames] (fragment : List Char) (t : Target) : Except TargetError Target := do
  checkComponent "path" t.path
  checkComponent "query" (t.query.getD [])
  checkComponent "fragment" fragment
  normalise { t.raw with fragment := some fragment }

def rooted [HostNames] (t : Target) : Except TargetError Target :=
  if t.isAbsolute then .ok t
  else do
    let path := '/' :: t.path.dropWhile (· == '/')
    checkComponent "path" path
    checkComponent "query" (t.query.getD [])
    normalise ⟨[], [], [], [], path, t.query, none⟩

end Target

end EmitBridge
