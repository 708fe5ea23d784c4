import EmitBridge.Text.Decimal
import EmitBridge.Text.Percent
import EmitBridge.Url.HostNames
import EmitBridge.Url.Ip

/-! Addresses in five parts, read verbatim or with every part normalised. -/

namespace EmitBridge

inductive UrlError
  | backslash
  | bracket
  | futureAddress
  | bracketContent
  | portNumber
  | portRange
  | hostRequired (scheme : String)
  | compatibility (authority : List Char)
  | notAscii (host : List Char)
  | longLabel
  | hostName (e : HostNameError)
deriving DecidableEq, Repr

namespace UrlError

def name : UrlError → String
  | notAscii _ => "UnicodeEncodeError"
  | longLabel => "UnicodeError"
  | hostName e => e.kind
  | _ => "ValueError"

def escaped (c : Char) : String :=
  let n := c.toNat
  if n < 0x100 then "\\x" ++ String.ofList (Hex.lowerDigits 2 n)
  else if n < 0x10000 then "\\u" ++ String.ofList (Hex.lowerDigits 4 n)
  else "\\U" ++ String.ofList (Hex.lowerDigits 8 n)

def foreignRun (host : List Char) : String :=
  let start := (host.takeWhile isAsciiChar).length
  match (host.drop start).takeWhile (!isAsciiChar ·) with
  | [c] => "character '" ++ escaped c ++ "' in position " ++ toString start
  | run =>
    "characters in position " ++ toString start ++ "-" ++ toString (start + run.length - 1)

def message : UrlError → String
  | backslash => "Invalid URL: netloc contains invalid character"
  | bracket => "Invalid IPv6 URL"
  | futureAddress => "IPvFuture address is invalid"
  | bracketContent => "The IPv6 content between brackets is not valid"
  | portNumber => "Invalid URL: port can't be converted to integer"
  | portRange => "Port out of range 0-65535"
  | hostRequired scheme =>
    "Invalid URL: host is required for absolute urls with the " ++ scheme ++ " scheme"
  | compatibility authority =>
    "netloc '" ++ String.ofList authority
      ++ "' contains invalid characters under NFKC normalization"
  | notAscii host =>
    "'ascii' codec can't encode " ++ foreignRun host ++ ": ordinal not in range(128)"
  | longLabel => "decoding with 'idna' codec failed (UnicodeError: label way too long)"
  | hostName e => e.message

end UrlError

structure Authority where
  user : Option (List Char)
  password : Option (List Char)
  host : Option (List Char)
  portNumber : Option Nat
deriving DecidableEq, Repr

namespace Authority

def nonEmpty (s : List Char) : Option (List Char) := if s.isEmpty then none else some s

def readPort (s : List Char) : Except UrlError (Option Nat) :=
  if s.isEmpty then .ok none
  else match WholeNumber.read? (s.map CodePoint.ofChar) with
    | none => .error .portNumber
    | some n => if 0 ≤ n ∧ n ≤ 65535 then .ok (some n.toNat) else .error .portRange

def splitHost (s : List Char) : List Char × List Char :=
  if s.contains '[' then
    let bracketed := ((Cut.first '[' s).2).getD []
    let (host, after) := Cut.first ']' bracketed
    (host, ((Cut.first ':' (after.getD [])).2).getD [])
  else
    let (host, portNumber) := Cut.first ':' s
    (host, portNumber.getD [])

def read (s : List Char) : Except UrlError Authority :=
  let (info, hostInfo) := Cut.last '@' s
  let (user, password) := match info with
    | none => (none, none)
    | some info => let (u, p) := Cut.first ':' info; (nonEmpty u, p)
  let (host, portNumber) := splitHost hostInfo
  (readPort portNumber).map fun portNumber => ⟨user, password, nonEmpty host, portNumber⟩

def natText (n : Nat) : List Char := (toString n).toList

def write (user password : Option (List Char)) (host : List Char) (portNumber : Option Nat) :
    List Char :=
  let address := match portNumber with
    | some n => host ++ ':' :: natText n
    | none => host
  match user, password with
  | none, none => address
  | user, some p => user.getD [] ++ ':' :: p ++ '@' :: address
  | some u, none => if u.isEmpty then address else u ++ '@' :: address

end Authority

/-- An address. `known` is the authority as it was read before its text was normalised. -/
structure Url where
  scheme : String
  authority : String
  path : String
  query : String
  fragment : String
  known : Option Authority
deriving DecidableEq, Repr

namespace Url

def isSchemeChar (c : Char) : Bool :=
  c.isAlphanum || c == '+' || c == '-' || c == '.'

def authoritySchemes : List String :=
  ["file", "ftp", "git", "git+ssh", "gopher", "http", "https", "imap", "mms", "nfs", "nntp",
    "prospero", "rsync", "rtsp", "rtsps", "rtspu", "sftp", "shttp", "snews", "svn", "svn+ssh",
    "telnet", "wais", "ws", "wss"]

/-- Schemes against whose addresses relative ones are resolved; the empty scheme is one. -/
def relativeSchemes : List String :=
  ["", "file", "ftp", "gopher", "http", "https", "imap", "mms", "nntp", "prospero", "rtsp",
    "rtsps", "rtspu", "sftp", "shttp", "svn", "svn+ssh", "wais", "ws", "wss"]

def defaultPort? (scheme : String) : Option Nat :=
  [("http", 80), ("https", 443), ("ws", 80), ("wss", 443), ("ftp", 21)].lookup scheme

def cleaned (s : List Char) : List Char :=
  (s.dropWhile fun c => c.toNat ≤ 0x20).filter fun c => c != '\t' && c != '\r' && c != '\n'

def splitScheme (s : List Char) : List Char × List Char :=
  match Cut.first ':' s with
  | (scheme, some rest) =>
    if !scheme.isEmpty && scheme.all isSchemeChar then (scheme.map Char.toLower, rest) else ([], s)
  | (_, none) => ([], s)

def endsAuthority (c : Char) : Bool := c == '/' || c == '?' || c == '#'

def isFutureAddress : List Char → Bool
  | 'v' :: rest =>
    let digits := rest.takeWhile fun c => (Hex.value? c).isSome
    match rest.drop digits.length with
    | '.' :: tail => !digits.isEmpty && !tail.isEmpty
    | _ => false
  | _ => false

def checkBrackets (s : List Char) : Except UrlError Unit :=
  if s.contains '\\' then .error .backslash
  else if s.contains '[' != s.contains ']' then .error .bracket
  else if !s.contains '[' then .ok ()
  else match (Cut.last '@' s).2 with
    | '[' :: rest =>
      match Cut.first ']' rest with
      | (content, some after) =>
        if content.contains '[' || after.contains '[' || after.contains ']' then .error .bracket
        else if !after.isEmpty && after.head? != some ':' then .error .bracket
        else if content.head? == some 'v' then
          if isFutureAddress content then .ok () else .error .futureAddress
        else if content.contains ':' then .ok () else .error .bracketContent
      | (_, none) => .error .bracket
    | _ => .error .bracket

def withoutFrame (s : List Char) : List Char := s.filter fun c => !"@:#?".toList.contains c

def checkCompatible [HostNames] (s : List Char) : Except UrlError Unit :=
  let compatible := HostNames.compatible (withoutFrame s)
  if s.all isAsciiChar || withoutFrame s == compatible || !compatible.any isDivider then .ok ()
  else .error (.compatibility s)

def checkAuthority [HostNames] (s : List Char) : Except UrlError Unit := do
  checkBrackets s
  checkCompatible s

def verbatimChars [HostNames] (s : List Char) : Except UrlError Url := do
  let (scheme, rest) := splitScheme (cleaned s)
  let (authority, rest) := match rest with
    | '/' :: '/' :: rest =>
      let authority := rest.takeWhile fun c => !endsAuthority c
      (authority, rest.drop authority.length)
    | rest => ([], rest)
  checkAuthority authority
  let (rest, fragment) := Cut.first '#' rest
  let (path, query) := Cut.first '?' rest
  return {
    scheme := String.ofList scheme
    authority := String.ofList authority
    path := String.ofList path
    query := String.ofList (query.getD [])
    fragment := String.ofList (fragment.getD [])
    known := none }

def verbatim [HostNames] (s : String) : Except UrlError Url := verbatimChars s.toList

def parts (u : Url) : Except UrlError Authority :=
  match u.known with
  | some a => .ok a
  | none => Authority.read u.authority.toList

def isAlwaysPlain (c : Char) : Bool := c.isAlphanum || "-._~!$'()*,".toList.contains c

def partOf (plain kept : String) (spaceAsPlus : Bool) : Percent.Part where
  plain c := isAlwaysPlain c || plain.toList.contains c
  kept c := kept.toList.contains c
  spaceAsPlus := spaceAsPlus

def userPart : Percent.Part := partOf "+&=;" "" false

def pathPart : Percent.Part := partOf "+&=;@:/" "/+" false

def queryPart : Percent.Part := partOf "?/:@=+&;" "=+&;" true

def fragmentPart : Percent.Part := partOf "+&=;?/:@" "" false

def isNumberLike (host : List Char) : Bool :=
  (host.getLast?.any fun c => (CodePoint.ofChar c).isDigit) || host.contains ':'

/-- A numeric host in its normal form, any other in lower case or by its name in ASCII. -/
def normalHost [HostNames] (host : List Char) : Except UrlError (List Char) :=
  match if isNumberLike host then Ip.normal? host else none with
  | some h => .ok h
  | none =>
    if host.all isAsciiChar then .ok (host.map Char.toLower)
    else (HostNames.encode host).mapError .hostName

def bareHost (host : List Char) : List Char :=
  if host.contains '[' then (host.drop 1).dropLast else host

def resolveStep (done : List (List Char)) (s : List Char) : List (List Char) :=
  if s == ['.', '.'] then done.dropLast else if s == ['.'] then done else done ++ [s]

/-- A last segment that is dropped leaves an empty one. -/
def resolveSegments (segments : List (List Char)) : List (List Char) :=
  let kept := segments.foldl resolveStep []
  match segments.getLast? with
  | some s => if s == ['.'] || s == ['.', '.'] then kept ++ [[]] else kept
  | none => kept

def normalPath : List Char → List Char
  | '/' :: rest => '/' :: Cut.join '/' (resolveSegments (Cut.all '/' rest))
  | path => Cut.join '/' (resolveSegments (Cut.all '/' path))

def normalPathIfDotted (path : List Char) : List Char :=
  if path.contains '.' then normalPath path else path

def escapeScheme (path : List Char) : List Char :=
  match Cut.first ':' path with
  | (before, some after) =>
    if !before.isEmpty && before.all isSchemeChar then before ++ '%' :: '3' :: 'A' :: after
    else path
  | (_, none) => path

def hostSchemes : List String := ["http", "https", "ws", "wss", "ftp"]

def normalAuthority [HostNames] (scheme : String) (authority : List Char) :
    Except UrlError (List Char × Authority) := do
  let a ← Authority.read authority
  let host ← match a.host with
    | some h => pure h
    | none => if hostSchemes.contains scheme then .error (.hostRequired scheme) else pure []
  let host ← normalHost host
  let user := a.user.map userPart.requote
  let password := a.password.map userPart.requote
  return (Authority.write user password host a.portNumber,
    ⟨user, password, some (bareHost host), a.portNumber⟩)

def parse [HostNames] (s : String) : Except UrlError Url := do
  let u ← verbatim s
  let (authority, known) ←
    if u.authority.isEmpty then pure ([], ⟨none, none, some [], none⟩)
    else normalAuthority u.scheme u.authority.toList
  let path := pathPart.requote u.path.toList
  let path := if authority.isEmpty then path else normalPathIfDotted path
  let path := if u.scheme.isEmpty && authority.isEmpty then escapeScheme path else path
  return {
    scheme := u.scheme
    authority := String.ofList authority
    path := String.ofList path
    query := String.ofList (queryPart.requote u.query.toList)
    fragment := String.ofList (fragmentPart.requote u.fragment.toList)
    known := some known }

def unsplit (scheme authority path query fragment : List Char) : List Char :=
  let base :=
    if !authority.isEmpty || authoritySchemes.contains (String.ofList scheme)
        || path.take 2 == ['/', '/'] then
      let path := if path.isEmpty || path.head? == some '/' then path else '/' :: path
      (if scheme.isEmpty then [] else scheme ++ [':']) ++ '/' :: '/' :: authority ++ path
    else if scheme.isEmpty then path
    else scheme ++ ':' :: path
  base ++ (if query.isEmpty then [] else '?' :: query)
    ++ (if fragment.isEmpty then [] else '#' :: fragment)

def render (u : Url) : Except UrlError String := do
  let path := if u.path.isEmpty && !u.authority.isEmpty && (!u.query.isEmpty || !u.fragment.isEmpty)
    then "/" else u.path
  let a ← u.parts
  let authority := match a.portNumber with
    | some n =>
      if defaultPort? u.scheme == some n then
        match a.host with
        | some h =>
          Authority.write a.user a.password
            (if h.contains ':' then '[' :: h ++ [']'] else h) none
        | none => []
      else u.authority.toList
    | none => u.authority.toList
  return String.ofList (unsplit u.scheme.toList authority path.toList u.query.toList
    u.fragment.toList)

def rawPath (u : Url) : String :=
  if u.path.isEmpty && !u.authority.isEmpty then "/" else u.path

def decodedPath (u : Url) : String := String.ofList (Percent.decode u.rawPath.toList)

def rawHost (u : Url) : Except UrlError (Option (List Char)) := u.parts.map Authority.host

def isRegularLabel (label : List Char) : Bool :=
  !label.isEmpty && label.all (fun c => c.isAlphanum || c == '-')
    && label.head? != some '-' && label.getLast? != some '-'
    && (label.drop 2).take 2 != ['-', '-']

def isRegularHost (host : List Char) : Bool :=
  match (Cut.all '.' host).reverse with
  | [] :: labels => !labels.isEmpty && labels.all isRegularLabel
  | labels => labels.all isRegularLabel

def hostLimit : Nat := 254

/-- The longest label that is looked at beside an encoded one. -/
def labelLimit : Nat := 1024

def labelMark : List Char := "xn--".toList

def hasMark (host : List Char) : Bool :=
  (List.range host.length).any fun i => labelMark.isPrefixOf (host.drop i)

def hasMarkedLabel (host : List Char) : Bool :=
  (Cut.all '.' host).any fun label => (label.map Char.toLower).take 4 == labelMark

/-- The host as it is shown: a name in the letters that it stands for or in lower case, anything
else as written. -/
def shownHost [HostNames] (host : List Char) : Except UrlError (List Char) :=
  if isNumberLike host then .ok host
  else if !host.all isAsciiChar then .error (.notAscii host)
  else if hasMarkedLabel host then (HostNames.decode host).mapError .hostName
  else if isRegularHost host && host.length ≤ hostLimit then .ok (host.map Char.toLower)
  else if hasMark host && (Cut.all '.' host).any fun label => labelLimit < label.length then
    .error .longLabel
  else .ok host

def host [HostNames] (u : Url) : Except UrlError (Option (List Char)) := do
  match ← u.rawHost with
  | none => return none
  | some h => return some (← shownHost h)

end Url

end EmitBridge
