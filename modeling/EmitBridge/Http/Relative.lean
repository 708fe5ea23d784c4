import EmitBridge.Http.Target

/-! Relative addresses, resolved against the address they are found at. -/

namespace EmitBridge.Target

def parameterSchemes : List String :=
  ["", "ftp", "hdl", "http", "https", "imap", "mms", "prospero", "rtsp", "rtsps", "rtspu", "sftp",
    "shttp", "sip", "sips", "tel"]

structure Reference where
  scheme : List Char
  authority : List Char
  path : List Char
  parameters : List Char
  query : List Char
  fragment : List Char

namespace Reference

def splitParameters (path : List Char) : List Char × List Char :=
  let (directory, segment) := Cut.last '/' path
  let (segment, parameters) := Cut.first ';' segment
  (match directory with
    | some d => d ++ '/' :: segment
    | none => segment,
    parameters.getD [])

def read (scheme s : List Char) : Reference :=
  let (own, rest) := splitScheme s
  let (scheme, rest) := if own.isEmpty then (scheme, s) else (own.map Char.toLower, rest)
  let (authority, rest) := match rest with
    | '/' :: '/' :: rest =>
      let authority := rest.takeWhile fun c => !Url.endsAuthority c
      (authority, rest.drop authority.length)
    | rest => ([], rest)
  let (rest, fragment) := Cut.first '#' rest
  let (path, query) := Cut.first '?' rest
  let (path, parameters) :=
    if parameterSchemes.contains (String.ofList scheme) then splitParameters path else (path, [])
  ⟨scheme, authority, path, parameters, query.getD [], fragment.getD []⟩

def toChars (r : Reference) : List Char :=
  let path := if r.parameters.isEmpty then r.path else r.path ++ ';' :: r.parameters
  Url.unsplit r.scheme r.authority path r.query r.fragment

end Reference

def dropInnerEmpty : List (List Char) → List (List Char)
  | [] => []
  | [s] => [s]
  | s :: rest => s :: rest.dropLast.filter (!·.isEmpty) ++ rest.getLast?.toList

def resolvePath (base path : List Char) : List Char :=
  let parents := Cut.all '/' base
  let parents := if parents.getLast? == some [] then parents else parents.dropLast
  let segments :=
    if path.head? == some '/' then Cut.all '/' path
    else dropInnerEmpty (parents ++ Cut.all '/' path)
  let resolved := Cut.join '/' (Url.resolveSegments segments)
  if resolved.isEmpty then ['/'] else resolved

def join (base s : List Char) : List Char :=
  let b := Reference.read [] base
  let r := Reference.read b.scheme s
  let scheme := String.ofList r.scheme
  if base.isEmpty then s
  else if s.isEmpty then base
  else if r.scheme != b.scheme || !Url.relativeSchemes.contains scheme then s
  else
    let hasAuthority := scheme.isEmpty || Url.authoritySchemes.contains scheme
    if hasAuthority && !r.authority.isEmpty then r.toChars
    else
      let r := if hasAuthority then { r with authority := b.authority } else r
      if r.path.isEmpty && r.parameters.isEmpty then
        Reference.toChars
          { r with
            path := b.path
            parameters := b.parameters
            query := if r.query.isEmpty then b.query else r.query }
      else Reference.toChars { r with path := resolvePath b.path r.path }

end EmitBridge.Target
