import EmitBridge.EmitError
import EmitBridge.Url.Directory

/-! Locations of modules: addresses, and paths of either kind, each with one canonical address. -/

namespace EmitBridge

namespace Location

def supportedSchemes : List String := ["file", "http", "https"]

def hasDrive : List Char → Bool
  | c :: ':' :: _ => c.isAlpha
  | _ => false

def checkScheme (u : Url) (location : Value) : Except Failure Url :=
  if supportedSchemes.contains u.scheme then .ok u
  else .error (.emit (.location location
    (some ("Unsupported URL scheme " ++ Quoted.string u.scheme ++ ": " ++ location.shown))))

def urlFailure (e : UrlError) : Failure := .fault (.url e)

def toPath [HostNames] (u : Url) : Except Failure FilePath := do
  if u.scheme != "file" then
    let shown ← u.render.mapError urlFailure
    .error (.emit (.location (.url u) (some ("Not a file URL: " ++ shown))))
  else
    let path := u.decodedPath.toList
    let host := (← u.host.mapError urlFailure).getD []
    if !host.isEmpty && host != "localhost".toList then
      .ok (.win32 (.ofChars ('/' :: '/' :: host ++ path)))
    else match path with
      | '/' :: rest =>
        if hasDrive rest then .ok (.win32 (.ofChars rest)) else .ok (.posix (.ofChars path))
      | _ => .ok (.posix (.ofChars path))

def directoryOfText (cwd : PosixPath) (s : List Char) : FilePath :=
  if Win32Path.isAbsoluteText s then .win32 (.ofChars s)
  else .posix (PosixPath.absolute cwd (.ofChars s))

def directoryOfBase [HostNames] (cwd : PosixPath) (s : List Char) : Except Failure FilePath :=
  if "file:".toList.isPrefixOf s then do toPath (← (Url.verbatimChars s).mapError urlFailure)
  else .ok (directoryOfText cwd s)

/-- The directory that relative paths are named from: the working directory unless another one is
given. -/
def baseDirectory [HostNames] (cwd : PosixPath) (base : Option Value) : Except Failure FilePath :=
  match base with
  | none | some .null => .ok (.posix cwd)
  | some (.url u) =>
    if u.scheme.isEmpty then directoryOfBase cwd u.decodedPath.toList
    else do
      let s ← u.render.mapError urlFailure
      toPath (← (Url.verbatim s).mapError urlFailure)
  | some (.path p) => .ok (directoryOfText cwd p.toChars)
  | some (.bytes _) => .error (.fault .bytesPath)
  | some v =>
    match v.text? with
    | some t => directoryOfBase cwd t.toString.toList
    | none => .error (.fault (.notAPath v.typeName))

def resolvePath (directory : FilePath) (s : List Char) : FilePath :=
  match directory with
  | .posix d => .posix (.ofChars (PosixPath.normal (PosixPath.join d.toChars s)))
  | .win32 d => .win32 (.ofChars (Win32Path.normal (Win32Path.join d.toChars s)))

def pathToUrl [HostNames] (cwd : PosixPath) (base : Option Value) (s : List Char) :
    Except Failure Url := do
  let path ←
    if Win32Path.isAbsoluteText s then pure (.win32 (.ofChars (Win32Path.normal s)))
    else pure (resolvePath (← baseDirectory cwd base) s)
  match path.toUri? with
  | some uri => (Url.verbatimChars uri).mapError urlFailure
  | none =>
    let text := String.ofList s
    .error (.emit ((EmitError.location (.string text)
      (some ("Cannot express path as a file URL: " ++ text))).becauseOf "ValueError"))

def schemedUrl? [HostNames] (s : String) : Option Url :=
  match Url.parse s with
  | .ok u => if u.scheme.isEmpty then none else some u
  | .error _ => none

def textToUrl [HostNames] (cwd : PosixPath) (base : Option Value) (s : String) :
    Except Failure Url :=
  if s.isEmpty || s.contains '\x00' then .error (.emit (.location (.string s) none))
  else if hasDrive s.toList then pathToUrl cwd base s.toList
  else match schemedUrl? s with
    | some u => checkScheme u (.string s)
    | none => pathToUrl cwd base s.toList

def toUrl [HostNames] (cwd : PosixPath) (base : Option Value) (location : Value) :
    Except Failure Url :=
  match location with
  | .url u =>
    if u.scheme.isEmpty && !u.decodedPath.isEmpty then pathToUrl cwd base u.decodedPath.toList
    else do
      let s ← u.render.mapError urlFailure
      checkScheme (← (Url.verbatim s).mapError urlFailure) location
  | .path p => textToUrl cwd base p.toString
  | v =>
    match v.text? with
    | some t => textToUrl cwd base t.toString
    | none =>
      .error (.emit (.location v (some ("Unsupported location type: " ++ v.typeName))))

end Location

end EmitBridge
