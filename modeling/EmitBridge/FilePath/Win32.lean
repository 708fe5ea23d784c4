import EmitBridge.FilePath.Posix
import EmitBridge.Text.Case

/-! Paths with drives. A drive is a letter with a colon, or a server with a share; either slash
separates segments. -/

namespace EmitBridge

/-- A path without `.` segments and repeated slashes. `root` is empty or a backslash. -/
structure Win32Path where
  drive : String
  root : String
  parts : List String
deriving DecidableEq, Repr, Inhabited

namespace Win32Path

def separator : Char := '\\'

def isSlash (c : Char) : Bool := c == '/' || c == separator

def unified (s : List Char) : List Char := s.map fun c => if c == '/' then separator else c

def isLetter (c : Char) : Bool := c.isAlpha

def find (s : List Char) (start : Nat) : Option Nat :=
  ((s.drop start).findIdx? (· == separator)).map (start + ·)

/-- The marker of a path whose drive is not looked at, and the text the drive is found in. -/
def splitExtended (s : List Char) : List Char × List Char :=
  if s.take 4 == "\\\\?\\".toList then
    let rest := s.drop 4
    if rest.take 4 == "UNC\\".toList then (s.take 7, separator :: rest.drop 3) else (s.take 4, rest)
  else ([], s)

def splitShare? (s : List Char) : Option (List Char × List Char) :=
  if s.take 2 != [separator, separator] || s.getD 2 ' ' == separator then none
  else do
    let i ← find s 2
    match find s (i + 1) with
    | none => some (s, [])
    | some j => if j == i + 1 then none else some (s.take j, s.drop (j + 1))

def splitLetter (marker s : List Char) : List Char × List Char × List Char :=
  let (drive, rest) := match s with
    | c :: ':' :: rest => if isLetter c then ([c, ':'], rest) else ([], s)
    | _ => ([], s)
  let root := if rest.head? == some separator then [separator] else []
  (marker ++ drive, root, rest.dropWhile (· == separator))

def splitRoot (s : List Char) : List Char × List Char × List Char :=
  let (marker, s) := if s.take 2 == [separator, separator] then splitExtended s else ([], s)
  match splitShare? s with
  | some (share, rest) =>
    (if marker.isEmpty then share else marker ++ share.drop 1, [separator], rest)
  | none => splitLetter marker s

def ofChars (s : List Char) : Win32Path :=
  let (drive, root, rest) := splitRoot (unified s)
  ⟨String.ofList drive, String.ofList root,
    ((Cut.all separator rest).filter PosixPath.isProper).map String.ofList⟩

def ofString (s : String) : Win32Path := ofChars s.toList

def toChars (p : Win32Path) : List Char :=
  let s := p.drive.toList ++ p.root.toList ++ Cut.join separator (p.parts.map String.toList)
  if s.isEmpty then ['.'] else s

def toString (p : Win32Path) : String := String.ofList p.toChars

instance : ToString Win32Path := ⟨Win32Path.toString⟩

def toPosixChars (p : Win32Path) : List Char :=
  p.toChars.map fun c => if c == separator then '/' else c

def isAbsolute (p : Win32Path) : Bool := !p.drive.isEmpty && !p.root.isEmpty

def segments (p : Win32Path) : List String :=
  if p.drive.isEmpty && p.root.isEmpty then p.parts else (p.drive ++ p.root) :: p.parts

def toUri? (p : Win32Path) : Option (List Char) :=
  if !p.isAbsolute then none
  else match p.drive.toList with
    | [c, ':'] =>
      let rest := (p.toPosixChars.drop 2).dropWhile (· == '/')
      some ("file:///".toList ++ [c, ':', '/'] ++ Percent.encode PosixPath.isUriPlain rest)
    | _ => some ("file:".toList ++ Percent.encode PosixPath.isUriPlain p.toPosixChars)

def isAbsoluteText : List Char → Bool
  | '\\' :: '\\' :: rest =>
    let server := rest.takeWhile fun c => !isSlash c
    match rest.drop server.length with
    | _ :: c :: _ => !server.isEmpty && !isSlash c
    | _ => false
  | c :: ':' :: d :: _ => isLetter c && isSlash d
  | _ => false

def upperAscii (s : List Char) : List Char := s.map Char.toUpper

def splitDrive (s : List Char) : List Char × List Char :=
  let u := unified s
  if u.take 2 == [separator, separator] then
    let start := if upperAscii (u.take 8) == "\\\\?\\UNC\\".toList then 8 else 2
    match find u start with
    | none => (s, [])
    | some i =>
      match find u (i + 1) with
      | none => (s, [])
      | some j => (s.take j, s.drop j)
  else match s with
    | _ :: ':' :: _ => (s.take 2, s.drop 2)
    | _ => ([], s)

/-- A path text without `.` segments, repeated slashes and, where they can be resolved, `..`
segments. -/
def normal (s : List Char) : List Char :=
  let (drive, rest) := splitDrive (unified s)
  let front := if rest.head? == some separator then drive ++ [separator] else drive
  let rooted := front.getLast? == some separator
  let rest := if rest.head? == some separator then rest.dropWhile (· == separator) else rest
  let segments := (Cut.all separator rest).foldl (PosixPath.step rooted) []
  if front.isEmpty && segments.isEmpty then ['.'] else front ++ Cut.join separator segments

def sameDrive (a b : List Char) : Bool := (Text.ofChars a).lower == (Text.ofChars b).lower

/-- A path text as it is named from a directory; one with another drive, or with a root, is named
from its own. -/
def join (base s : List Char) : List Char :=
  let (baseDrive, basePath) := splitDrive base
  let (drive, path) := splitDrive s
  let (drive, path) :=
    if path.head?.any isSlash then
      (if !drive.isEmpty || baseDrive.isEmpty then drive else baseDrive, path)
    else if !drive.isEmpty && !sameDrive drive baseDrive then (drive, path)
    else
      let basePath :=
        if basePath.getLast?.any (!isSlash ·) then basePath ++ [separator] else basePath
      (if drive.isEmpty then baseDrive else drive, basePath ++ path)
  if path.head?.any (!isSlash ·) && drive.getLast?.any (· != ':') then
    drive ++ separator :: path
  else drive ++ path

end Win32Path

inductive FilePath
  | posix (p : PosixPath)
  | win32 (p : Win32Path)
deriving DecidableEq, Repr

namespace FilePath

def toChars : FilePath → List Char
  | posix p => p.toChars
  | win32 p => p.toChars

def toString : FilePath → String
  | posix p => p.toString
  | win32 p => p.toString

def toUri? : FilePath → Option (List Char)
  | posix p => p.toUri?
  | win32 p => p.toUri?

/-- The file that a path names on a host whose paths have forward slashes; a drive counts as a
directory there. -/
def onHost : FilePath → PosixPath
  | posix p => p
  | win32 p => (p.segments.map PosixPath.ofString).foldl PosixPath.append ⟨"", []⟩

end FilePath

end EmitBridge
