import EmitBridge.Text.Percent

/-! Paths with forward slashes. Exactly two slashes in front are a root of their own; any other
number of them is one. -/

namespace EmitBridge

/-- A path without `.` segments and repeated slashes. `root` is empty, `/` or `//`. -/
structure PosixPath where
  root : String
  parts : List String
deriving DecidableEq, Repr, Inhabited

namespace PosixPath

def splitRoot (s : List Char) : List Char × List Char :=
  let rest := s.dropWhile (· == '/')
  match s.length - rest.length with
  | 0 => ([], rest)
  | 2 => (['/', '/'], rest)
  | _ => (['/'], rest)

def isProper (segment : List Char) : Bool := !segment.isEmpty && segment != ['.']

def ofChars (s : List Char) : PosixPath :=
  let (root, rest) := splitRoot s
  ⟨String.ofList root, ((Cut.all '/' rest).filter isProper).map String.ofList⟩

def ofString (s : String) : PosixPath := ofChars s.toList

def toChars (p : PosixPath) : List Char :=
  let s := p.root.toList ++ Cut.join '/' (p.parts.map String.toList)
  if s.isEmpty then ['.'] else s

def toString (p : PosixPath) : String := String.ofList p.toChars

instance : ToString PosixPath := ⟨PosixPath.toString⟩

def isAbsolute (p : PosixPath) : Bool := !p.root.isEmpty

def append (p q : PosixPath) : PosixPath :=
  if q.isAbsolute then q else ⟨p.root, p.parts ++ q.parts⟩

instance : Append PosixPath := ⟨append⟩

def absolute (cwd p : PosixPath) : PosixPath := cwd ++ p

def name (p : PosixPath) : String := p.parts.getLastD ""

def parent (p : PosixPath) : PosixPath := ⟨p.root, p.parts.dropLast⟩

def withSuffix (p : PosixPath) (suffix : String) : PosixPath :=
  ⟨p.root, p.parts.dropLast ++ [p.name ++ suffix]⟩

/-- One segment after another: `.` and empty ones are left out, and `..` takes back the one before
it, which below a root may be missing. -/
def step (rooted : Bool) (done : List (List Char)) (segment : List Char) : List (List Char) :=
  if segment.isEmpty || segment == ['.'] then done
  else if segment != ['.', '.'] then done ++ [segment]
  else match done.getLast? with
    | none => if rooted then done else done ++ [segment]
    | some last => if last == ['.', '.'] then done ++ [segment] else done.dropLast

def normal (s : List Char) : List Char :=
  let (root, rest) := splitRoot s
  let path := root ++ Cut.join '/' ((Cut.all '/' rest).foldl (step !root.isEmpty) [])
  if path.isEmpty then ['.'] else path

def join (base s : List Char) : List Char :=
  if s.head? == some '/' then s
  else if base.isEmpty || base.getLast? == some '/' then base ++ s
  else base ++ '/' :: s

def isUriPlain (c : Char) : Bool := c.isAlphanum || "_.-~/".toList.contains c

def toUri? (p : PosixPath) : Option (List Char) :=
  if p.isAbsolute then some ("file://".toList ++ Percent.encode isUriPlain p.toChars) else none

end PosixPath

end EmitBridge
