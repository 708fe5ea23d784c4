import EmitBridge.Engine.Basic
import EmitBridge.Markup.Console
import EmitBridge.Settings.Basic

/-! What a call finds around it: a working directory, settings, files, network addresses that
answer, modules with engines, and what the system allows. -/

namespace EmitBridge

inductive FileEntry
  | content (bs : Bytes)
  | directory
  | failure (number : Nat)
deriving DecidableEq, Repr

/-- Why a file cannot be written: it cannot be opened for it, or it is emptied and then takes no
more than so many bytes. -/
inductive WriteFault
  | denied (number : Nat)
  | full (room number : Nat)
deriving DecidableEq, Repr

inductive Route
  | response (status : Nat) (headers : List (String × String)) (content : Bytes)
  | failure (name message : String)
deriving DecidableEq, Repr

/-- How deep JSON may be nested where it is read, and values where they are printed as JSON. The
limit is that of the call stack, and some of it is used up by then. -/
structure NestingLimits where
  config : Nat
  importMap : Nat
  metadata : Nat
  printed : Nat

abbrev Decoder : Type := Bytes → Except String Bytes

structure World where
  cwd : PosixPath
  surroundings : Surroundings
  files : List (String × FileEntry)
  writeFaults : List (String × WriteFault)
  routes : List (String × Route)
  decoders : List (String × Decoder)
  plugins : List (String × Import)
  nesting : NestingLimits
  console : Console

def World.bare : World where
  cwd := PosixPath.ofString "/work"
  surroundings := ⟨[], none⟩
  files := []
  writeFaults := []
  routes := []
  decoders := []
  plugins := []
  nesting := ⟨900, 900, 900, 900⟩
  console := ⟨80, List.length, false, fun _ => none⟩

namespace SystemError

def missing : Nat := 2

def fileExists : Nat := 17

def notADirectory : Nat := 20

def isADirectory : Nat := 21

end SystemError

namespace World

def place (w : World) (path : List Char) : List (List Char) :=
  (Cut.all '/' (PosixPath.normal (PosixPath.join w.cwd.toChars path))).filter (!·.isEmpty)

def known (w : World) : List (List (List Char) × FileEntry) :=
  w.files.map fun f => (w.place f.1.toList, f.2)

def isBelow (outer inner : List (List Char)) : Bool :=
  outer.isPrefixOf inner && outer.length < inner.length

/-- What is found at a place. Above a file there are directories, and below one there is
nothing. -/
def entryAt (w : World) (place : List (List Char)) : FileEntry :=
  match w.known.find? fun f => f.1 == place with
  | some f => f.2
  | none =>
    if place.isEmpty || place == w.place [] || w.known.any (fun f => isBelow place f.1) then
      .directory
    else if w.known.any fun f => f.2 != .directory && isBelow f.1 place then
      .failure SystemError.notADirectory
    else .failure SystemError.missing

def entry (w : World) (path : String) : FileEntry :=
  if path.isEmpty then .failure SystemError.missing else w.entryAt (w.place path.toList)

def systemFault (number : Nat) (path : String) : Fault := .system ⟨number, some path⟩

def hasNull (path : String) : Bool := path.contains '\x00'

def read (w : World) (path : String) : Except Fault Bytes :=
  if hasNull path then .error .nullByte
  else match w.entry path with
    | .content bs => .ok bs
    | .directory => .error (systemFault SystemError.isADirectory path)
    | .failure n => .error (systemFault n path)

def readText (w : World) (path : String) : Except Fault (List Char) := do
  let bs ← w.read path
  match Utf8.decode bs with
  | .ok cs => .ok (EnvFile.unifyBreaks cs)
  | .error e => .error (.notUtf8 e)

def makeDirectory (w : World) (path : String) : Except Fault Unit :=
  if hasNull path then .error .nullByte
  else match w.entry path with
    | .content _ => .error (systemFault SystemError.fileExists path)
    | .directory => .ok ()
    | .failure n =>
      if n == SystemError.missing || n == SystemError.isADirectory then .ok ()
      else .error (systemFault n path)

def put (w : World) (path : String) (bs : Bytes) : World :=
  { w with files := (path, .content bs) :: w.files }

def writeFault? (w : World) (path : String) : Option WriteFault :=
  (w.writeFaults.find? fun f => w.place f.1.toList == w.place path.toList).map Prod.snd

structure Written where
  world : World
  bytes : Bytes
  fault? : Option Fault

def store (w : World) (path : String) (bs : Bytes) : Except Fault Written :=
  match w.writeFault? path with
  | none => .ok ⟨w.put path bs, bs, none⟩
  | some (.denied n) => .error (systemFault n path)
  | some (.full room n) =>
    if bs.length ≤ room then .ok ⟨w.put path bs, bs, none⟩
    else .ok ⟨w.put path (bs.take room), bs.take room, some (.system ⟨n, none⟩)⟩

def write (w : World) (path : String) (bs : Bytes) : Except Fault Written :=
  if hasNull path then .error .nullByte
  else match w.entry path with
    | .content _ => w.store path bs
    | .directory => .error (systemFault SystemError.isADirectory path)
    | .failure n =>
      if n == SystemError.missing then w.store path bs else .error (systemFault n path)

def absolutePath (w : World) (path : String) : String :=
  String.ofList ('/' :: Cut.join '/' (w.place path.toList))

end World

end EmitBridge
