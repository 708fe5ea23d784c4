import EmitBridge.Cli.Command
import EmitBridge.Engine.Sample

/-! The program. A command line is run against what is known of its surroundings. Files that it
opens are then read, and the run is repeated, until there is nothing more to read. -/

namespace EmitBridge.Program

open HostNames.AsciiOnly

def variableNames : List String := Settings.fields.map fun f => (Settings.envPrefix ++ f).toUpper

def environment : IO (List (String × String)) := do
  let found ← variableNames.mapM fun name => do return (← IO.getEnv name).map fun v => (name, v)
  return found.filterMap id

/-- The number of an error, whose sign may be turned around. -/
def magnitude (code : UInt32) : Nat :=
  if code.toNat < 0x80000000 then code.toNat else 0x100000000 - code.toNat

def errorNumber : IO.Error → Nat
  | .noFileOrDirectory _ code _ => magnitude code
  | .permissionDenied _ code _ => magnitude code
  | .inappropriateType _ code _ => magnitude code
  | _ => 5

def entryOfError (number : Nat) : FileEntry :=
  if number == SystemError.isADirectory then .directory else .failure number

def look (path : String) : IO FileEntry := do
  try
    return .content (← IO.FS.readBinFile path).toList
  catch e => return entryOfError (errorNumber e)

def opened (events : List Event) : List String :=
  events.filterMap fun
    | .opened path => some path
    | _ => none

def named (words : List String) : List String :=
  let upTo (p : PosixPath) : List String :=
    (List.range (p.parts.length + 1)).map fun n =>
      PosixPath.toString { p with parts := p.parts.take n }
  (words.flatMap fun word => upTo (PosixPath.ofString word)).eraseDups

/-- The world with what is found under paths. Paths without an entry are kept only if `keepMissing`
says so. -/
def learn (keepMissing : Bool) (paths : List String) (w : World) : IO World := do
  let found ← paths.mapM fun path => do return (path, ← look path)
  let kept := found.filter fun f => keepMissing || f.2 != .failure SystemError.missing
  return { w with files := w.files ++ kept }

partial def settle (w : World) (clock : String) (words : List String) : IO CommandRun := do
  let r := CommandRun.ofWords w clock words
  let news := (opened r.events).eraseDups.filter fun p => !(w.files.any fun f => f.1 == p)
  if news.isEmpty then return r else settle (← learn true news w) clock words

def surroundings : IO World := do
  let envFile ← try some <$> IO.FS.readFile ".env" catch _ => pure none
  return { World.bare with
    cwd := PosixPath.ofString (toString (← IO.currentDir))
    surroundings := ⟨← environment, envFile⟩
    plugins := [("samples", .module Engine.samples)] }

def writeFile (path : String) (c : Contents) : IO Unit := do
  IO.FS.createDirAll (PosixPath.ofString path).parent.toString
  match c with
  | .whole t => IO.FS.writeFile path t.toString
  | .part bs => IO.FS.writeBinFile path ⟨bs.toArray⟩

def conclusion : Ending → String × UInt32
  | .exit status => ("", status.toUInt32)
  | .failure (.usage e) => ("Error: " ++ e.message ++ "\n", 2)
  | .failure e => (e.name ++ ": " ++ e.message ++ "\n", 1)

end EmitBridge.Program

open EmitBridge in
def main (words : List String) : IO UInt32 := do
  let w ← Program.learn false (Program.named words) (← Program.surroundings)
  let r ← Program.settle w (toString (← IO.monoMsNow)) words
  let (line, status) := Program.conclusion r.ending
  IO.print r.stdout
  IO.eprint (r.stderr ++ line)
  try
    r.written.forM fun f => Program.writeFile f.1 f.2
    return status
  catch e =>
    IO.eprintln (toString e)
    return CommandError.systemStatus.toUInt32
