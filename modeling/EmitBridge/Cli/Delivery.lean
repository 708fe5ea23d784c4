import EmitBridge.Cli.Status
import EmitBridge.Text.Escape
import EmitBridge.World.Basic

/-! What a command hands over: text for its caller, lines for its user, and files. The first failure
ends it. -/

namespace EmitBridge

namespace World

/-- Writes a text under a path, below directories that are made for it. A text without bytes of its
own leaves the file empty, as it is then opened. -/
def writeText (w : World) (path : PosixPath) (t : Text) : Except Fault Written := do
  w.makeDirectory path.parent.toString
  match Utf8.encode t with
  | .ok bs => w.write path.toString bs
  | .error e =>
    let opened ← w.write path.toString []
    return { opened with fault? := some (.surrogates e) }

end World

inductive Contents
  | whole (t : Text)
  | part (bs : Bytes)
deriving DecidableEq, Repr

structure Delivery where
  world : World
  stdout : String
  stderr : String
  written : List (String × Contents)
  ending : Except Failure Unit

namespace Delivery

def start (w : World) : Delivery := ⟨w, "", "", [], .ok ()⟩

def failed (w : World) (e : Failure) : Delivery := ⟨w, "", "", [], .error e⟩

def andThen (d : Delivery) (step : Delivery → Delivery) : Delivery :=
  match d.ending with
  | .ok () => step d
  | .error _ => d

def fail (e : Failure) (d : Delivery) : Delivery := { d with ending := .error e }

def print (t : Text) (d : Delivery) : Delivery :=
  match Utf8.encode t with
  | .ok _ => { d with stdout := d.stdout ++ String.ofList (Escape.strip t.toString.toList) }
  | .error e => d.fail (.fault (.surrogates e))

def unwritable (path : PosixPath) (f : Fault) : Failure :=
  match f with
  | .system _ => .command (.system ("Cannot write to: " ++ path.toString))
  | f => .fault f

def keep (path : PosixPath) (contents : Contents) (w : World) (d : Delivery) : Delivery :=
  { d with
    world := w
    written := d.written ++ [(d.world.absolutePath path.toString, contents)] }

def write (path : PosixPath) (t : Text) (d : Delivery) : Delivery :=
  match d.world.writeText path t with
  | .error f => d.fail (unwritable path f)
  | .ok ⟨w, bs, some f⟩ => (d.keep path (.part bs) w).fail (unwritable path f)
  | .ok ⟨w, _, none⟩ => d.keep path (.whole t) w

def tell (line : Except Fault String) (d : Delivery) : Delivery :=
  match line with
  | .ok s => { d with stderr := d.stderr ++ s }
  | .error f => d.fail (.fault f)

end Delivery

end EmitBridge
