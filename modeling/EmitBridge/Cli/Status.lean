import EmitBridge.EmitError
import EmitBridge.Markup.Render

/-! Lines that tell a user how a command went. A failure is told with the status to leave with. -/

namespace EmitBridge

namespace CommandError

def userStatus : Nat := 1

def systemStatus : Nat := 2

def user (message : String) : CommandError := ⟨message, userStatus⟩

def system (message : String) : CommandError := ⟨message, systemStatus⟩

def introduction (e : EmitError Value) : String :=
  match e.stage with
  | some stage => if stage.isEmpty then e.kind.name else e.kind.name ++ " while " ++ stage
  | none => e.kind.name

def ofFailure : Failure → CommandError
  | .invalid _ vs => user (Violation.report vs)
  | .emit e =>
    if e.kind == .engineNotFound then system e.text
    else user (introduction e ++ ": " ++ e.text)
  | f => user ("Emit failed: " ++ f.message)

end CommandError

namespace Status

variable (console : Console)

def displayed (s : List Char) : List Char := console.shown ⟨Console.sanitize s, []⟩

def error (message : String) : String :=
  String.ofList (displayed console "✗ ".toList ++ displayed console (Emoji.replace message.toList)
    ++ ['\n'])

def signed (color sign message : String) : Except Fault String := do
  let t ← Markup.render console
    ("[" ++ color ++ "]" ++ sign ++ "[/" ++ color ++ "] " ++ message).toList
  let shown ← console.print t
  return String.ofList (shown ++ ['\n'])

def success (message : String) : Except Fault String := signed console "green" "✓" message

def warning (message : String) : Except Fault String := signed console "yellow" "⚠" message

end Status

end EmitBridge
