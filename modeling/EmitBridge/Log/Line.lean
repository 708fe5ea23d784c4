import EmitBridge.Json.Printer
import EmitBridge.Json.Sorted
import EmitBridge.Run.Basic
import EmitBridge.Value.ToJson

/-! Log events as lines of text: columns for a reader, or JSON objects. -/

namespace EmitBridge

/-- How log events are written. Events that weigh less than `threshold` are left out, and `clock` is
the time that a line tells. -/
structure LogFormat where
  threshold : Nat
  json : Bool
  clock : Option String
deriving DecidableEq, Repr

namespace LogFormat

def loggerName : String := "jsemit"

def thresholds : List (String × Nat) :=
  [("CRITICAL", 50), ("FATAL", 50), ("ERROR", 40), ("WARNING", 30), ("WARN", 30), ("INFO", 20),
    ("DEBUG", 10), ("NOTSET", 0)]

def layoutName : String := "BASIC_FORMAT"

def layout : String := "%(levelname)s:%(name)s:%(message)s"

def thresholdOf (name : String) : Except Fault Nat :=
  let upper := (Text.ofString name).upper.toString
  match thresholds.lookup upper with
  | some n => .ok n
  | none =>
    if upper == layoutName then .error (.badLevel (Quoted.string layout))
    else .error (.missingName "logging" upper)

def pad (width : Nat) (s : String) : String :=
  s ++ String.ofList (List.replicate (width - s.length) ' ')

def isLoose (c : Char) : Bool := " \t=\r\n\x22\x27".toList.contains c

def shownText (t : Text) : String :=
  if t.toString.toList.any isLoose then Quoted.text t else t.toString

def shown (v : Value) : String :=
  match v.text? with
  | some t => shownText t
  | none => v.quoted

def columnNames : List String := ["timestamp", "level", "event", "logger"]

def pair (e : Text × Value) : String := e.1.toString ++ "=" ++ shown e.2

def timeColumn (f : LogFormat) (fields : Entries Value) : List String :=
  match f.clock.or ((fields.get? (Text.ofString "timestamp")).map Value.shown) with
  | some time => [time]
  | none => []

def columns (f : LogFormat) (level : Level) (name : String) (fields : Entries Value) :
    List String :=
  let others := fields.filter fun e => !columnNames.contains e.1.toString
  timeColumn f fields ++ ["[" ++ pad 9 level.name ++ "]", pad 30 name, "[" ++ loggerName ++ "]"]
    ++ (Entries.sorted others).map pair

def textLine (f : LogFormat) (level : Level) (name : String) (fields : Entries Value) : String :=
  let cs := (String.intercalate " " (f.columns level name fields)).toList
  String.ofList (cs.reverse.dropWhile (· == ' ')).reverse

def facts (f : LogFormat) (level : Level) (name : String) : Entries Value :=
  [logField "event" (.string name), logField "level" (.string level.name),
      logField "logger" (.string loggerName)]
    ++ match f.clock with
      | some time => [logField "timestamp" (.string time)]
      | none => []

def jsonLine (f : LogFormat) (level : Level) (name : String) (fields : Entries Value) : String :=
  let entries := Run.withContext fields (f.facts level name)
  let members := Value.jsonEntries (fun v => .str (Text.ofString v.quoted)) entries
  String.ofList (Json.obj members).sorted.render

def line (f : LogFormat) (level : Level) (name : String) (fields : Entries Value) : String :=
  if f.json then f.jsonLine level name fields else f.textLine level name fields

def line? (f : LogFormat) : Event → Option String
  | .logged level name fields =>
    if f.threshold ≤ level.weight then some (f.line level name fields ++ "\n") else none
  | _ => none

def text (f : LogFormat) (events : List Event) : String :=
  String.join (events.filterMap f.line?)

end LogFormat

end EmitBridge
