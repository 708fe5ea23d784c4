import EmitBridge.Cli.Config
import EmitBridge.Cli.Delivery
import EmitBridge.Emit.Stages
import EmitBridge.Log.Line
import EmitBridge.Value.ToJson

/-! Running a command line. Messages for the user end a command with a status; refused command lines
and all other failures leave it as they are. -/

namespace EmitBridge

inductive Ending
  | exit (status : Nat)
  | failure (e : Failure)

structure CommandRun where
  stdout : String
  stderr : String
  written : List (String × Contents)
  events : List Event
  ending : Ending

namespace CommandRun

def printed (s : String) : CommandRun := ⟨s, "", [], [], .exit 0⟩

def refused (e : Failure) : CommandRun := ⟨"", "", [], [], .failure e⟩

/-- The run with what it hands over. Log lines stand before all others, and the message of a failure
is the last one. -/
def ofDelivery (console : Console) (format : LogFormat) (d : Delivery) (events : List Event) :
    CommandRun :=
  let lines := format.text events ++ d.stderr
  match d.ending with
  | .ok () => ⟨d.stdout, lines, d.written, events, .exit 0⟩
  | .error (.command e) =>
    ⟨d.stdout, lines ++ Status.error console e.message, d.written, events, .exit e.status⟩
  | .error e => ⟨d.stdout, lines, d.written, events, .failure e⟩

end CommandRun

namespace CommandLine

def namedEngine (w : World) (c : CommandLine) : Run (Option Engine) :=
  match c.engine with
  | some path => if path.isEmpty then Run.done none else some <$> Engine.load w path
  | none => Run.done none

def callOptions (shape : Option BundleShape) (es : Entries Value) : Value :=
  match shape with
  | some s =>
    .dict (es ++
      [Members.field "type" (.string s.type.text), Members.field "minify" (.bool s.minify)])
  | none => .dict es

def call [HostNames] {α : Type} (w : World) (c : CommandLine)
    (emit : World → Option Engine → Value → Value → Run α) : Run α := do
  let options ← c.flags.options w
  Run.mapFailure (fun e => .command (CommandError.ofFailure e)) do
    let engine ← c.namedEngine w
    emit w engine (.string c.root) (callOptions c.shape options)

def mapPath (path : PosixPath) : PosixPath := path.withSuffix ".map"

def deliverBundle (output : Option PosixPath) (e : BundleEmit) (d : Delivery) : Delivery :=
  match output, e.map.filter (!·.isEmpty) with
  | none, none => d.print e.code
  | none, some _ =>
    (d.print e.code).andThen
      (.tell (Status.warning d.world.console "Source map discarded; use --output to write it"))
  | some path, none =>
    (d.write path e.code).andThen
      (.tell (Status.success d.world.console ("Bundled to " ++ path.toString)))
  | some path, some map =>
    ((d.write path e.code).andThen (.write (mapPath path) map)).andThen
      (.tell (Status.success d.world.console ("Bundled to " ++ path.toString ++ " (source map: "
        ++ (mapPath path).toString ++ ")")))

def modulesText (w : World) (ps : Value.Pairs) : Except Fault Text :=
  (Value.pairsToJson w.nesting.printed ps).map fun j => Text.ofChars (j.renderLines 0)

def deliverModules (output : Option PosixPath) (ps : Value.Pairs) (d : Delivery) : Delivery :=
  match modulesText d.world ps, output with
  | .error f, _ => d.fail (.fault f)
  | .ok text, none => d.print (text ++ Text.ofString "\n")
  | .ok text, some path =>
    (d.write path text).andThen
      (.tell (Status.success d.world.console
        ("Transpiled " ++ toString ps.length ++ " module(s) to " ++ path.toString)))

def deliver {α : Type} (w : World) (handOver : α → Delivery → Delivery) :
    Except Failure α → Delivery
  | .ok a => handOver a (.start w)
  | .error e => .failed w e

def run [HostNames] (w : World) (format : LogFormat) (c : CommandLine) : CommandRun :=
  match c.shape with
  | some _ =>
    let (result, events) := c.call w bundle []
    .ofDelivery w.console format (deliver w (deliverBundle c.output) result) events
  | none =>
    let (result, events) := c.call w transpile []
    .ofDelivery w.console format (deliver w (deliverModules c.output) result) events

end CommandLine

namespace CommandRun

def logFormat (w : World) (clock : String) (isVerbose : Bool) : Except Failure LogFormat := do
  let s ← Settings.read [] w.surroundings
  let threshold ← (LogFormat.thresholdOf (if isVerbose then "DEBUG" else s.logLevel)).mapError
    FailureOf.fault
  return ⟨threshold, s.logJson, if s.logJson then some clock else none⟩

def ofCommand [HostNames] (w : World) (clock : String) (name : CommandName) (isVerbose : Bool)
    (words : List String) : CommandRun :=
  match logFormat w clock isVerbose with
  | .error e => refused e
  | .ok format =>
    match CommandRequest.read w name words with
    | .error e => refused e
    | .ok .help => printed name.help
    | .ok (.emit c) => c.run w format

def ofWords [HostNames] (w : World) (clock : String) (words : List String) : CommandRun :=
  match CliRequest.read words with
  | .error e => refused (.usage e)
  | .ok .help => printed Help.overview
  | .ok .version => printed Help.version
  | .ok (.command name isVerbose words) => ofCommand w clock name isVerbose words

end CommandRun

end EmitBridge
