import EmitBridge.Proofs.Cli.Lookup

/-! Which errors of a command are contained in it. Whatever happens, a command ends in one of a few
ways; the conditions under which that is as it should be are stated beside them. -/

namespace EmitBridge

open HostNames.AsciiOnly

open Run

namespace CommandRequest

variable {w : World} {n : CommandName} {words : List String} {e : Failure}

end CommandRequest

namespace CliRequest

variable {words rest : List String} {name : CommandName} {isVerbose : Bool}

end CliRequest

namespace CommandLine

variable {w : World} {c : CommandLine}

inductive FailsInSystem [HostNames] (w : World) (c : CommandLine) : Prop
  | config : ¬c.flags.IsReadable w → FailsInSystem w c
  | engine {path? : Option String} :
    LooksUp w c path? → Engine.IsMissing w path? → FailsInSystem w c
  | output {p : Parcel} : c.parcel w = .ok p → p.IsUnwritable w → FailsInSystem w c

inductive Escapes [HostNames] (w : World) (c : CommandLine) : Prop
  | config : c.flags.IsTooDeep w → Escapes w c
  | parcel {p : Parcel} : c.parcel w = .ok p → p.Escapes w → Escapes w c

end CommandLine

namespace CommandRun

variable {w : World} {clock : String} {words rest : List String} {c : CommandLine}
  {format : LogFormat} {name : CommandName} {isVerbose : Bool}

structure Tells (console : Console) (format : LogFormat) (g : CommandError) (r : CommandRun) :
    Prop where
  ending : r.ending = .exit g.status
  stdout : r.stdout = ""
  stderr : r.stderr = format.text r.events ++ Status.error console g.message

inductive Ends [HostNames] (w : World) (c : CommandLine) (format : LogFormat) (r : CommandRun) :
    Prop
  | success : r.ending = .exit 0 → ¬c.Escapes w → ¬c.Misreports w → ¬c.FailsInSystem w →
    Ends w c format r
  | escaped {f : Fault} : r.ending = .failure (.fault f) → c.Escapes w → Ends w c format r
  | told {g : CommandError} : Tells w.console format g r → g.status = 1 ∨ g.status = 2 →
    ¬c.Escapes w →
    ((g.status = 2 ↔ c.FailsInSystem w) ↔ ¬c.Misreports w) → Ends w c format r

def FailsInSystem [HostNames] (w : World) (words : List String) : Prop :=
  ∃ name isVerbose rest c, CliRequest.read words = .ok (.command name isVerbose rest) ∧
    CommandRequest.read w name rest = .ok (.emit c) ∧ c.FailsInSystem w

end CommandRun

end EmitBridge
