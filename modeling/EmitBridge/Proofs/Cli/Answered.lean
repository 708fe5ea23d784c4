import EmitBridge.Proofs.Cli.Lookup
import EmitBridge.Proofs.Engine.Named

/-! What comes of looking an engine up. A path is answered with the engine under it, or with a
failure that names the path, which a command leaves with the status for failures of the system. -/

namespace EmitBridge

open HostNames.AsciiOnly

open Run

namespace CommandLine

variable {w : World} {c : CommandLine} {f : Failure}

end CommandLine

namespace Engine

variable {w : World} {clock path : String} {words : List String}

end Engine

end EmitBridge
