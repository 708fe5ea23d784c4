import EmitBridge.Proofs.Cli.Config

/-! An import map on the command line takes the place of what a config file says of one. Only the
location that the config file names is still looked at. -/

namespace EmitBridge

open HostNames.AsciiOnly

open Run

namespace ConfigFile

variable {w : World} {path : PosixPath} {c : ConfigFile Value}

end ConfigFile

namespace EmitFlags

variable {w w' : World} {f : EmitFlags} {path : PosixPath} {c c' : ConfigFile Value}

end EmitFlags

def EmitFlags.named : EmitFlags := { EmitFlags.appConfig with importMap := some "https://f.io/m" }

end EmitBridge
