import EmitBridge.Catalog

/-! What the command line tells about itself. -/

namespace EmitBridge.Help

def version : String := Catalog.packageName ++ ", version " ++ Catalog.version ++ "\n"

def usage (form : String) : String := "Usage: " ++ Catalog.packageName ++ " " ++ form ++ "\n"

def overview : String :=
  usage "[OPTIONS] COMMAND [ARGS]..." ++ "\n"
    ++ "  Bundle and transpile JavaScript and TypeScript.\n\n"
    ++ "Options:\n"
    ++ "  --version      Show the version and exit.\n"
    ++ "  --no-color     Disable colored output.\n"
    ++ "  -v, --verbose  Log debug events to stderr.\n"
    ++ "  --help         Show this message and exit.\n\n"
    ++ "Commands:\n"
    ++ "  bundle     Bundle ROOT and everything it imports into one file.\n"
    ++ "  transpile  Transpile ROOT and every module it imports.\n"

def common : String :=
  "  -c, --config FILE        File with compilerOptions, imports, scopes or importMap\n"
    ++ "  --import-map TEXT        Import map, in place of those of the config file\n"
    ++ "  --source-map             Emit an external source map\n"
    ++ "  --inline-source-map      Embed the source map in the emitted code\n"
    ++ "  --inline-sources         Embed sources in the source map\n"
    ++ "  --no-remote              Refuse to load http(s) modules\n"
    ++ "  --cache-root DIRECTORY   Cache directory to read remote modules from\n"
    ++ "  --cache-setting SETTING  Cache use: only, use or reload\n"
    ++ "  --engine TEXT            Compiler engine as module:attribute\n"
    ++ "  -o, --output FILE        Write output to this file instead of stdout\n"

def bundle : String :=
  usage "bundle [OPTIONS] ROOT" ++ "\n  Bundle ROOT and everything it imports into one file.\n\n"
    ++ "Options:\n" ++ common
    ++ "  -t, --type TYPE          Emit an ES module or a classic script: module or classic\n"
    ++ "  --minify                 Minify the bundle\n"
    ++ "  --help                   Show this message and exit.\n"

def transpile : String :=
  usage "transpile [OPTIONS] ROOT" ++ "\n  Transpile ROOT and every module it imports.\n\n"
    ++ "Options:\n" ++ common
    ++ "  --help                   Show this message and exit.\n"

end EmitBridge.Help
