import EmitBridge.Check.Record
import EmitBridge.Value.Dumped
import EmitBridge.Value.Pairs

/-! Compiler options: reading them from what a caller gives, the two rules about source maps, and
the mapping that an engine receives. -/

namespace EmitBridge

inductive SourceMapConflict
  | exclusive
  | inlineSources
deriving DecidableEq, Repr

namespace SourceMapConflict

def message : SourceMapConflict → String
  | exclusive => "sourceMap and inlineSourceMap are mutually exclusive"
  | inlineSources => "inlineSources requires sourceMap or inlineSourceMap"

end SourceMapConflict

namespace CompilerOptions

/-- Reads keys that may be anything; only text names an option. -/
def ofPairs (ps : Value.Pairs) : Checked (CompilerOptions Value) :=
  let named := ps.filterMap fun p => match p.1 with
    | .str t => some (t, p.2)
    | _ => none
  let nameless := ps.filterMap fun p => match p.1 with
    | .str _ => none
    | v => some ((Check.violation .key v).under v.shown)
  (fun o _ => o) <$> Check.readCompilerOptions named
    <*> (if nameless.isEmpty then pure () else .refused nameless)

def ofValue (v : Value) : Except Failure (Option (CompilerOptions Value)) :=
  match v with
  | .null => .ok none
  | .compilerOptions o => .ok (some o)
  | v => do some <$> (ofPairs (← v.pairs)).toExcept "CompilerOptions"

/-- The rule that the options break; a rule about one option alone is the engine's. -/
def conflict? (o : CompilerOptions Value) : Option SourceMapConflict :=
  let external := o.sourceMap == some true
  let inlined := o.inlineSourceMap == some true
  if external && inlined then some .exclusive
  else if o.inlineSources == some true && !(external || inlined) then some .inlineSources
  else none

def check (o : Option (CompilerOptions Value)) : Except Failure Unit :=
  match o.bind conflict? with
  | some c => .error (.emit (.config c.message))
  | none => .ok ()

def toEngine (o : CompilerOptions Value) : Entries Value := Value.dumpedCompilerOptions o

end CompilerOptions

end EmitBridge
