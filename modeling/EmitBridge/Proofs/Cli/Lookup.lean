import EmitBridge.Proofs.Cli.Parcel
import EmitBridge.Proofs.Engine.Lookup

/-! The engine that a command looks up, and what is told of a missing one. -/

namespace EmitBridge

open Run

namespace Failure

variable {f : Failure}

end Failure

namespace CommandLine

variable {w : World} {c : CommandLine} {path? : Option String} {f : Failure}

def enginePath (c : CommandLine) : Option String := c.engine.filter (!·.isEmpty)

inductive LooksUp [HostNames] (w : World) (c : CommandLine) : Option String → Prop
  | flag {es : Entries Value} {path : String} : (c.flags.options w).outcome = .ok es →
    c.enginePath = some path → LooksUp w c (some path)
  | setting {es : Entries Value} {call : EmitCall} {s : Settings} :
    (c.flags.options w).outcome = .ok es → c.enginePath = none → c.emitCall none es = .ok call →
    CompilerOptions.check call.options.compilerOptions = .ok () →
    Settings.read [] w.surroundings = .ok s → LooksUp w c (Engine.settingPath s)

def Fails [HostNames] (w : World) (c : CommandLine) (f : Failure) : Prop :=
  ∃ es, (c.flags.options w).outcome = .ok es ∧ c.emitted w es = .error f

theorem LooksUp.unique [HostNames] {other? : Option String} (h : LooksUp w c path?)
    (h' : LooksUp w c other?) :
    path? = other? := by
  cases h with
  | flag _ hpath =>
    cases h' with
    | flag _ hpath' => exact hpath.symm.trans hpath'
    | setting _ hnone => cases hpath.symm.trans hnone
  | setting _ hnone _ _ hs =>
    cases h' with
    | flag _ hpath' => cases hnone.symm.trans hpath'
    | setting _ _ _ _ hs' =>
      cases hs.symm.trans hs'
      rfl

theorem Fails.unique [HostNames] {g : Failure} (h : Fails w c f) (h' : Fails w c g) : f = g := by
  obtain ⟨es, hes, hf⟩ := h
  obtain ⟨es', hes', hg⟩ := h'
  cases hes.symm.trans hes'
  exact Except.error.inj (hf.symm.trans hg)

/-- A failure of a command is not told of as what it is: a missing engine as a mistake of the user,
as the way to it breaks off otherwise, or a failure of an engine that is there as a missing
engine. -/
inductive Misreports [HostNames] (w : World) (c : CommandLine) : Prop
  | brokenOff {path : String} {f : Failure} : LooksUp w c (some path) →
    Engine.BreaksOff w path f → ¬f.IsEngineNotFound → Misreports w c
  | located {path : String} {f : Failure} : LooksUp w c (some path) → Engine.IsLocated w path →
    Fails w c f → f.IsEngineNotFound → Misreports w c

end CommandLine

end EmitBridge
