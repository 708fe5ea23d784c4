import EmitBridge.Engine.Lookup
import EmitBridge.Proofs.Run.Trace

/-! Where engines are located. A path that leads to no engine is told of as such, unless the way
along it breaks off with a failure of its own. -/

namespace EmitBridge

open Run

namespace Failure

def IsEngineNotFound (f : Failure) : Prop := ∃ e, f = .emit e ∧ e.kind = .engineNotFound

end Failure

namespace Engine

variable {w : World} {path : String} {f : Failure}

def LeadsTo (w : World) (path : String) (target : Plugin) : Prop :=
  ∃ m member plugin, splitPath? path = some (m, member) ∧ imported w m = .module plugin ∧
    plugin.follow? (names member) = .ok (some target)

def IsLocated (w : World) (path : String) : Prop :=
  ∃ target, LeadsTo w path target ∧ target.engine? ≠ .ok none

/-- The way along a path breaks off: its module cannot be run, or an attribute not be read. -/
inductive BreaksOff (w : World) (path : String) : Failure → Prop
  | importing {m member : String} {f : Failure} : splitPath? path = some (m, member) →
    imported w m = .broken f → BreaksOff w path f
  | reading {m member : String} {plugin : Plugin} {f : Failure} :
    splitPath? path = some (m, member) → imported w m = .module plugin →
    plugin.follow? (names member) = .error f → BreaksOff w path f

def IsRelative (path : String) : Prop :=
  ∃ m member, splitPath? path = some (m, member) ∧ m.front = '.'

def IsMissing (w : World) (path? : Option String) : Prop := ∀ path ∈ path?, ¬IsLocated w path

theorem BreaksOff.find (h : BreaksOff w path f) : find w path = .error f := by
  unfold Engine.find
  cases h with
  | importing hsplit hbroken => simp only [hsplit, hbroken]
  | reading hsplit hplugin hfails =>
    simp only [hsplit, hplugin, hfails]
    rfl

theorem outcome_load (w : World) (path : String) : (load w path).outcome = find w path := by
  unfold load
  rw [outcome_bind, outcome_ofExcept]
  cases find w path with
  | error f => rfl
  | ok e => rfl

def settingPath (s : Settings) : Option String := s.engine.filter (!·.isEmpty)

end Engine

end EmitBridge
