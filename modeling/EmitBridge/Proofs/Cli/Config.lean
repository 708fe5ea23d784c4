import EmitBridge.Proofs.Cli.Sources
import EmitBridge.Proofs.Location.Closed
import EmitBridge.Proofs.World.Access

/-! What config files fail with. A file that cannot be read is told of as such; whatever else is
wrong with it is told to the user, unless it is nested too deep. -/

namespace EmitBridge

open Run

namespace ConfigFile

variable {w : World} {path : PosixPath} {e : Failure}

def IsTold (e : Failure) : Prop := ∃ message, e = .command (.user message)

def IsTooDeep (w : World) (path : PosixPath) : Prop :=
  ∃ text j, w.readText path.toString = .ok text ∧
    Json.parse w.nesting.config text = .error j ∧ j.isTooDeep = true

theorem isTold_ofChars {text : List Char} (hread : w.readText path.toString = .ok text)
    (hshallow : ¬IsTooDeep w path) (h : ofChars w.nesting.config path text = .error e) :
    IsTold e := by
  unfold ofChars at h
  split at h
  · next j hj =>
    split at h
    · next hdeep => exact absurd ⟨text, j, hread, hj, hdeep⟩ hshallow
    · cases h
      exact ⟨_, rfl⟩
  · split at h
    · cases h
    · cases h
      exact ⟨_, rfl⟩

theorem fault_of_isTooDeep (h : IsTooDeep w path) :
    ∃ j, (load w path).outcome = .error (.fault (.json j)) := by
  obtain ⟨text, j, hread, hj, hdeep⟩ := h
  refine ⟨j, ?_⟩
  rw [outcome_load, hread]
  show ofChars w.nesting.config path text = _
  unfold ofChars
  simp only [hj, hdeep, if_true]

theorem isTold_importMapUrl [HostNames] {t : Text} (h : importMapUrl w path t = .error e) :
    IsTold e := by
  have hlocation : Location.FailsAsLocation (Location.toUrl w.cwd
      (some (.path (.posix (w.cwd.absolute path.parent)))) (.str t)) :=
    Location.failsAsLocation_textToUrl (Location.isBase_path _) t.toString
  unfold importMapUrl at h
  cases hu : Location.toUrl w.cwd (some (.path (.posix (w.cwd.absolute path.parent)))) (.str t) with
  | ok u =>
    simp only [hu] at h
    cases h
  | error f =>
    obtain ⟨err, rfl, hkind⟩ := hlocation f hu
    simp only [hu, hkind, beq_self_eq_true, if_true] at h
    cases h
    exact ⟨_, rfl⟩

theorem isTold_namedImportMap [HostNames] {c : ConfigFile Value}
    (h : c.namedImportMap w path = .error e) :
    IsTold e := by
  unfold namedImportMap at h
  split at h
  · split at h
    · cases h
    · exact isTold_importMapUrl (map_eq_error_iff.mp h)
  · cases h

end ConfigFile

namespace EmitFlags

variable {w : World} {f : EmitFlags} {e : Failure}

def IsReadable (w : World) (f : EmitFlags) : Prop :=
  ∀ path ∈ f.config, ∃ text, w.readText path.toString = .ok text

theorem isReadable_of_config {path : PosixPath} (hconfig : f.config = some path) {text : List Char}
    (h : w.readText path.toString = .ok text) : f.IsReadable w := by
  intro p hp
  rw [hconfig] at hp
  cases hp
  exact ⟨text, h⟩

theorem isReadable_of_load {path : PosixPath} (hconfig : f.config = some path)
    {c : ConfigFile Value} (h : (ConfigFile.load w path).outcome = .ok c) : f.IsReadable w := by
  obtain ⟨text, -, -, htext, -⟩ := ConfigFile.holds_of_load h
  exact isReadable_of_config hconfig htext

def IsTooDeep (w : World) (f : EmitFlags) : Prop :=
  ∃ path ∈ f.config, ConfigFile.IsTooDeep w path

theorem fault_of_isTooDeep [HostNames] (h : f.IsTooDeep w) :
    ∃ j, (f.options w).outcome = .error (.fault (.json j)) := by
  obtain ⟨path, hconfig, hdeep⟩ := h
  obtain ⟨j, hj⟩ := ConfigFile.fault_of_isTooDeep hdeep
  have hconfigured : (f.configured w).outcome = .error (.fault (.json j)) := by
    unfold configured
    rw [Option.mem_def.mp hconfig]
    show (ConfigFile.load w path >>= _).outcome = _
    rw [outcome_bind, hj]
    rfl
  refine ⟨j, ?_⟩
  rw [options, outcome_bind, hconfigured]
  rfl

theorem told_of_options [HostNames] (hshallow : ¬f.IsTooDeep w)
    (h : (f.options w).outcome = .error e) :
    f.IsReadable w ∧ ConfigFile.IsTold e ∨
      ∃ path g, f.config = some path ∧ w.readText path.toString = .error g ∧
        e = ConfigFile.unreadable path g := by
  obtain h | ⟨r, -, h⟩ := failed_of_outcome_bind h
  · unfold configured at h
    cases hconfig : f.config with
    | none =>
      rw [hconfig] at h
      cases h
    | some path =>
      rw [hconfig] at h
      obtain h | ⟨c, hc, h⟩ := failed_of_outcome_bind h
      · rw [ConfigFile.outcome_load] at h
        cases hread : w.readText path.toString with
        | error g =>
          rw [hread] at h
          exact .inr ⟨path, g, rfl, hread, (Except.error.inj h).symm⟩
        | ok text =>
          rw [hread] at h
          refine .inl ⟨isReadable_of_config hconfig hread, ConfigFile.isTold_ofChars hread ?_ h⟩
          exact fun hdeep => hshallow ⟨path, hconfig, hdeep⟩
      · obtain h | ⟨named, -, h⟩ := failed_of_outcome_bind h
        · rw [outcome_ofExcept] at h
          exact .inl ⟨isReadable_of_load hconfig hc, ConfigFile.isTold_namedImportMap h⟩
        · cases h
  · cases h

end EmitFlags

end EmitBridge
