import EmitBridge.Proofs.Cli.Files
import EmitBridge.Proofs.Cli.Modules

/-! What commands hand over, whatever they are: a text to be printed, or files to be written. Both
commands come to such a parcel in the same steps, and fail in them or in handing it over. -/

namespace EmitBridge

open Run

namespace Delivery

variable {line : Except Fault String} {path : PosixPath} {t : Text} {d : Delivery}
  {files : List (PosixPath × Text)} {w : World} {entries : List (String × Contents)}
  {ending : Except Failure Unit}

theorem Stops.failure_cases {place : String} {r : Except Fault World.Written} {f : Failure}
    (h : Stops path place r entries f) :
    (∃ g, f = .fault g) ∨ ∃ message, f = .command (.system message) := by
  cases h with
  | refused => exact .inr ⟨_, rfl⟩
  | cut => exact .inr ⟨_, rfl⟩
  | unencodable => exact .inl ⟨_, rfl⟩

theorem WritesOut.ending_cases (h : WritesOut line w files entries ending) :
    ending = .ok () ∨ (∃ f, ending = .error (.fault f)) ∨
      ∃ message, ending = .error (.command (.system message)) := by
  induction h with
  | told _ => exact .inl rfl
  | untold _ => exact .inr (.inl ⟨_, rfl⟩)
  | written _ _ ih => exact ih
  | stopped hstops =>
    rcases hstops.failure_cases with ⟨f, rfl⟩ | ⟨message, rfl⟩
    · exact .inr (.inl ⟨f, rfl⟩)
    · exact .inr (.inr ⟨message, rfl⟩)

theorem WritesOut.leaves (h : WritesOut line w files entries d.ending) : d.Leaves := by
  intro f hf
  rcases h.ending_cases with hok | ⟨g, hfault⟩ | ⟨message, hcommand⟩
  · cases hf.symm.trans hok
  · cases hf.symm.trans hfault
    trivial
  · cases hf.symm.trans hcommand
    exact CommandError.leaves_system message

theorem stderr_write (path : PosixPath) (t : Text) (d : Delivery) :
    (d.write path t).stderr = d.stderr := by
  unfold write
  split <;> rfl

theorem told_writeAll (hd : d.ending = .ok ()) (h : (writeAll line files d).ending = .ok ()) :
    ∃ s, line = .ok s ∧ (writeAll line files d).stderr = d.stderr ++ s := by
  induction files generalizing d with
  | nil =>
    cases line with
    | ok s => exact ⟨s, rfl, rfl⟩
    | error f => cases h
  | cons file files ih =>
    obtain ⟨path, t⟩ := file
    rw [writeAll] at h ⊢
    obtain ⟨hwrite, hrest⟩ := ending_andThen_eq_ok h
    rw [hrest] at h ⊢
    rw [← stderr_write path t d]
    exact ih hwrite h

end Delivery

/-- What a command hands over: a text, which may need a word on its source map, or files with a line
that tells of them, or nothing, as there is no text for it. -/
inductive Parcel
  | nothing (f : Fault)
  | printed (t : Text) (isWarned : Bool)
  | files (line : Except Fault String) (files : List (PosixPath × Text))

namespace Parcel

def mapWarning (console : Console) : Except Fault String :=
  Status.warning console "Source map discarded; use --output to write it"

def deliver : Parcel → Delivery → Delivery
  | nothing f, d => d.fail (.fault f)
  | printed t false, d => d.print t
  | printed t true, d => (d.print t).andThen (.tell (mapWarning d.world.console))
  | files line fs, d => d.writeAll line fs

inductive Escapes (w : World) : Parcel → Prop
  | nothing (f : Fault) : Escapes w (nothing f)
  | printed {t : Text} {isWarned : Bool} {e : Utf8.EncodeError} : Utf8.encode t = .error e →
    Escapes w (printed t isWarned)
  | files {line : Except Fault String} {fs : List (PosixPath × Text)}
    {entries : List (String × Contents)} {f : Fault} :
    Delivery.WritesOut line w fs entries (.error (.fault f)) → Escapes w (files line fs)

inductive IsUnwritable (w : World) : Parcel → Prop
  | files {line : Except Fault String} {fs : List (PosixPath × Text)}
    {entries : List (String × Contents)} {e : CommandError} :
    Delivery.WritesOut line w fs entries (.error (.command e)) → IsUnwritable w (files line fs)

def IsClean : Parcel → Prop
  | files _ fs => ∀ f ∈ fs, f.1.IsClean
  | _ => True

variable {w : World} {p : Parcel}

end Parcel

namespace CommandLine

variable {w : World} {c : CommandLine}

def bundleParcel (console : Console) (output : Option PosixPath) (e : BundleEmit) : Parcel :=
  match output with
  | none => .printed e.code e.map.isSome
  | some path => .files (bundledLine console path e.map) (bundleFiles path e)

def transpiledLine (console : Console) (path : PosixPath) (ps : Value.Pairs) :
    Except Fault String :=
  Status.success console ("Transpiled " ++ toString ps.length ++ " module(s) to " ++ path.toString)

def modulesParcel (w : World) (output : Option PosixPath) (ps : Value.Pairs) : Parcel :=
  match modulesText w ps, output with
  | .error f, _ => .nothing f
  | .ok text, none => .printed (text ++ Text.ofString "\n") false
  | .ok text, some path => .files (transpiledLine w.console path ps) [(path, text)]

theorem deliverBundle_eq_deliver {e : BundleEmit} (h : ∀ m ∈ e.map, m.isEmpty = false)
    (output : Option PosixPath) (d : Delivery) :
    deliverBundle output e d = (bundleParcel d.world.console output e).deliver d := by
  cases output with
  | some path => exact deliverBundle_eq h d
  | none =>
    unfold deliverBundle
    simp only [filter_map h]
    obtain ⟨code, map⟩ := e
    cases map <;> rfl

theorem deliverModules_eq_deliver (output : Option PosixPath) (ps : Value.Pairs) (d : Delivery) :
    deliverModules output ps d = (modulesParcel d.world output ps).deliver d := by
  unfold deliverModules modulesParcel
  cases modulesText d.world ps with
  | error f => rfl
  | ok text => cases output <;> rfl

theorem isClean_bundleParcel {output : Option PosixPath} (h : ∀ path ∈ output, path.IsClean)
    (console : Console) (e : BundleEmit) : (bundleParcel console output e).IsClean := by
  cases output with
  | none => trivial
  | some path => exact isClean_bundleFiles (h path rfl)

theorem isClean_modulesParcel {output : Option PosixPath} (h : ∀ path ∈ output, path.IsClean)
    (w : World) (ps : Value.Pairs) : (modulesParcel w output ps).IsClean := by
  unfold modulesParcel
  cases modulesText w ps with
  | error f => trivial
  | ok text =>
    cases output with
    | none => trivial
    | some path =>
      intro f hf
      rw [List.mem_singleton.mp hf]
      exact h path rfl

def emitCall (c : CommandLine) (engine : Option Engine) (es : Entries Value) :
    Except Failure EmitCall :=
  match c.shape with
  | some _ => EmitCall.ofBundle engine (.string c.root) (callOptions c.shape es)
  | none => EmitCall.ofTranspile engine (.string c.root) (callOptions c.shape es)

def shaped (w : World) (c : CommandLine) (raw : Value) : Except Failure Parcel :=
  match c.shape with
  | some _ => (BundleEmit.ofValue raw).map (bundleParcel w.console c.output)
  | none => (Value.pairs raw).map (modulesParcel w c.output)

def emitted [HostNames] (w : World) (c : CommandLine) (es : Entries Value) :
    Except Failure Parcel := do
  let engine ← (c.namedEngine w).outcome
  let call ← c.emitCall engine es
  let raw ← (call.invoke w).outcome
  c.shaped w raw

def parcel [HostNames] (w : World) (c : CommandLine) : Except Failure Parcel := do
  let es ← (c.flags.options w).outcome
  (c.emitted w es).mapError fun e => .command (CommandError.ofFailure e)

theorem root_of_emitCall {engine : Option Engine} {es : Entries Value} {call : EmitCall}
    (h : c.emitCall engine es = .ok call) : call.root = .string c.root ∧ call.engine = engine := by
  unfold emitCall at h
  split at h
  · obtain ⟨o, -, rfl⟩ := EmitCall.exists_of_ofBundle h
    exact ⟨rfl, rfl⟩
  · obtain ⟨o, -, rfl⟩ := EmitCall.exists_of_ofTranspile h
    exact ⟨rfl, rfl⟩

theorem parcel_eq_map [HostNames] {α : Type} {emit : World → Option Engine → Value → Value → Run α}
    (shape : Value → Except Failure α) {pack : α → Parcel}
    (hemit : ∀ engine es, emit w engine (.string c.root) (callOptions c.shape es) =
      (Run.ofExcept (c.emitCall engine es) >>= fun call => call.run w shape))
    (hshaped : ∀ raw, c.shaped w raw = (shape raw).map pack) :
    c.parcel w = (c.call w emit).outcome.map pack := by
  have hemitted (es : Entries Value) : c.emitted w es =
      ((c.namedEngine w).outcome >>= fun engine =>
        (emit w engine (.string c.root) (callOptions c.shape es)).outcome).map pack := by
    unfold emitted
    cases (c.namedEngine w).outcome with
    | error f => rfl
    | ok engine =>
      show (c.emitCall engine es >>= _) = ((emit w engine _ _).outcome).map pack
      rw [hemit, outcome_bind, outcome_ofExcept]
      cases hcall : c.emitCall engine es with
      | error f => rfl
      | ok call =>
        obtain ⟨hroot, -⟩ := root_of_emitCall hcall
        show ((call.invoke w).outcome >>= c.shaped w) = ((call.run w shape).outcome).map pack
        rw [EmitCall.outcome_run_of_text hroot]
        cases (call.invoke w).outcome with
        | error f => rfl
        | ok raw => exact hshaped raw
  unfold parcel
  cases hes : (c.flags.options w).outcome with
  | error f =>
    have hcall : (c.call w emit).outcome = .error f := by
      rw [call, outcome_bind, hes]
      rfl
    rw [hcall]
    rfl
  | ok es =>
    rw [outcome_call hes]
    show (c.emitted w es).mapError _ = _
    rw [hemitted]
    cases ((c.namedEngine w).outcome >>= fun engine =>
      (emit w engine (.string c.root) (callOptions c.shape es)).outcome) <;> rfl

theorem parcel_of_shape [HostNames] (h : c.shape.isSome) :
    c.parcel w = (c.call w bundle).outcome.map (bundleParcel w.console c.output) := by
  obtain ⟨s, hshape⟩ := Option.isSome_iff_exists.mp h
  refine parcel_eq_map BundleEmit.ofValue (fun engine es => ?_) (fun raw => ?_)
  · rw [bundle_eq, emitCall, hshape]
  · rw [shaped, hshape]

theorem parcel_of_noShape [HostNames] (hshape : c.shape = none) :
    c.parcel w = (c.call w transpile).outcome.map (modulesParcel w c.output) := by
  refine parcel_eq_map Value.pairs (fun engine es => ?_) (fun raw => ?_)
  · rw [transpile_eq, emitCall, hshape]
  · rw [shaped, hshape]

theorem run_eq_deliver [HostNames] (w : World) (format : LogFormat) (c : CommandLine) :
    ∃ events, c.run w format =
      .ofDelivery w.console format (deliver w Parcel.deliver (c.parcel w)) events := by
  cases hshape : c.shape with
  | some s =>
    have hshape : c.shape.isSome := hshape ▸ rfl
    refine ⟨(c.call w bundle []).2, ?_⟩
    rw [run_of_shape hshape, parcel_of_shape hshape]
    congr 1
    cases hcall : (c.call w bundle).outcome with
    | error f => rfl
    | ok e =>
      have he := outcome_call_eq_ok_iff.mp hcall
      exact deliverBundle_eq_deliver he.isEmpty_map c.output (.start w)
  | none =>
    refine ⟨(c.call w transpile []).2, ?_⟩
    rw [run_of_noShape hshape, parcel_of_noShape hshape]
    congr 1
    cases hcall : (c.call w transpile).outcome with
    | error f => rfl
    | ok ps => exact deliverModules_eq_deliver c.output ps (.start w)

theorem isClean_parcel [HostNames] (h : ∀ path ∈ c.output, path.IsClean) {p : Parcel}
    (hp : c.parcel w = .ok p) : p.IsClean := by
  obtain ⟨es, -, hp⟩ := exists_of_bind_eq_ok hp
  obtain ⟨engine, -, hp⟩ := exists_of_bind_eq_ok (mapError_eq_ok_iff.mp hp)
  obtain ⟨call, -, hp⟩ := exists_of_bind_eq_ok hp
  obtain ⟨raw, -, hp⟩ := exists_of_bind_eq_ok hp
  unfold shaped at hp
  split at hp
  · obtain ⟨e, -, rfl⟩ := exists_of_map_eq_ok hp
    exact isClean_bundleParcel h w.console e
  · obtain ⟨ps, -, rfl⟩ := exists_of_map_eq_ok hp
    exact isClean_modulesParcel h w ps

end CommandLine

end EmitBridge
