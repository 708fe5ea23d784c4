import EmitBridge.Proofs.Cli.Arguments
import EmitBridge.Proofs.Cli.Config
import EmitBridge.Proofs.Cli.Delivery
import EmitBridge.Proofs.Cli.Status
import EmitBridge.Proofs.World.Access

/-! The two ways in which a bundle is handed over. With an output file its code is written as it is;
without one it is printed, which is the same just if no escape sequence is in it. -/

namespace EmitBridge

open HostNames.AsciiOnly

open Run

namespace CommandError

theorem leaves_user (message : String) : Failure.Leaves (.command (user message)) :=
  (by decide : userStatus ≠ 0)

theorem leaves_system (message : String) : Failure.Leaves (.command (system message)) :=
  (by decide : systemStatus ≠ 0)

theorem leaves_ofFailure (e : Failure) : Failure.Leaves (.command (ofFailure e)) := by
  unfold ofFailure
  split
  · exact leaves_user _
  · split
    · exact leaves_system _
    · exact leaves_user _
  · exact leaves_user _

end CommandError

theorem ConfigFile.leaves_unreadable (path : PosixPath) (f : Fault) :
    (unreadable path f).Leaves := by
  unfold unreadable
  split
  · exact CommandError.leaves_system _
  · exact CommandError.leaves_system _
  · trivial

theorem EmitFlags.leaves_options [HostNames] {w : World} {f : EmitFlags} {e : Failure}
    (h : (f.options w).outcome = .error e) : e.Leaves := by
  by_cases hdeep : f.IsTooDeep w
  · obtain ⟨j, hj⟩ := fault_of_isTooDeep hdeep
    cases h.symm.trans hj
    trivial
  obtain ⟨-, message, rfl⟩ | ⟨path, g, -, -, rfl⟩ := told_of_options hdeep h
  · exact CommandError.leaves_user message
  · exact ConfigFile.leaves_unreadable path g

namespace CommandLine

variable {w : World} {c : CommandLine} {e : BundleEmit}

def Emits [HostNames] (w : World) (c : CommandLine) (e : BundleEmit) : Prop :=
  ∃ es engine, (c.flags.options w).outcome = .ok es ∧ (c.namedEngine w).outcome = .ok engine ∧
    (bundle w engine (.string c.root) (callOptions c.shape es)).outcome = .ok e

section Call

variable {α : Type} {emit : World → Option Engine → Value → Value → Run α}

theorem outcome_call [HostNames] {es : Entries Value} (h : (c.flags.options w).outcome = .ok es) :
    (c.call w emit).outcome = ((c.namedEngine w).outcome >>= fun engine =>
      (emit w engine (.string c.root) (callOptions c.shape es)).outcome).mapError
        fun e => .command (CommandError.ofFailure e) := by
  rw [call, outcome_bind, h, ← outcome_bind, ← outcome_mapFailure]
  rfl

theorem leaves_call [HostNames] {f : Failure} (h : (c.call w emit).outcome = .error f) :
    f.Leaves := by
  obtain h | ⟨es, -, h⟩ := failed_of_outcome_bind h
  · exact EmitFlags.leaves_options h
  · rw [outcome_mapFailure] at h
    obtain ⟨g, -, rfl⟩ := mapError_eq_error_iff.mp h
    exact CommandError.leaves_ofFailure g

end Call

theorem outcome_call_eq_ok_iff [HostNames] : (c.call w bundle).outcome = .ok e ↔ c.Emits w e := by
  constructor
  · intro h
    obtain ⟨es, hes, -⟩ := exists_of_outcome_bind h
    rw [outcome_call hes, mapError_eq_ok_iff] at h
    obtain ⟨engine, hengine, h⟩ := exists_of_bind_eq_ok h
    exact ⟨es, engine, hes, hengine, h⟩
  · rintro ⟨es, engine, hes, hengine, h⟩
    rw [outcome_call hes, mapError_eq_ok_iff, hengine]
    exact h

theorem emits_withOutput [HostNames] (output : Option PosixPath) :
    { c with output := output }.Emits w e ↔ c.Emits w e := Iff.rfl

theorem Emits.unique [HostNames] {e' : BundleEmit} (h : c.Emits w e) (h' : c.Emits w e') :
    e = e' := by
  obtain ⟨es, engine, hes, hengine, he⟩ := h
  obtain ⟨es', engine', hes', hengine', he'⟩ := h'
  cases hes.symm.trans hes'
  cases hengine.symm.trans hengine'
  exact Except.ok.inj (he.symm.trans he')

end CommandLine

namespace CommandRun

variable {console : Console} {format : LogFormat} {d : Delivery} {events : List Event}

theorem stdout_ofDelivery : (ofDelivery console format d events).stdout = d.stdout := by
  unfold ofDelivery
  cases d.ending with
  | ok u => rfl
  | error e => cases e <;> rfl

theorem written_ofDelivery : (ofDelivery console format d events).written = d.written := by
  unfold ofDelivery
  cases d.ending with
  | ok u => rfl
  | error e => cases e <;> rfl

theorem events_ofDelivery : (ofDelivery console format d events).events = events := by
  unfold ofDelivery
  cases d.ending with
  | ok u => rfl
  | error e => cases e <;> rfl

theorem ending_ofDelivery (h : d.ending = .ok ()) :
    (ofDelivery console format d events).ending = .exit 0 := by
  rw [ofDelivery, h]

theorem ending_of_ofDelivery (hd : d.Leaves)
    (h : (ofDelivery console format d events).ending = .exit 0) : d.ending = .ok () := by
  unfold ofDelivery at h
  cases hending : d.ending with
  | ok u => rfl
  | error e =>
    cases e with
    | command e =>
      simp only [hending] at h
      exact absurd (Ending.exit.inj h) (hd _ hending)
    | _ =>
      simp only [hending] at h
      cases h

end CommandRun

namespace CommandLine

open CommandRun

variable {w : World} {format : LogFormat} {c : CommandLine}

theorem run_of_shape [HostNames] (h : c.shape.isSome) : c.run w format =
    .ofDelivery w.console format (deliver w (deliverBundle c.output) (c.call w bundle).outcome)
      (c.call w bundle []).2 := by
  obtain ⟨s, hs⟩ := Option.isSome_iff_exists.mp h
  rw [run, hs]
  rfl

theorem stdout_run [HostNames] (h : c.shape.isSome) : (c.run w format).stdout = "" ∨
    ∃ e, c.Emits w e ∧ c.output = none ∧ (c.run w format).stdout = e.code.shown := by
  rw [run_of_shape h, stdout_ofDelivery]
  cases he : (c.call w bundle).outcome with
  | error f => exact .inl rfl
  | ok e =>
    cases houtput : c.output with
    | none =>
      obtain ⟨-, hstdout, -⟩ := printed_deliverBundle w e
      exact hstdout.imp id fun hshown => ⟨e, outcome_call_eq_ok_iff.mp he, rfl, hshown⟩
    | some path => exact .inl (written_deliverBundle w path e).2.1

theorem delivered_of_run [HostNames] (h : c.shape.isSome)
    (hsuccess : (c.run w format).ending = .exit 0) :
    ∃ e, c.Emits w e ∧ (deliverBundle c.output e (.start w)).ending = .ok () ∧
      (c.run w format).stdout = (deliverBundle c.output e (.start w)).stdout ∧
      (c.run w format).written = (deliverBundle c.output e (.start w)).written := by
  rw [run_of_shape h, stdout_ofDelivery, written_ofDelivery]
  rw [run_of_shape h] at hsuccess
  cases he : (c.call w bundle).outcome with
  | error f =>
    rw [he] at hsuccess
    -- a failure has a status of its own, so that this command would not succeed
    have hleaves : (Delivery.failed w f).Leaves := by
      rintro _ ⟨⟩
      exact leaves_call he
    have hnone := ending_of_ofDelivery hleaves hsuccess
    cases hnone
  | ok e =>
    rw [he] at hsuccess
    have hleaves : (deliverBundle c.output e (.start w)).Leaves := by
      cases c.output with
      | none => exact (printed_deliverBundle w e).1
      | some path => exact (written_deliverBundle w path e).1
    exact ⟨e, outcome_call_eq_ok_iff.mp he, ending_of_ofDelivery hleaves hsuccess, rfl, rfl⟩

end CommandLine

namespace CommandRequest

theorem isSome_shape_of_read {w : World} {words : List String} {c : CommandLine}
    (h : read w .bundle words = .ok (.emit c)) : c.shape.isSome := by
  obtain ⟨a, r, -, rfl⟩ := exists_arguments_of_read h
  rfl

end CommandRequest

namespace CommandRun

variable {w : World} {clock : String} {words : List String} {c : CommandLine} {isVerbose : Bool}
  {name : CommandName}

def AsksFor (w : World) (words : List String) (c : CommandLine) : Prop :=
  ∃ isVerbose rest, CliRequest.read words = .ok (.command .bundle isVerbose rest) ∧
    CommandRequest.read w .bundle rest = .ok (.emit c)

theorem ofWords_of_command [HostNames] {rest : List String}
    (h : CliRequest.read words = .ok (.command name isVerbose rest)) :
    ofWords w clock words = ofCommand w clock name isVerbose rest := by
  rw [ofWords, h]

theorem ofCommand_of_format [HostNames] {format : LogFormat} {rest : List String}
    (hformat : logFormat w clock isVerbose = .ok format)
    (h : CommandRequest.read w name rest = .ok (.emit c)) :
    ofCommand w clock name isVerbose rest = c.run w format := by
  unfold ofCommand
  simp only [hformat, h]

theorem ofCommand_of_noFormat [HostNames] {f : Failure} {rest : List String}
    (hformat : logFormat w clock isVerbose = .error f) :
    ofCommand w clock name isVerbose rest = refused f := by
  unfold ofCommand
  simp only [hformat]

theorem ofCommand_of_read [HostNames] {rest : List String}
    (h : CommandRequest.read w name rest = .ok (.emit c)) :
    (∃ e, ofCommand w clock name isVerbose rest = refused e) ∨
      ∃ format, ofCommand w clock name isVerbose rest = c.run w format := by
  cases hformat : logFormat w clock isVerbose with
  | error e => exact .inl ⟨e, ofCommand_of_noFormat hformat⟩
  | ok format => exact .inr ⟨format, ofCommand_of_format hformat h⟩

theorem exists_run_of_success [HostNames] {rest : List String}
    (hcommand : CliRequest.read words = .ok (.command name isVerbose rest))
    (hread : CommandRequest.read w name rest = .ok (.emit c))
    (hsuccess : (ofWords w clock words).ending = .exit 0) :
    ∃ format, ofWords w clock words = c.run w format := by
  rw [ofWords_of_command hcommand] at hsuccess ⊢
  obtain ⟨e, hrun⟩ | hrun := ofCommand_of_read hread
  · rw [hrun] at hsuccess
    cases hsuccess
  · exact hrun

theorem delivered_of_asksFor [HostNames] (h : AsksFor w words c)
    (hsuccess : (ofWords w clock words).ending = .exit 0) :
    ∃ e, c.Emits w e ∧
      (CommandLine.deliverBundle c.output e (.start w)).ending = .ok () ∧
      (ofWords w clock words).stdout =
        (CommandLine.deliverBundle c.output e (.start w)).stdout ∧
      (ofWords w clock words).written =
        (CommandLine.deliverBundle c.output e (.start w)).written := by
  obtain ⟨isVerbose, rest, hcommand, hread⟩ := h
  obtain ⟨format, hrun⟩ := exists_run_of_success hcommand hread hsuccess
  rw [hrun] at hsuccess ⊢
  exact CommandLine.delivered_of_run (CommandRequest.isSome_shape_of_read hread) hsuccess

theorem printed_of_asksFor [HostNames] (h : AsksFor w words c) (houtput : c.output = none)
    (hsuccess : (ofWords w clock words).ending = .exit 0) :
    ∃ e, c.Emits w e ∧ (ofWords w clock words).stdout = e.code.shown ∧
      ∃ bs, Utf8.encode e.code = .ok bs := by
  obtain ⟨e, he, hending, hstdout, -⟩ := delivered_of_asksFor h hsuccess
  rw [houtput] at hending hstdout
  obtain ⟨-, -, hprinted⟩ := CommandLine.printed_deliverBundle w e
  obtain ⟨hshown, hbs⟩ := hprinted hending
  exact ⟨e, he, hstdout.trans hshown, hbs⟩

theorem written_of_asksFor [HostNames] {path : PosixPath}
    (h : AsksFor w words { c with output := some path })
    (hsuccess : (ofWords w clock words).ending = .exit 0) :
    ∃ e, c.Emits w e ∧ (ofWords w clock words).stdout = "" ∧
      (ofWords w clock words).written =
        (w.absolutePath path.toString, .whole e.code) :: CommandLine.mapEntry w path e := by
  obtain ⟨e, he, hending, hstdout, hwritten⟩ := delivered_of_asksFor h hsuccess
  obtain ⟨-, hnone, hfile⟩ := CommandLine.written_deliverBundle w path e
  exact ⟨e, (CommandLine.emits_withOutput _).mp he, hstdout.trans hnone,
    hwritten.trans (hfile hending)⟩

theorem stdout_ofCommand [HostNames] {rest : List String}
    (hhelp : CommandRequest.read w .bundle rest ≠ .ok .help) :
    (ofCommand w clock .bundle isVerbose rest).stdout = "" ∨
      ∃ c e, CommandRequest.read w .bundle rest = .ok (.emit c) ∧ c.output = none ∧
        c.Emits w e ∧ (ofCommand w clock .bundle isVerbose rest).stdout = e.code.shown := by
  cases hread : CommandRequest.read w .bundle rest with
  | error e =>
    refine .inl ?_
    unfold ofCommand
    cases logFormat w clock isVerbose with
    | error e => rfl
    | ok format =>
      rw [hread]
      rfl
  | ok r =>
    cases r with
    | help => exact absurd hread hhelp
    | emit c =>
      obtain ⟨e, hrun⟩ | ⟨format, hrun⟩ := ofCommand_of_read hread
      · exact .inl (by rw [hrun]; rfl)
      · rw [hrun]
        have hshape := CommandRequest.isSome_shape_of_read hread
        exact (CommandLine.stdout_run hshape).imp id fun ⟨e, he, houtput, hshown⟩ =>
          ⟨c, e, rfl, houtput, he, hshown⟩

end CommandRun

open CommandRun

def Engine.handing (v : Value) : Engine := ⟨"Fixed", fun _ => .done (.ok v)⟩

def World.handing (files : List (String × FileEntry)) (v : Value) : World :=
  { bare with
    files := files
    plugins := [("plugin", .module (.plain [("engine", .engine (.handing v))]))] }

def Engine.fixed (code : Text) : Engine :=
  ⟨"Fixed", fun _ => .done (.ok (.dict [Members.field "code" (.str code)]))⟩

def World.fixed (code : Text) : World :=
  { bare with plugins := [("plugin", .module (.plain [("engine", .engine (.fixed code))]))] }

namespace CommandLine

def fixedWords : List String := ["--engine", "plugin:engine", "file:///work/mod.ts"]

def fixed : CommandLine :=
  ⟨"file:///work/mod.ts", ⟨none, none, false, false, false, false, none, none⟩,
    some "plugin:engine", none, some ⟨.module, false⟩⟩

section Handing

variable (files : List (String × FileEntry)) (v : Value)

def handedCall : EmitCall :=
  ⟨.string "file:///work/mod.ts", ⟨none, none, none, none, none, none, none, none⟩,
    some ⟨.module, false⟩, some (.handing v)⟩

theorem resolution_handing [HostNames] (shape : Option BundleShape) :
    Nonempty ({ handedCall v with shape := shape }.Resolution (.handing files v)) := by
  have hurl : (Location.textToUrl (.ofString "/work") none fixed.root).toOption.isSome := by
    rw [Location.textToUrl_eq]
    rfl
  obtain ⟨u, hu⟩ := Option.isSome_iff_exists.mp hurl
  have hroot := Location.ok_of_toOption hu
  obtain ⟨s, hs⟩ := Location.exists_render_of_text hroot
  exact ⟨u, s, _, .null, none, ⟨_, rfl⟩, hroot, hs, rfl, rfl, rfl⟩

theorem outcome_bundle_handing [HostNames] :
    (bundle (.handing files v) (some (.handing v)) (.string fixed.root)
      (callOptions fixed.shape [])).outcome = BundleEmit.ofValue v := by
  have hcall : EmitCall.ofBundle (some (.handing v)) (.string fixed.root)
      (callOptions fixed.shape []) = .ok (handedCall v) := rfl
  obtain ⟨p⟩ : Nonempty ((handedCall v).Resolution (.handing files v)) :=
    resolution_handing files v fixed.shape
  have hreport : ((handedCall v).run (.handing files v) BundleEmit.ofValue).report =
      (((handedCall v).resume (.handing files v) (.handing v)).outcome >>= BundleEmit.ofValue,
        ((handedCall v).resume (.handing files v) (.handing v)).trace) :=
    EmitCall.report_run_of_valid rfl rfl
  obtain ⟨hrun, -⟩ := Prod.mk.inj hreport
  obtain ⟨hresume, -⟩ := Prod.mk.inj (EmitCall.report_resume_of_resolution p (.handing v))
  rw [bundle_eq, hcall, ofExcept_ok_bind]
  show ((handedCall v).run (.handing files v) BundleEmit.ofValue).outcome = _
  rw [hrun, hresume]
  rfl

theorem emits_handing [HostNames] {e : BundleEmit} (he : BundleEmit.ofValue v = .ok e) :
    fixed.Emits (.handing files v) e :=
  ⟨[], some (.handing v), rfl, rfl, (outcome_bundle_handing files v).trans he⟩

theorem logFormat_handing (isVerbose : Bool) :
    ∃ format, logFormat (.handing files v) "now" isVerbose = .ok format := by
  obtain ⟨s, hs, hlevel⟩ : ∃ s, Settings.read [] (World.handing files v).surroundings = .ok s ∧
      s.logLevel = "WARNING" := ⟨_, rfl, rfl⟩
  have hthreshold :
      ∃ n, LogFormat.thresholdOf (if isVerbose then "DEBUG" else s.logLevel) = .ok n := by
    have hknown :
        (LogFormat.thresholdOf (if isVerbose then "DEBUG" else "WARNING")).toOption.isSome := by
      cases isVerbose <;> decide
    obtain ⟨n, hn⟩ := Option.isSome_iff_exists.mp hknown
    exact ⟨n, hlevel ▸ Location.ok_of_toOption hn⟩
  obtain ⟨n, hn⟩ := hthreshold
  refine ⟨⟨n, s.logJson, if s.logJson then some "now" else none⟩, ?_⟩
  rw [logFormat, hs]
  simp only [bind, Except.bind, hn]
  rfl

theorem run_handing [HostNames] {words : List String} {c : CommandLine} {e : BundleEmit}
    (hc : AsksFor (.handing files v) words c) (he : c.Emits (.handing files v) e) :
    ∃ format events, ofWords (.handing files v) "now" words =
      .ofDelivery (World.handing files v).console format
        (deliverBundle c.output e (.start (.handing files v))) events := by
  obtain ⟨isVerbose, rest, hcommand, hread⟩ := hc
  obtain ⟨format, hformat⟩ := logFormat_handing files v isVerbose
  refine ⟨format, (c.call (.handing files v) bundle []).2, ?_⟩
  rw [ofWords_of_command hcommand, ofCommand_of_format hformat hread,
    run_of_shape (CommandRequest.isSome_shape_of_read hread), outcome_call_eq_ok_iff.mpr he]
  rfl

end Handing

variable (code : Text)

theorem asksFor_fixed : AsksFor (.fixed code) ("bundle" :: fixedWords) fixed :=
  ⟨false, fixedWords, Location.ok_of_toOption (by decide), rfl⟩

def fixedCall : EmitCall :=
  ⟨.string "file:///work/mod.ts", ⟨none, none, none, none, none, none, none, none⟩,
    some ⟨.module, false⟩, some (.fixed code)⟩

theorem resolution_fixed [HostNames] (shape : Option BundleShape) :
    Nonempty ({ fixedCall code with shape := shape }.Resolution (.fixed code)) :=
  resolution_handing [] (.dict [Members.field "code" (.str code)]) shape

theorem emits_fixed [HostNames] : fixed.Emits (.fixed code) ⟨code, none⟩ :=
  emits_handing [] (.dict [Members.field "code" (.str code)]) rfl

theorem logFormat_fixed (isVerbose : Bool) :
    ∃ format, logFormat (.fixed code) "now" isVerbose = .ok format :=
  logFormat_handing [] (.dict [Members.field "code" (.str code)]) isVerbose

theorem ending_of_fixed [HostNames] {words : List String} {c : CommandLine}
    (hc : AsksFor (.fixed code) words c) (he : c.Emits (.fixed code) ⟨code, none⟩)
    (h : (deliverBundle c.output ⟨code, none⟩ (.start (.fixed code))).ending = .ok ()) :
    (ofWords (.fixed code) "now" words).ending = .exit 0 := by
  obtain ⟨format, events, hrun⟩ :=
    run_handing [] (.dict [Members.field "code" (.str code)]) hc he
  have hrun : ofWords (.fixed code) "now" words =
      .ofDelivery (World.fixed code).console format
        (deliverBundle c.output ⟨code, none⟩ (.start (.fixed code))) events := hrun
  rw [hrun]
  exact ending_ofDelivery h

variable {bs : Bytes}

theorem ending_printed {code : Text} (h : Utf8.encode code = .ok bs) :
    (deliverBundle none ⟨code, none⟩ (.start (.fixed code))).ending = .ok () := by
  show ((Delivery.start (.fixed code)).print code).ending = .ok ()
  rw [Delivery.print_of_encode h]
  rfl

def outFile : PosixPath := .ofString "/work/out.js"

theorem isClean_outFile : outFile.IsClean := PosixPath.isClean_ofString (by decide)

theorem exists_writeText_fixed {t : Text} (h : Utf8.encode t = .ok bs) :
    ∃ w, (World.fixed code).writeText outFile t = .ok ⟨w, bs, none⟩ := by
  have hparent : World.bare.entry outFile.parent.toString = .directory := by decide
  have hentry : World.bare.entry outFile.toString = .failure SystemError.missing := by decide
  exact ⟨_, World.writeText_of_missing isClean_outFile hparent hentry rfl h⟩

theorem ending_written_fixed {console : Console} {t : Text} (h : Utf8.encode t = .ok bs)
    {message : String} (hmessage : '[' ∉ message.toList) :
    (((Delivery.start (.fixed code)).write outFile t).andThen
      (.tell (Status.success console message))).ending = .ok () := by
  obtain ⟨w, hw⟩ := exists_writeText_fixed code h
  obtain ⟨line, hline⟩ := Status.exists_success hmessage
  rw [Delivery.write, hline]
  simp only [Delivery.start, hw]
  rfl

theorem ending_written {code : Text} (h : Utf8.encode code = .ok bs) :
    (deliverBundle (some outFile) ⟨code, none⟩ (.start (.fixed code))).ending = .ok () :=
  ending_written_fixed code h
    (by decide : '[' ∉ ("Bundled to " ++ outFile.toString).toList)

theorem check_of_missing {w : World} {path : String} (n : CommandName)
    (hnull : '\x00' ∉ path.toList) (h : w.entry path = .failure SystemError.missing) :
    (CommandRequest.demand .output).check w (CommandRequest.hint n .output) path = .ok () := by
  have hnull : World.hasNull path = false := (World.hasNull_eq path).trans (decide_eq_false hnull)
  rw [CommandRequest.Demand.check, hnull, CommandRequest.demand, CommandRequest.Demand.problem?, h]
  rfl

theorem check_outFile (n : CommandName) :
    (CommandRequest.demand .output).check (.fixed code) (CommandRequest.hint n .output)
      "/work/out.js" = .ok () := by
  have hentry : World.bare.entry "/work/out.js" = .failure SystemError.missing := by decide
  exact check_of_missing n (by decide) hentry

theorem asksFor_outFile : AsksFor (.fixed code) ("bundle" :: "-o" :: "/work/out.js" :: fixedWords)
    { fixed with output := some outFile } := by
  refine ⟨false, "-o" :: "/work/out.js" :: fixedWords,
    Location.ok_of_toOption (by decide), ?_⟩
  exact CommandRequest.read_withOutput rfl rfl (check_outFile code .bundle)

end CommandLine

/-- The two channels of a bundle. Whatever is asked for, nothing but code is printed. If a bundle is
asked for without an output file, what is printed is the code just if there is no escape sequence in
it; the same command with an output file writes the code there and prints nothing. -/
theorem printed_code_iff_no_escape [HostNames] (w : World) (clock : String)
    {words rest : List String} {isVerbose : Bool}
    (hcommand : CliRequest.read words = .ok (.command .bundle isVerbose rest)) :
    (CommandRequest.read w .bundle rest ≠ .ok .help → (ofWords w clock words).stdout = "" ∨
      ∃ c e, CommandRequest.read w .bundle rest = .ok (.emit c) ∧ c.output = none ∧
        c.Emits w e ∧ (ofWords w clock words).stdout = e.code.shown) ∧
    ∀ c, CommandRequest.read w .bundle rest = .ok (.emit c) → c.output = none →
      (ofWords w clock words).ending = .exit 0 → ∃ e, c.Emits w e ∧
        (Text.ofString (ofWords w clock words).stdout = e.code ↔ e.code.hasEscape = false) ∧
        ∀ others path, AsksFor w others { c with output := some path } →
          (ofWords w clock others).ending = .exit 0 → (ofWords w clock others).stdout = "" ∧
            (ofWords w clock others).written =
              (w.absolutePath path.toString, .whole e.code) :: CommandLine.mapEntry w path e := by
  constructor
  · intro hhelp
    rw [ofWords_of_command hcommand]
    exact stdout_ofCommand hhelp
  · intro c hread houtput hsuccess
    obtain ⟨e, he, hshown, bs, hbs⟩ :=
      printed_of_asksFor ⟨isVerbose, rest, hcommand, hread⟩ houtput hsuccess
    refine ⟨e, he, ?_, fun others path hasks hothers => ?_⟩
    · rw [hshown]
      exact Text.ofString_shown_iff hbs
    · obtain ⟨d, hd, hstdout, hwritten⟩ := written_of_asksFor hasks hothers
      obtain rfl := CommandLine.Emits.unique he hd
      exact ⟨hstdout, hwritten⟩

theorem plain_code_printed : ∃ e, CommandLine.fixed.Emits (.fixed "let a;\r\n") e ∧
    Text.ofString (ofWords (.fixed "let a;\r\n") "now"
      ("bundle" :: CommandLine.fixedWords)).stdout = e.code ∧
    (ofWords (.fixed "let a;\r\n") "now"
      ("bundle" :: "-o" :: "/work/out.js" :: CommandLine.fixedWords)).written =
      [("/work/out.js", .whole e.code)] := by
  have hbs := Text.encode_ofString "let a;\r\n"
  have hemits := CommandLine.emits_fixed "let a;\r\n"
  have hprinted := CommandLine.ending_of_fixed _ (CommandLine.asksFor_fixed _) hemits
    (CommandLine.ending_printed hbs)
  have hwritten := CommandLine.ending_of_fixed _ (CommandLine.asksFor_outFile _) hemits
    (CommandLine.ending_written hbs)
  have hcommand : CliRequest.read ("bundle" :: CommandLine.fixedWords) =
      .ok (.command .bundle false CommandLine.fixedWords) :=
    Location.ok_of_toOption (by decide)
  obtain ⟨-, hdelivered⟩ :=
    printed_code_iff_no_escape (.fixed "let a;\r\n") "now" hcommand
  obtain ⟨e, he, hiff, hfile⟩ := hdelivered .fixed rfl rfl hprinted
  obtain rfl := CommandLine.Emits.unique hemits he
  obtain ⟨-, hfile⟩ := hfile _ CommandLine.outFile (CommandLine.asksFor_outFile _) hwritten
  have habsolute : World.bare.absolutePath CommandLine.outFile.toString = "/work/out.js" := by
    decide
  refine ⟨_, he, hiff.mpr (by decide), hfile.trans ?_⟩
  exact congrArg (fun name => [(name, Contents.whole (.ofString "let a;\r\n"))]) habsolute

theorem red_code_not_printed :
    AsksFor (.fixed "\x1b[31mred") ("bundle" :: CommandLine.fixedWords) .fixed ∧
    CommandLine.fixed.output = none ∧
    (ofWords (.fixed "\x1b[31mred") "now" ("bundle" :: CommandLine.fixedWords)).ending = .exit 0 ∧
    CommandLine.fixed.Emits (.fixed "\x1b[31mred") ⟨"\x1b[31mred", none⟩ ∧
    Text.ofString (ofWords (.fixed "\x1b[31mred") "now"
      ("bundle" :: CommandLine.fixedWords)).stdout ≠ "\x1b[31mred" := by
  have hbs := Text.encode_ofString "\x1b[31mred"
  have hemits := CommandLine.emits_fixed "\x1b[31mred"
  have hasks := CommandLine.asksFor_fixed "\x1b[31mred"
  have hsuccess := CommandLine.ending_of_fixed _ hasks hemits (CommandLine.ending_printed hbs)
  refine ⟨hasks, rfl, hsuccess, hemits, ?_⟩
  obtain ⟨e, he, hshown, -⟩ := printed_of_asksFor hasks rfl hsuccess
  obtain rfl := CommandLine.Emits.unique hemits he
  rw [hshown]
  intro hsame
  have hplain := (Text.ofString_shown_iff hbs).mp hsame
  have hescape : (Text.ofString "\x1b[31mred").hasEscape = true := by decide
  rw [hescape] at hplain
  cases hplain

end EmitBridge
