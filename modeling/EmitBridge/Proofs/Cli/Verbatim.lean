import EmitBridge.Proofs.Cli.Parcel
import EmitBridge.Proofs.Cli.Status
import EmitBridge.Proofs.FilePath.Spelled
import EmitBridge.Proofs.Text.Decimal

/-! What commands tell of their files. The sentence comes through as it is written just if the path
is given in the spelling that paths are told in, and nothing in the sentence stands for something
else. -/

namespace EmitBridge

open HostNames.AsciiOnly

open Run

inductive Sentence
  | bundled
  | mapped
  | transpiled (count : Nat)

namespace Sentence

def text (path : String) : Sentence → String
  | bundled => "Bundled to " ++ path
  | mapped => "Bundled to " ++ path ++ " (source map: " ++ (path ++ ".map") ++ ")"
  | transpiled count => "Transpiled " ++ toString count ++ " module(s) to " ++ path

variable {path path' : String}

theorem text_inj (s : Sentence) : s.text path = s.text path' ↔ path = path' := by
  cases s with
  | bundled => exact String.append_right_inj _
  | transpiled count => exact String.append_right_inj _
  | mapped =>
    refine ⟨fun h => ?_, fun h => h ▸ rfl⟩
    have hends := (String.append_left_inj ")").mp h
    have hlength : (path ++ ".map").length = (path' ++ ".map").length := by
      have hwhole := congrArg String.length hends
      simp only [String.length_append] at hwhole ⊢
      omega
    -- the path stands in it twice, the second time at the end
    have hchars : ("Bundled to " ++ path ++ " (source map: ").toList ++ (path ++ ".map").toList =
        ("Bundled to " ++ path' ++ " (source map: ").toList ++ (path' ++ ".map").toList := by
      rw [← String.toList_append, ← String.toList_append, hends]
    have hmap := String.toList_inj.mp (List.append_inj_right' hchars hlength)
    exact (String.append_left_inj ".map").mp hmap

theorem countP_text {p : Char → Bool} (s : Sentence)
    (h : path.toList.countP p = path'.toList.countP p) :
    (s.text path).toList.countP p = (s.text path').toList.countP p := by
  cases s <;> simp only [text, String.toList_append, List.countP_append, h]

theorem not_isControl_of_isDigit {c : Char} (h : c.isDigit) : ¬IsControl c :=
  of_isDigit (p := fun c => ¬IsControl c) (by decide) h

theorem not_isControl_text (s : Sentence) (h : ∀ c ∈ path.toList, ¬IsControl c) :
    ∀ c ∈ (s.text path).toList, ¬IsControl c := by
  have hcount (count : Nat) : ∀ c ∈ (toString count).toList, ¬IsControl c := by
    intro c hc
    rw [Nat.toString_eq_ofList_toDigits, String.toList_ofList] at hc
    exact not_isControl_of_isDigit (Nat.isDigit_of_mem_toDigits (by decide) (by decide) hc)
  cases s with
  | bundled =>
    rw [text, String.toList_append]
    exact List.forall_mem_append.mpr ⟨forall_mem_of_all rfl, h⟩
  | mapped =>
    simp only [text, String.toList_append, List.forall_mem_append]
    exact ⟨⟨⟨⟨forall_mem_of_all rfl, h⟩, forall_mem_of_all rfl⟩, h, forall_mem_of_all rfl⟩,
      forall_mem_of_all rfl⟩
  | transpiled count =>
    simp only [text, String.toList_append, List.forall_mem_append]
    exact ⟨⟨⟨forall_mem_of_all rfl, hcount count⟩, forall_mem_of_all rfl⟩, h⟩

end Sentence

namespace CommandRun

variable {w : World} {line : Except Fault String} {files : List (PosixPath × Text)}
  {entries : List (String × Contents)}

structure SucceedsWith (format : LogFormat) (text : String) (r : CommandRun) : Prop where
  ending : r.ending = .exit 0
  stderr : r.stderr = format.text r.events ++ text

theorem succeedsWith_iff (text : String) (hfiles : ∀ f ∈ files, f.1.IsClean) (console : Console)
    (format : LogFormat) (events : List Event)
    (hwritten : (Delivery.writeAll line files (.start w)).written = Delivery.entriesOf w files) :
    SucceedsWith format text
        (ofDelivery console format (Delivery.writeAll line files (.start w)) events) ↔
      line = .ok text := by
  obtain ⟨entries, hwrites, hentries⟩ := Delivery.writesOut_writeAll (d := .start w) line hfiles rfl
  rw [hwritten] at hentries
  have htold (h : (Delivery.writeAll line files (.start w)).ending = .ok ()) :=
    Delivery.told_writeAll (d := .start w) rfl h
  have hempty (s : String) : (Delivery.start w).stderr ++ s = s := String.empty_append ..
  generalize Delivery.writeAll line files (.start w) = d at hwrites htold ⊢
  constructor
  · rintro ⟨hending, hstderr⟩
    have hok := ending_of_ofDelivery hwrites.leaves hending
    obtain ⟨s, hline, hs⟩ := htold hok
    have hlines : (ofDelivery console format d events).stderr =
        format.text events ++ d.stderr := by
      rw [ofDelivery, hok]
    rw [hlines, events_ofDelivery, hs, hempty, String.append_right_inj] at hstderr
    rw [hline, hstderr]
  · intro hline
    have hok := hwrites.ending_of_entries hentries.symm hline
    obtain ⟨s, hs, hstderr⟩ := htold hok
    cases hline.symm.trans hs
    refine ⟨ending_ofDelivery hok, ?_⟩
    rw [ofDelivery, hok]
    show format.text events ++ d.stderr = _
    rw [hstderr, hempty]

end CommandRun

namespace CommandLine

variable {w : World} {c : CommandLine} {given : String} {sentence : Sentence}
  {entries : List (String × Contents)}

/-- The command has files to write, of which this sentence tells. Only a path with a name has a
source map beside it. -/
inductive Announces [HostNames] (w : World) (c : CommandLine) (path : PosixPath) : Sentence →
    List (String × Contents) → Prop
  | bundled {e : BundleEmit} : c.shape.isSome → c.Emits w e → e.map = none →
    Announces w c path .bundled (bundleEntries w path e)
  | mapped {e : BundleEmit} : c.shape.isSome → c.Emits w e → e.map.isSome → path.parts ≠ [] →
    Announces w c path .mapped (bundleEntries w path e)
  | transpiled {ps : Value.Pairs} {t : Text} : c.shape = none →
    (c.call w transpile).outcome = .ok ps → modulesText w ps = .ok t →
    Announces w c path (.transpiled ps.length) [(w.absolutePath path.toString, .whole t)]

theorem Announces.entries_ne_nil [HostNames] {path : PosixPath}
    (h : Announces w c path sentence entries) :
    entries ≠ [] := by
  cases h <;> exact List.cons_ne_nil _ _

theorem parcel_of_emits [HostNames] {path : PosixPath} {e : BundleEmit} (hshape : c.shape.isSome)
    (he : c.Emits w e) (houtput : c.output = some path) :
    c.parcel w = .ok (.files (bundledLine w.console path e.map) (bundleFiles path e)) := by
  rw [parcel_of_shape hshape, outcome_call_eq_ok_iff.mpr he, houtput]
  rfl

theorem modulesParcel_of_text {ps : Value.Pairs} {t : Text} (h : modulesText w ps = .ok t)
    {path : PosixPath} : modulesParcel w (some path) ps =
      .files (Status.success w.console ((Sentence.transpiled ps.length).text path.toString))
        [(path, t)] := by
  unfold modulesParcel
  rw [h]
  rfl

theorem parcel_of_announces [HostNames] (houtput : c.output = some (.ofString given))
    (h : Announces w c (.ofString given) sentence entries) : ∃ files, c.parcel w =
      .ok (.files
        (Status.success w.console (sentence.text (PosixPath.ofString given).toString)) files) ∧
        Delivery.entriesOf w files = entries := by
  cases h with
  | bundled hshape he hmap =>
    refine ⟨_, ?_, entriesOf_bundleFiles w _ _⟩
    rw [parcel_of_emits hshape he houtput, hmap]
    rfl
  | mapped hshape he hmap hparts =>
    refine ⟨_, ?_, entriesOf_bundleFiles w _ _⟩
    obtain ⟨map, hmap⟩ := Option.isSome_iff_exists.mp hmap
    rw [parcel_of_emits hshape he houtput, hmap, bundledLine, Sentence.text, mapPath,
      PosixPath.toString_withSuffix hparts]
  | transpiled hshape hcall htext =>
    refine ⟨[(.ofString given, _)], ?_, rfl⟩
    rw [parcel_of_noShape hshape, hcall, houtput, ← modulesParcel_of_text htext]
    rfl

end CommandLine

namespace CommandRun

variable {w : World} {clock given : String} {words : List String} {isVerbose : Bool}
  {c : CommandLine} {sentence : Sentence} {entries : List (String × Contents)} {format : LogFormat}

def AsksForOutput (w : World) (words : List String) (isVerbose : Bool) (c : CommandLine)
    (given : String) : Prop :=
  ∃ name rest a, CliRequest.read words = .ok (.command name isVerbose rest) ∧
    Arguments.read (CommandRequest.forms name) true rest = .ok a ∧ a.value? .output = some given ∧
    CommandRequest.ofArguments w name a = .ok (.emit c)

theorem AsksForOutput.output (h : AsksForOutput w words isVerbose c given) :
    c.output = some (.ofString given) := by
  obtain ⟨name, rest, a, -, -, hvalue, ha⟩ := h
  obtain ⟨-, -, r, -, rfl⟩ := CommandRequest.ofArguments_eq_emit_iff.mp ha
  exact congrArg (Option.map PosixPath.ofString) hvalue

theorem AsksForOutput.exists_read (h : AsksForOutput w words isVerbose c given) :
    ∃ name rest, CliRequest.read words = .ok (.command name isVerbose rest) ∧
      CommandRequest.read w name rest = .ok (.emit c) := by
  obtain ⟨name, rest, a, hcommand, harguments, -, ha⟩ := h
  refine ⟨name, rest, hcommand, ?_⟩
  rw [CommandRequest.read, harguments]
  exact ha

theorem AsksForOutput.exists_run [HostNames] (h : AsksForOutput w words isVerbose c given)
    (hannounces : c.Announces w (.ofString given) sentence entries)
    (hwritten : (ofWords w clock words).written = entries) : ∃ format events files,
      logFormat w clock isVerbose = .ok format ∧ (∀ f ∈ files, f.1.IsClean) ∧
      entries = Delivery.entriesOf w files ∧ ofWords w clock words = .ofDelivery w.console format
        (Delivery.writeAll
          (Status.success w.console (sentence.text (PosixPath.ofString given).toString))
          files (.start w)) events := by
  obtain ⟨name, rest, hcommand, hread⟩ := h.exists_read
  obtain ⟨files, hparcel, rfl⟩ := CommandLine.parcel_of_announces h.output hannounces
  have hclean : ∀ f ∈ files, f.1.IsClean := CommandLine.isClean_parcel
    (fun path hpath => CommandRequest.isClean_output hread hpath) hparcel
  rw [ofWords_of_command hcommand] at hwritten ⊢
  cases hformat : logFormat w clock isVerbose with
  | error f =>
    -- a command that is refused writes nothing, and there is a file to write
    rw [ofCommand_of_noFormat hformat] at hwritten
    exact absurd hwritten.symm hannounces.entries_ne_nil
  | ok format =>
    obtain ⟨events, hrun⟩ := CommandLine.run_eq_deliver w format c
    refine ⟨format, events, files, rfl, hclean, rfl, ?_⟩
    rw [ofCommand_of_format hformat hread, hrun, hparcel]
    rfl

end CommandRun

namespace Sentence

variable {given : String}

theorem not_isControl_toString (h : ∀ c ∈ given.toList, ¬IsControl c) :
    ∀ c ∈ (PosixPath.ofString given).toString.toList, ¬IsControl c := by
  intro c hc
  rw [PosixPath.toString, String.toList_ofList] at hc
  rcases PosixPath.madeOf_toChars given.toList c hc with (rfl | rfl | rfl | rfl) | hc
  · decide
  · decide
  · decide
  · decide
  · exact h c hc

theorem countP_toString {p : Char → Bool} (hslash : p '/' = false) (hdot : p '.' = false)
    (given : String) :
    given.toList.countP p = (PosixPath.ofString given).toString.toList.countP p := by
  rw [PosixPath.toString, String.toList_ofList]
  exact (PosixPath.countP_toChars hslash hdot given.toList).symm

theorem success_text_iff {console : Console} (s : Sentence) (h : ∀ c ∈ given.toList, ¬IsControl c) :
    Status.success console (s.text (PosixPath.ofString given).toString) =
        .ok ("✓ " ++ s.text given ++ "\n") ↔
      (PosixPath.ofString given).toString = given ∧ Markup.IsLiteral (s.text given).toList ∧
        console.Keeps ("✓ " ++ s.text given).toList := by
  rw [Status.success_eq_ok_iff (s.not_isControl_text (not_isControl_toString h))
    (s.countP_text (countP_toString rfl rfl given)) (s.countP_text (countP_toString rfl rfl given)),
    s.text_inj]
  constructor
  · rintro ⟨hspelled, hshown⟩
    rw [← hspelled] at hshown
    exact ⟨hspelled.symm, hshown⟩
  · rintro ⟨hspelled, hshown⟩
    rw [hspelled]
    exact ⟨rfl, hshown⟩

end Sentence

namespace CommandLine

open CommandRun

def outputWords (given : String) : List String := "bundle" :: "-o" :: given :: fixedWords

def fixedTo (given : String) : CommandLine := { fixed with output := some (.ofString given) }

variable {given : String}

theorem asksForOutput_fixed (code : Text) (hnull : '\x00' ∉ given.toList)
    (h : (World.fixed code).entry given = .failure SystemError.missing) :
    AsksForOutput (.fixed code) (outputWords given) false (fixedTo given) given := by
  obtain ⟨a, ha, hread⟩ : ∃ a,
      Arguments.read (CommandRequest.forms .bundle) true fixedWords = .ok a ∧
        CommandRequest.ofArguments (.fixed code) .bundle a = .ok (.emit fixed) := ⟨_, rfl, rfl⟩
  have hfits := Arguments.fits_read ha
  have hnone : a.value? .output = none := by
    obtain ⟨-, -, r, -, hfixed⟩ := CommandRequest.ofArguments_eq_emit_iff.mp hread
    exact Option.map_eq_none_iff.mp (congrArg CommandLine.output hfixed).symm
  exact ⟨.bundle, "-o" :: given :: fixedWords, _, rfl, CommandRequest.arguments_withOutput ha,
    CommandRequest.value?_output (CommandRequest.ne_output_of_mem hfits hnone),
    CommandRequest.ofArguments_withOutput hfits hread rfl (check_of_missing .bundle hnull h)⟩

theorem succeedsWith_fixed [HostNames] {code : Text} {bs : Bytes}
    (hcode : Utf8.encode code = .ok bs)
    (hasks : AsksForOutput (.fixed code) (outputWords given) false (fixedTo given) given)
    (hparent : (World.fixed code).entry (PosixPath.ofString given).parent.toString = .directory)
    (hentry : (World.fixed code).entry (PosixPath.ofString given).toString =
      .failure SystemError.missing) :
    (ofWords (.fixed code) "now" (outputWords given)).written =
        bundleEntries (.fixed code) (.ofString given) ⟨code, none⟩ ∧
      ∃ format, logFormat (.fixed code) "now" false = .ok format ∧ ∀ text,
        SucceedsWith format text (ofWords (.fixed code) "now" (outputWords given)) ↔
          Status.success World.bare.console
            ("Bundled to " ++ (PosixPath.ofString given).toString) = .ok text := by
  have hemits : (fixedTo given).Emits (.fixed code) ⟨code, none⟩ := emits_fixed code
  obtain ⟨name, rest, hcommand, hread⟩ := hasks.exists_read
  have hpath := CommandRequest.isClean_output hread rfl
  obtain ⟨format, hformat⟩ := logFormat_fixed code false
  obtain ⟨events, hrun⟩ : ∃ events, ofWords (.fixed code) "now" (outputWords given) =
      .ofDelivery World.bare.console format
        (Delivery.writeAll (bundledLine World.bare.console (.ofString given) none)
          [(.ofString given, code)] (.start (.fixed code))) events := by
    obtain ⟨events, hrun⟩ := run_eq_deliver (.fixed code) format (fixedTo given)
    refine ⟨events, ?_⟩
    rw [ofWords_of_command hcommand, ofCommand_of_format hformat hread, hrun,
      parcel_of_emits rfl hemits rfl]
    rfl
  have hfiles : ∀ f ∈ [(PosixPath.ofString given, code)], f.1.IsClean :=
    List.forall_mem_singleton.mpr hpath
  have hwritten : (Delivery.writeAll (bundledLine World.bare.console (.ofString given) none)
      [(.ofString given, code)] (.start (.fixed code))).written =
        Delivery.entriesOf (.fixed code) [(.ofString given, code)] := by
    have hwrite := World.writeText_of_missing hpath hparent hentry rfl hcode
    rw [Delivery.writeAll_of_ok (d := .start (.fixed code)) rfl hwrite]
    exact Delivery.written_tell ..
  refine ⟨?_, format, hformat, fun text => ?_⟩
  · rw [hrun, written_ofDelivery, hwritten]
    rfl
  · rw [hrun]
    exact succeedsWith_iff text hfiles _ format events hwritten

end CommandLine

/-- Lines come through as they are written. A failure is told in its own words just if they name no
emoji and the console shows them up to their end. A command that has written its files tells of them
in its sentence just if the path is given as paths are spelled, the sentence has neither a tag, nor
a bracket with a backslash in front, nor the name of an emoji, and the console shows it up to its
end. -/
theorem status_verbatim_iff [HostNames] (w : World) (clock : String) :
    (∀ text : String, (∀ ch ∈ text.toList, ¬IsControl ch) →
      (Status.error w.console text = "✗ " ++ text ++ "\n" ↔ ¬Emoji.IsNamedIn text.toList ∧
        w.console.Keeps "✗ ".toList ∧ w.console.Keeps text.toList)) ∧
    ∀ (words : List String) (isVerbose : Bool) (c : CommandLine) (given : String)
      (sentence : Sentence) (entries : List (String × Contents)),
      CommandRun.AsksForOutput w words isVerbose c given → (∀ ch ∈ given.toList, ¬IsControl ch) →
      c.Announces w (.ofString given) sentence entries →
      (CommandRun.ofWords w clock words).written = entries →
      ((∃ format, CommandRun.logFormat w clock isVerbose = .ok format ∧
        CommandRun.SucceedsWith format ("✓ " ++ sentence.text given ++ "\n")
          (CommandRun.ofWords w clock words)) ↔
        (PosixPath.ofString given).toString = given ∧
          Markup.IsLiteral (sentence.text given).toList ∧
          w.console.Keeps ("✓ " ++ sentence.text given).toList) := by
  refine ⟨fun text htext => Status.error_eq_iff htext, ?_⟩
  intro words isVerbose c given sentence entries hasks hgiven hannounces hwritten
  obtain ⟨format, events, files, hformat, hclean, rfl, hrun⟩ :=
    hasks.exists_run hannounces hwritten
  rw [hrun, CommandRun.written_ofDelivery] at hwritten
  have hsucceeds := CommandRun.succeedsWith_iff ("✓ " ++ sentence.text given ++ "\n") hclean
    w.console format events hwritten
  rw [← sentence.success_text_iff hgiven, ← hsucceeds, hrun]
  constructor
  · rintro ⟨format', hformat', h⟩
    cases hformat.symm.trans hformat'
    exact h
  · intro h
    exact ⟨format, hformat, h⟩

theorem bracketed_path_verbatim :
    Status.error (World.fixed "x").console "src[/x]/a.js: not found" =
      "✗ src[/x]/a.js: not found\n" ∧
    ∃ format, CommandRun.logFormat (.fixed "x") "now" false = .ok format ∧
      CommandRun.SucceedsWith format "✓ Bundled to /work/[1] a:b.js\n"
        (CommandRun.ofWords (.fixed "x") "now" (CommandLine.outputWords "/work/[1] a:b.js")) := by
  have hasks : CommandRun.AsksForOutput (.fixed "x") (CommandLine.outputWords "/work/[1] a:b.js")
      false (CommandLine.fixedTo "/work/[1] a:b.js") "/work/[1] a:b.js" :=
    CommandLine.asksForOutput_fixed "x" (by decide) (by decide)
  obtain ⟨hwritten, -⟩ := CommandLine.succeedsWith_fixed (Text.encode_ofString "x") hasks
    (by decide) (by decide)
  have hannounces : (CommandLine.fixedTo "/work/[1] a:b.js").Announces (.fixed "x")
      (.ofString "/work/[1] a:b.js") .bundled _ :=
    .bundled rfl (CommandLine.emits_fixed "x") rfl
  have hliteral : Markup.IsLiteral (Sentence.bundled.text "/work/[1] a:b.js").toList :=
    (Markup.render_eq_self_iff World.bare.console).mp rfl
  obtain ⟨herror, hsuccess⟩ := status_verbatim_iff (.fixed "x") "now"
  refine ⟨(herror "src[/x]/a.js: not found" (forall_mem_of_all rfl)).mpr ?_, ?_⟩
  · exact ⟨Emoji.replace_eq_self_iff.mp rfl, nofun, nofun⟩
  · exact (hsuccess _ _ _ _ _ _ hasks (forall_mem_of_all rfl) hannounces hwritten).mpr
      ⟨by decide, hliteral, nofun⟩

theorem success_taggedPath : Status.success World.bare.console
    ("Bundled to " ++ (PosixPath.ofString "/work/out[b].js").toString) =
      .ok "✓ Bundled to /work/out.js\n" := by
  have hscan : Markup.scan 16 [] none
      (' ' :: ("Bundled to " ++ (PosixPath.ofString "/work/out[b].js").toString).toList) =
        [.text " Bundled to /work/out".toList, .tag 37 ['b'] none, .text ".js".toList] := by decide
  obtain ⟨t, ht, hchars, hstyles⟩ : ∃ t, Markup.plain World.bare.console []
      ⟨['✓'], [⟨0, 1, "green".toList⟩]⟩
      [.text " Bundled to /work/out".toList, .tag 37 ['b'] none, .text ".js".toList] = .ok t ∧
        t.chars = "✓ Bundled to /work/out.js".toList ∧
        t.AllStyles fun style => ∃ s?, Style.read? style = .ok s? := by
    refine ⟨Markup.finished [⟨22, "bold".toList, none⟩] ⟨"✓ Bundled to /work/out.js".toList,
      [⟨0, 1, "green".toList⟩]⟩, rfl, rfl, Markup.allStyles_finished ?_ ?_⟩
    · exact List.forall_mem_singleton.mpr Markup.isStyleName_green.read
    · exact List.forall_mem_singleton.mpr ⟨_, rfl⟩
  have hshown : World.bare.console.shown t = t.chars := by
    have hkept : World.bare.console.excess t.chars = 0 := Console.excess_eq_zero_iff.mpr nofun
    have hplain : ∀ c ∈ t.chars, ¬IsControl c := hchars ▸ forall_mem_of_all rfl
    rw [Status.shown_of_not_isControl _ hplain, hkept, Nat.sub_zero, List.take_length]
  rw [Status.success_eq, hscan, ht]
  simp only [bind, Except.bind, Console.print, Console.checkStyles_of_readable hstyles, hshown,
    hchars]
  rfl

theorem tagged_path_not_verbatim :
    CommandRun.AsksForOutput (.fixed "x") (CommandLine.outputWords "/work/out[b].js") false
      (CommandLine.fixedTo "/work/out[b].js") "/work/out[b].js" ∧
    (CommandRun.ofWords (.fixed "x") "now" (CommandLine.outputWords "/work/out[b].js")).written =
      [("/work/out[b].js", .whole (.ofString "x"))] ∧
    ∃ format, CommandRun.logFormat (.fixed "x") "now" false = .ok format ∧
      CommandRun.SucceedsWith format "✓ Bundled to /work/out.js\n"
        (CommandRun.ofWords (.fixed "x") "now" (CommandLine.outputWords "/work/out[b].js")) ∧
      ¬CommandRun.SucceedsWith format ("✓ " ++ Sentence.bundled.text "/work/out[b].js" ++ "\n")
        (CommandRun.ofWords (.fixed "x") "now" (CommandLine.outputWords "/work/out[b].js")) := by
  have hasks : CommandRun.AsksForOutput (.fixed "x") (CommandLine.outputWords "/work/out[b].js")
      false (CommandLine.fixedTo "/work/out[b].js") "/work/out[b].js" :=
    CommandLine.asksForOutput_fixed "x" (by decide) (by decide)
  obtain ⟨hwritten, format, hformat, hsucceeds⟩ := CommandLine.succeedsWith_fixed
    (Text.encode_ofString "x") hasks (by decide) (by decide)
  have hentries : CommandLine.bundleEntries (.fixed "x") (.ofString "/work/out[b].js") ⟨"x", none⟩ =
      [("/work/out[b].js", .whole (.ofString "x"))] := by decide
  refine ⟨hasks, hwritten.trans hentries, format, hformat, (hsucceeds _).mpr success_taggedPath,
    fun h => ?_⟩
  have hsame := Except.ok.inj (success_taggedPath.symm.trans ((hsucceeds _).mp h))
  exact absurd hsame (by decide)

end EmitBridge
