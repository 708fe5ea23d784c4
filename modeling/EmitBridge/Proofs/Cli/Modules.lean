import EmitBridge.Proofs.Cli.Channels
import EmitBridge.Proofs.Json.Lines

/-! Transpiled modules as a command hands them over: one JSON text, printed or written, from which
the modules are read back. -/

namespace EmitBridge

open HostNames.AsciiOnly

open Run

namespace Value

def ofTexts (ms : Entries Text) : Value := .dict (ms.map fun m => (m.1, .str m.2))

theorem pairs_ofTexts (ms : Entries Text) :
    pairs (ofTexts ms) = .ok (ms.map fun m => (str m.1, str m.2)) := by
  rw [ofTexts, pairs, List.map_map]
  rfl

theorem pairsToJson_ofTexts (room : Nat) (ms : Entries Text) :
    pairsToJson room (ms.map fun m => (str m.1, str m.2)) = .ok (.ofTexts ms) := by
  have hmembers : (ms.map fun m => (str m.1, str m.2)).mapM (m := Except Fault) (fun p => do
      let name ← memberName p.1
      return (name, ← p.2.toJson room)) = .ok (ms.map fun m => (m.1, Json.str m.2)) := by
    rw [List.mapM_map]
    exact List.mapM_pure
  rw [pairsToJson, hmembers]
  rfl

end Value

namespace CommandLine

variable {w : World} {c : CommandLine} {raw : Value} {ms : Entries Text}

def Returns [HostNames] (w : World) (c : CommandLine) (raw : Value) : Prop :=
  ∃ es engine call, (c.flags.options w).outcome = .ok es ∧ (c.namedEngine w).outcome = .ok engine ∧
    EmitCall.ofTranspile engine (.string c.root) (callOptions c.shape es) = .ok call ∧
    (call.invoke w).outcome = .ok raw

theorem outcome_call_of_returns [HostNames] (h : c.Returns w raw) : (c.call w transpile).outcome =
    raw.pairs.mapError fun e => .command (CommandError.ofFailure e) := by
  obtain ⟨es, engine, call, hes, hengine, hcall, hraw⟩ := h
  obtain ⟨o, -, hroot⟩ := EmitCall.exists_of_ofTranspile hcall
  have hrun : (call.run w Value.pairs).outcome = raw.pairs := by
    have htext : call.root = .string c.root := hroot ▸ rfl
    rw [EmitCall.outcome_run_of_text htext, hraw]
    rfl
  rw [outcome_call hes, hengine, ← hrun]
  show ((transpile w engine (.string c.root) (callOptions c.shape es)).outcome).mapError _ = _
  rw [transpile_eq, hcall, ofExcept_ok_bind]

theorem modulesText_ofTexts (w : World) (ms : Entries Text) :
    modulesText w (ms.map fun m => (Value.str m.1, Value.str m.2)) =
      .ok (Text.ofChars ((Json.ofTexts ms).renderLines 0)) := by
  rw [modulesText, Value.pairsToJson_ofTexts]
  rfl

theorem run_of_noShape [HostNames] {format : LogFormat} (h : c.shape = none) : c.run w format =
    .ofDelivery w.console format (deliver w (deliverModules c.output) (c.call w transpile).outcome)
      (c.call w transpile []).2 := by
  rw [run, h]
  rfl

end CommandLine

theorem Text.ofChars_append (cs ds : List Char) : ofChars (cs ++ ds) = ofChars cs ++ ofChars ds :=
  congrArg Text.mk List.map_append

theorem Delivery.print_ofChars {cs : List Char} (h : Escape.strip cs = cs) (d : Delivery) :
    d.print (Text.ofChars cs) = { d with stdout := d.stdout ++ String.ofList cs } := by
  rw [print_of_encode (Text.encode_ofChars cs), Text.shown, Text.toString_ofChars,
    String.toList_ofList, h]

namespace CommandLine

open Delivery

variable {w : World} {ps : Value.Pairs}

theorem deliverModules_none {t : Text} {d : Delivery} (h : modulesText d.world ps = .ok t) :
    deliverModules none ps d = d.print (t ++ Text.ofString "\n") := by
  unfold deliverModules
  rw [h]

theorem deliverModules_some {t : Text} {d : Delivery} (h : modulesText d.world ps = .ok t)
    (path : PosixPath) :
    ∃ line, deliverModules (some path) ps d = (d.write path t).andThen (.tell line) := by
  unfold deliverModules
  rw [h]
  exact ⟨_, rfl⟩

theorem leaves_deliverModules (output : Option PosixPath) (ps : Value.Pairs) (w : World) :
    (deliverModules output ps (.start w)).Leaves := by
  cases h : modulesText (start w).world ps with
  | error f =>
    unfold deliverModules
    rw [h]
    exact leaves_fail (e := .fault f) trivial _
  | ok t =>
    cases output with
    | none =>
      rw [deliverModules_none h]
      exact leaves_print _ (leaves_start w)
    | some path =>
      have hwritten : ((start w).write path t).Leaves := leaves_write path t (leaves_start w)
      obtain ⟨line, hline⟩ := deliverModules_some (d := start w) h path
      rw [hline]
      exact leaves_andThen hwritten (leaves_tell line hwritten)

theorem strip_modules (ms : Entries Text) :
    Escape.strip ((Json.ofTexts ms).renderLines 0) = (Json.ofTexts ms).renderLines 0 ∧
      Escape.strip ((Json.ofTexts ms).renderLines 0 ++ ['\n']) =
        (Json.ofTexts ms).renderLines 0 ++ ['\n'] := by
  have hshown := Json.isShown_renderLines_ofTexts ms
  have hline : ∀ c ∈ (Json.ofTexts ms).renderLines 0 ++ ['\n'], Json.IsShown c :=
    List.forall_mem_append.2 ⟨hshown, forall_mem_of_all rfl⟩
  exact ⟨Escape.strip_of_no_escape (Json.escape_notMem_of_isShown hshown),
    Escape.strip_of_no_escape (Json.escape_notMem_of_isShown hline)⟩

theorem deliverModules_ofTexts (ms : Entries Text) (w : World) :
    deliverModules none (ms.map fun m => (.str m.1, .str m.2)) (.start w) =
      { Delivery.start w with
        stdout := String.ofList ((Json.ofTexts ms).renderLines 0 ++ ['\n']) } := by
  have hbreak : Text.ofString "\n" = Text.ofChars ['\n'] := rfl
  rw [deliverModules_none (modulesText_ofTexts _ ms), hbreak, ← Text.ofChars_append,
    print_ofChars (strip_modules ms).2]
  rw [start, String.empty_append]

theorem written_deliverModules {path : PosixPath} {t : Text} (h : modulesText w ps = .ok t)
    (hok : (deliverModules (some path) ps (.start w)).ending = .ok ()) :
    (deliverModules (some path) ps (.start w)).stdout = "" ∧
      (deliverModules (some path) ps (.start w)).written =
        [(w.absolutePath path.toString, .whole t)] := by
  obtain ⟨line, hline⟩ := deliverModules_some (d := start w) h path
  rw [hline] at hok ⊢
  obtain ⟨hfile, hstep⟩ := ending_andThen_eq_ok hok
  rw [hstep, stdout_tell, written_tell, stdout_write, (written_write hfile).1]
  exact ⟨rfl, rfl⟩

end CommandLine

namespace CommandRequest

theorem shape_of_read_transpile {w : World} {words : List String} {c : CommandLine}
    (h : read w .transpile words = .ok (.emit c)) : c.shape = none := by
  obtain ⟨a, r, -, rfl⟩ := exists_arguments_of_read h
  rfl

end CommandRequest

namespace CommandRun

variable {w : World} {clock : String} {words rest : List String} {isVerbose : Bool}
  {c : CommandLine} {ms : Entries Text}

theorem delivered_of_returns [HostNames]
    (hcommand : CliRequest.read words = .ok (.command .transpile isVerbose rest))
    (hread : CommandRequest.read w .transpile rest = .ok (.emit c))
    (hreturns : c.Returns w (.ofTexts ms)) (hsuccess : (ofWords w clock words).ending = .exit 0) :
    ∃ d, d = CommandLine.deliverModules c.output (ms.map fun m => (.str m.1, .str m.2)) (.start w) ∧
      d.ending = .ok () ∧ (ofWords w clock words).stdout = d.stdout ∧
      (ofWords w clock words).written = d.written := by
  have houtcome := CommandLine.outcome_call_of_returns hreturns
  rw [Value.pairs_ofTexts] at houtcome
  refine ⟨_, rfl, ?_⟩
  obtain ⟨format, hrun⟩ := exists_run_of_success hcommand hread hsuccess
  have hshape := CommandRequest.shape_of_read_transpile hread
  rw [hrun, CommandLine.run_of_noShape hshape, houtcome] at hsuccess ⊢
  rw [stdout_ofDelivery, written_ofDelivery]
  exact ⟨ending_of_ofDelivery (CommandLine.leaves_deliverModules _ _ w) hsuccess, rfl, rfl⟩

/-- The text that modules have does not depend on the command. It is read back as the modules, in
their order, wherever JSON is read at all, and no escape sequence is found in it; a command prints
it with a line break behind it, or writes it as it is. Texts without surrogates are joined. -/
theorem transpiled_modules_read_back [HostNames] (ms : Entries Text)
    (hnames : (ms.map Prod.fst).Nodup)
    (hjoined : ∀ m ∈ ms, Json.IsJoined m.1.points ∧ Json.IsJoined m.2.points) :
    ∃ text : String,
      (∀ room, Json.parse (room + 1) text.toList = .ok (.ofTexts ms) ∧
        Json.parse (room + 1) (text ++ "\n").toList = .ok (.ofTexts ms)) ∧
      Escape.strip text.toList = text.toList ∧
      Escape.strip (text ++ "\n").toList = (text ++ "\n").toList ∧
      ∀ w clock words isVerbose rest c,
        CliRequest.read words = .ok (.command .transpile isVerbose rest) →
        CommandRequest.read w .transpile rest = .ok (.emit c) → c.Returns w (.ofTexts ms) →
        (ofWords w clock words).ending = .exit 0 →
        (c.output = none → (ofWords w clock words).stdout = text ++ "\n" ∧
          (ofWords w clock words).written = []) ∧
        ∀ path, c.output = some path → (ofWords w clock words).stdout = "" ∧
          (ofWords w clock words).written =
            [(w.absolutePath path.toString, .whole (.ofString text))] := by
  have hblank : Json.AreBlanks ['\n'] := forall_mem_of_all rfl
  have hread (room : Nat) := Json.parse_renderLines_ofTexts hnames hjoined Json.areBlanks_nil room
  simp only [List.append_nil] at hread
  obtain ⟨hstrip, hplain⟩ := CommandLine.strip_modules ms
  refine ⟨String.ofList ((Json.ofTexts ms).renderLines 0), ?_⟩
  rw [String.toList_append, String.toList_ofList]
  refine ⟨fun room => ⟨hread room, Json.parse_renderLines_ofTexts hnames hjoined hblank room⟩,
    hstrip, hplain, ?_⟩
  -- a command that succeeds hands over just this text
  intro w clock words isVerbose rest c hcommand hasked hreturns hsuccess
  obtain ⟨d, hd, hending, hstdout, hwritten⟩ :=
    delivered_of_returns hcommand hasked hreturns hsuccess
  rw [hstdout, hwritten]
  constructor
  · intro houtput
    rw [houtput, CommandLine.deliverModules_ofTexts] at hd
    rw [hd, String.ofList_append]
    exact ⟨rfl, rfl⟩
  · intro path houtput
    rw [houtput] at hd
    rw [hd] at hending ⊢
    have htext := CommandLine.modulesText_ofTexts w ms
    obtain ⟨hnone, hfile⟩ := CommandLine.written_deliverModules htext hending
    rw [hnone, hfile, Text.ofString, String.toList_ofList]
    exact ⟨rfl, rfl⟩

end CommandRun

namespace CommandLine

open CommandRun

variable (code : Text)

def fixedModules : Entries Text := [(.ofString "code", code)]

theorem returns_fixed [HostNames] (output : Option PosixPath) :
    { fixed with shape := none, output := output }.Returns (.fixed code)
      (.ofTexts (fixedModules code)) := by
  obtain ⟨p⟩ := resolution_fixed code none
  have hvalid : ({ fixedCall code with shape := none }.validate (.fixed code)).outcome =
      .ok (.fixed code) := rfl
  obtain ⟨hinvoke, -⟩ := Prod.mk.inj (EmitCall.report_invoke_of_valid hvalid)
  obtain ⟨hresume, -⟩ := Prod.mk.inj (EmitCall.report_resume_of_resolution p (.fixed code))
  refine ⟨[], some (.fixed code), { fixedCall code with shape := none }, rfl, rfl, rfl, ?_⟩
  rw [hinvoke, hresume]
  rfl

theorem ending_of_returns_fixed [HostNames] {words rest : List String} {c : CommandLine}
    (hcommand : CliRequest.read words = .ok (.command .transpile false rest))
    (hread : CommandRequest.read (.fixed code) .transpile rest = .ok (.emit c))
    (hreturns : c.Returns (.fixed code) (.ofTexts (fixedModules code)))
    (h : (deliverModules c.output ((fixedModules code).map fun m => (.str m.1, .str m.2))
      (.start (.fixed code))).ending = .ok ()) :
    (ofWords (.fixed code) "now" words).ending = .exit 0 := by
  have houtcome := outcome_call_of_returns hreturns
  rw [Value.pairs_ofTexts] at houtcome
  obtain ⟨format, hformat⟩ := logFormat_fixed code false
  rw [ofWords_of_command hcommand, ofCommand_of_format hformat hread,
    run_of_noShape (CommandRequest.shape_of_read_transpile hread), houtcome]
  exact ending_ofDelivery h

theorem ending_printed_fixedModules :
    (deliverModules none ((fixedModules code).map fun m => (.str m.1, .str m.2))
      (.start (.fixed code))).ending = .ok () := by
  rw [deliverModules_ofTexts]
  rfl

theorem ending_written_fixedModules :
    (deliverModules (some outFile) ((fixedModules code).map fun m => (.str m.1, .str m.2))
      (.start (.fixed code))).ending = .ok () := by
  have htext := modulesText_ofTexts (.fixed code) (fixedModules code)
  have hmessage : '[' ∉ ("Transpiled " ++ toString 1 ++ " module(s) to " ++
      outFile.toString).toList := by decide
  unfold deliverModules
  simp only [Delivery.start, htext]
  exact ending_written_fixed code (Text.encode_ofChars _) hmessage

end CommandLine

namespace CommandRun

def coloredCode : Text := "\x1b[31m\"😀\r\n"

theorem colored_module_read_back :
    ∃ text : String,
      (∀ room, Json.parse (room + 1) text.toList =
        .ok (.obj [(.ofString "code", .str coloredCode)])) ∧
      (ofWords (.fixed coloredCode) "now"
        ("transpile" :: CommandLine.fixedWords)).stdout = text ++ "\n" ∧
      (ofWords (.fixed coloredCode) "now"
        ("transpile" :: "-o" :: "/work/out.js" :: CommandLine.fixedWords)).written =
        [("/work/out.js", .whole (.ofString text))] := by
  have hjoined : ∀ m ∈ CommandLine.fixedModules coloredCode,
      Json.IsJoined m.1.points ∧ Json.IsJoined m.2.points := by decide
  obtain ⟨text, hread, -, -, htext⟩ := transpiled_modules_read_back
    (CommandLine.fixedModules coloredCode) (by decide) hjoined
  refine ⟨text, fun room => (hread room).1, ?_, ?_⟩
  · have hcommand : CliRequest.read ("transpile" :: CommandLine.fixedWords) =
        .ok (.command .transpile false CommandLine.fixedWords) :=
      Location.ok_of_toOption (by decide)
    have hreturns := CommandLine.returns_fixed coloredCode none
    have hsuccess := CommandLine.ending_of_returns_fixed _ hcommand rfl hreturns
      (CommandLine.ending_printed_fixedModules _)
    obtain ⟨hprinted, -⟩ := htext _ "now" _ _ _ _ hcommand rfl hreturns hsuccess
    exact (hprinted rfl).1
  · have hcommand : CliRequest.read ("transpile" :: "-o" :: "/work/out.js" ::
        CommandLine.fixedWords) =
        .ok (.command .transpile false ("-o" :: "/work/out.js" :: CommandLine.fixedWords)) :=
      Location.ok_of_toOption (by decide)
    have hplain : CommandRequest.read (.fixed coloredCode) .transpile CommandLine.fixedWords =
        .ok (.emit { CommandLine.fixed with shape := none }) := rfl
    have hasked := CommandRequest.read_withOutput hplain rfl
      (CommandLine.check_outFile coloredCode .transpile)
    have hreturns := CommandLine.returns_fixed coloredCode (some CommandLine.outFile)
    have hsuccess := CommandLine.ending_of_returns_fixed _ hcommand hasked hreturns
      (CommandLine.ending_written_fixedModules _)
    obtain ⟨-, hwritten⟩ := htext _ "now" _ _ _ _ hcommand hasked hreturns hsuccess
    have habsolute : World.bare.absolutePath CommandLine.outFile.toString = "/work/out.js" := by
      decide
    exact (hwritten CommandLine.outFile rfl).2.trans (congrArg (fun name => [(name, _)]) habsolute)

end CommandRun

end EmitBridge
