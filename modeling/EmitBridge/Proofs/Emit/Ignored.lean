import EmitBridge.Proofs.Emit.Failures
import EmitBridge.Proofs.Emit.SourceMaps
import EmitBridge.Proofs.Location.Rooted
import EmitBridge.Proofs.Run.Differ

/-! Import maps that are passed over. A call that is given inline sections does the same whatever
other import map it is given beside them; only the warning tells. -/

namespace EmitBridge

open HostNames.AsciiOnly

open Run Event

def ImportMapSource.IsShown (x : Option ImportMapSource) : Prop :=
  ∃ s, (Value.ofOption Value.ofImportMapSource x).asText = .ok s

def ImportMapSource.IsWarning (x : Option ImportMapSource) (es : List Event) : Prop :=
  match x with
  | none => es = []
  | some source => ∃ text bound, (Value.ofImportMapSource source).asText = .ok text ∧
      es = [.logged .warning "import_map_ignored"
        ([logField "reason" (.string "inline imports/scopes take precedence"),
          logField "import_map" (.string text)] ++ bound)]

open ImportMapSource

namespace ImportMap

variable {source : ImportMapSource}

theorem select_of_shown {text : String} (h : (Value.ofImportMapSource source).asText = .ok text)
    (m : ImportMap) : select (Value.ofImportMapSource source) (some m) = (do
      Run.log .warning "import_map_ignored"
        [logField "reason" (.string "inline imports/scopes take precedence"),
          logField "import_map" (.string text)]
      return .importMap m) := by
  cases source <;> (rw [Value.ofImportMapSource] at *; simp only [select, h]; rfl)

theorem select_of_unshown {f : UrlError} (h : (Value.ofImportMapSource source).asText = .error f)
    (m : ImportMap) : select (Value.ofImportMapSource source) (some m) =
      Run.fail (Location.urlFailure f) := by
  cases source <;> (rw [Value.ofImportMapSource] at *; simp only [select, h]; rfl)

end ImportMap

namespace EmitCall

variable {α : Type} {w : World} {c : EmitCall} {x y : Option ImportMapSource}
  {shape : Value → Except Failure α}

def withImportMap (c : EmitCall) (x : Option ImportMapSource) : EmitCall :=
  { c with options := { c.options with importMap := x } }

structure Chooses [HostNames] (w : World) (c : EmitCall) : Prop where
  root : ∃ s, c.root.asText = .ok s
  valid : ∃ e, (c.validate w).outcome = .ok e
  url : ∃ u, Location.toUrl w.cwd none c.root = .ok u
  bridge : ∃ b, c.options.bridge w = .ok b

def inlineMap (c : EmitCall) : Value := .importMap ⟨none, c.options.imports, c.options.scopes⟩

theorem inline?_of_hasInlineImports (h : c.options.hasInlineImports) :
    ImportMap.inline? c.options.imports c.options.scopes =
      some ⟨none, c.options.imports, c.options.scopes⟩ := by
  unfold EmitOptions.hasInlineImports at h
  unfold ImportMap.inline?
  cases hi : c.options.imports <;> cases hs : c.options.scopes <;> rw [hi, hs] at h <;>
    first | rfl | cases h

theorem importMapSource_withImportMap (h : c.options.hasInlineImports)
    (x : Option ImportMapSource) : importMapSource (c.withImportMap x).options =
      ImportMap.select (Value.ofOption Value.ofImportMapSource x)
        (some ⟨none, c.options.imports, c.options.scopes⟩) := by
  rw [← inline?_of_hasInlineImports h]
  rfl

theorem importMapSource_of_shown (h : c.options.hasInlineImports) (hx : IsShown x)
    (context : Entries Value) : ∃ es, IsWarning x es ∧
      importMapSource (c.withImportMap x).options context = (.ok c.inlineMap, es) := by
  rw [importMapSource_withImportMap h]
  cases x with
  | none => exact ⟨[], rfl, rfl⟩
  | some source =>
    obtain ⟨text, htext⟩ := hx
    have hselect := ImportMap.select_of_shown htext ⟨none, c.options.imports, c.options.scopes⟩
    rw [Value.ofOption, hselect]
    exact ⟨_, ⟨text, _, htext, rfl⟩, rfl⟩

theorem importMapSource_of_unshown (h : c.options.hasInlineImports) (hx : ¬IsShown x) (v : Value) :
    (importMapSource (c.withImportMap x).options).outcome ≠ .ok v := by
  rw [importMapSource_withImportMap h]
  cases x with
  | none => exact absurd ⟨_, rfl⟩ hx
  | some source =>
    cases htext : (Value.ofImportMapSource source).asText with
    | ok text => exact absurd ⟨text, htext⟩ hx
    | error f =>
      rw [Value.ofOption, ImportMap.select_of_unshown htext]
      intro hok
      cases hok

theorem operation_withImportMap (h : c.options.hasInlineImports) (x : Option ImportMapSource)
    (root : String) : (c.withImportMap x).operation root =
      ⟨c.operationName, some root, c.shape.map fun s => s.type.text, some true⟩ := by
  have hmap : (c.withImportMap x).options.hasImportMap = true := by
    rw [EmitOptions.hasImportMap, Bool.or_eq_true]
    exact .inr h
  rw [operation, hmap]
  rfl

theorem steady_validating : (EmitStage.validating.run (c.validate w)).Steady :=
  (EmitStage.validating.only_run (fun _ _ => trivial)
    (only_validate fun _ => trivial) : Only (fun _ => True) _).1

section

variable (hi : c.options.hasInlineImports) (hx : IsShown x) (hy : IsShown y)
  (context : Entries Value)

include hi hx hy

theorem differ_importMapSource : Differ (IsWarning x) (IsWarning y)
    (importMapSource (c.withImportMap x).options context)
    (importMapSource (c.withImportMap y).options context) := by
  obtain ⟨es, hes, hxs⟩ := importMapSource_of_shown hi hx context
  obtain ⟨fs, hfs, hys⟩ := importMapSource_of_shown hi hy context
  rw [hxs, hys]
  exact ⟨rfl, [], es, fs, [], hes, hfs, (List.append_nil es).symm, (List.append_nil fs).symm⟩

theorem differ_resolve [HostNames] (hc : c.Chooses w) : Differ (IsWarning x) (IsWarning y)
    ((c.withImportMap x).resolve w context) ((c.withImportMap y).resolve w context) := by
  obtain ⟨url, hurl⟩ := hc.url
  obtain ⟨bridge, hbridge⟩ := hc.bridge
  rw [resolve_eq, resolve_eq]
  apply Differ.after ((ofExcept_apply ..).trans hurl)
  apply Differ.after ((ofExcept_apply ..).trans hbridge)
  exact (differ_importMapSource hi hx hy context).bind _

theorem differ_invoke [HostNames] (hc : c.Chooses w) : Differ (IsWarning x) (IsWarning y)
    ((c.withImportMap x).invoke w context) ((c.withImportMap y).invoke w context) := by
  obtain ⟨e, he⟩ := hc.valid
  have hvalid : (EmitStage.validating.run (c.validate w) context).1 = .ok e := by
    rw [(steady_validating context).1, EmitStage.outcome_run, he]
    rfl
  rw [invoke_eq, invoke_eq]
  apply Differ.after hvalid
  have hstage : Differ (IsWarning x) (IsWarning y)
      (EmitStage.resolving.run ((c.withImportMap x).resolve w) context)
      (EmitStage.resolving.run ((c.withImportMap y).resolve w) context) :=
    Differ.after rfl ((differ_resolve hi hx hy context hc).mapFailure _)
  exact hstage.bind ((c.withImportMap x).start w e)

theorem differ_run [HostNames] (hc : c.Chooses w) : Differ (IsWarning x) (IsWarning y)
    ((c.withImportMap x).run w shape context) ((c.withImportMap y).run w shape context) := by
  obtain ⟨root, hroot⟩ := hc.root
  have hshown : c.root.asText.mapError Location.urlFailure = .ok root := by
    rw [hroot]
    rfl
  rw [run_eq, run_eq]
  apply Differ.after ((ofExcept_apply ..).trans hshown)
  rw [operation_withImportMap hi x, operation_withImportMap hi y]
  apply Differ.operation
  exact (differ_invoke hi hx hy _ hc).bind _

end

theorem run_of_unchosen [HostNames] (hi : c.options.hasInlineImports) (hc : ¬c.Chooses w) :
    (c.withImportMap x).run w shape = (c.withImportMap y).run w shape := by
  rw [run_eq, run_eq]
  apply bind_congr_of_outcome (steady_ofExcept _)
  intro root hroot
  rw [outcome_ofExcept] at hroot
  rw [operation_withImportMap hi x, operation_withImportMap hi y]
  have hinvoke : (c.withImportMap x).invoke w = (c.withImportMap y).invoke w := by
    rw [invoke_eq, invoke_eq]
    apply bind_congr_of_outcome steady_validating
    intro e he
    rw [EmitStage.outcome_run] at he
    have hresolve : (c.withImportMap x).resolve w = (c.withImportMap y).resolve w := by
      rw [resolve_eq, resolve_eq]
      apply bind_congr_of_outcome (steady_ofExcept _)
      intro url hurl
      apply bind_congr_of_outcome (steady_ofExcept _)
      intro bridge hbridge
      rw [outcome_ofExcept] at hurl hbridge
      -- every part has come to something, and so the call would get as far as choosing
      exact (hc ⟨⟨root, mapError_eq_ok_iff.mp hroot⟩, ⟨e, mapError_eq_ok_iff.mp he⟩,
        ⟨url, hurl⟩, ⟨bridge, hbridge⟩⟩).elim
    rw [resume, resume, hresolve]
    rfl
  rw [body, body, hinvoke]

end EmitCall

/-- Two runs of a call that is given inline sections, beside one import map and beside another. -/
structure ImportMapHidden [HostNames] {α : Type} (w : World) (c : EmitCall)
    (x y : Option ImportMapSource)
    (r s : Run α) : Prop where
  unchosen : ¬c.Chooses w → r = s
  chosen : c.Chooses w → ∀ context, Differ (IsWarning x) (IsWarning y) (r context) (s context)
  source : (EmitCall.importMapSource (c.withImportMap x).options).outcome = .ok c.inlineMap

def ImportMapSource.Indistinct [HostNames] (x y : Option ImportMapSource) : Prop :=
  ∀ (w : World) (engine : Option Engine) (root options options' : Value) (c : EmitCall),
    c.options.hasInlineImports →
    (EmitCall.ofBundle engine root options = .ok (c.withImportMap x) →
      EmitCall.ofBundle engine root options' = .ok (c.withImportMap y) →
        ImportMapHidden w c x y (bundle w engine root options) (bundle w engine root options')) ∧
    (EmitCall.ofTranspile engine root options = .ok (c.withImportMap x) →
      EmitCall.ofTranspile engine root options' = .ok (c.withImportMap y) →
        ImportMapHidden w c x y (transpile w engine root options)
          (transpile w engine root options'))

namespace ImportMapHidden

variable {α : Type} {w : World} {c : EmitCall} {x y : Option ImportMapSource}
  {shape : Value → Except Failure α}

theorem of_shown [HostNames] (hi : c.options.hasInlineImports) (hx : IsShown x) (hy : IsShown y) :
    ImportMapHidden w c x y ((c.withImportMap x).run w shape)
      ((c.withImportMap y).run w shape) where
  unchosen hc := EmitCall.run_of_unchosen hi hc
  chosen hc context := EmitCall.differ_run hi hx hy context hc
  source := by
    obtain ⟨es, -, hes⟩ := EmitCall.importMapSource_of_shown hi hx []
    rw [outcome, hes]

end ImportMapHidden

namespace ImportMapSource

variable {x y : Option ImportMapSource}

theorem indistinct_of_shown [HostNames] (hx : IsShown x) (hy : IsShown y) : Indistinct x y := by
  intro w engine root options options' c hi
  constructor
  · intro hc hd
    rw [bundle_eq, bundle_eq, hc, hd, ofExcept_ok_bind, ofExcept_ok_bind]
    exact ImportMapHidden.of_shown hi hx hy
  · intro hc hd
    rw [transpile_eq, transpile_eq, hc, hd, ofExcept_ok_bind, ofExcept_ok_bind]
    exact ImportMapHidden.of_shown hi hx hy

end ImportMapSource

def EmitOptions.inlined (x : Option ImportMapSource) : EmitOptions Value :=
  ⟨x, some [], none, none, some .barrenLoader, none, none, none⟩

def EmitCall.inlined : EmitCall := ⟨.workRoot, .inlined none, none, some .idle⟩

abbrev transpileInlined [HostNames] (x : Option ImportMapSource) : Except Failure Value.Pairs :=
  (transpile .bare (some .idle) .workRoot (.transpileOptions (.inlined x))).outcome

theorem ofTranspile_inlined (x : Option ImportMapSource) :
    EmitCall.ofTranspile (some .idle) .workRoot (.transpileOptions (.inlined x)) =
      .ok (EmitCall.inlined.withImportMap x) := rfl

theorem transpileInlined_of_unshown [HostNames] {x : Option ImportMapSource} (hx : ¬IsShown x)
    (ps : Value.Pairs) : transpileInlined x ≠ .ok ps := by
  rw [transpileInlined, transpile_eq, ofTranspile_inlined, ofExcept_ok_bind]
  refine (StageOrder.trace_of_unresolved ⟨fun p => ?_⟩).2.2 ps
  exact EmitCall.importMapSource_of_unshown rfl hx _ p.source_eq

theorem ofInline_bare [HostNames] : ∃ s,
    SerializedImportMap.ofInline World.bare.cwd ⟨none, some [], none⟩ = .ok s := by
  have hbase : Location.toUrl World.bare.cwd none (.string ".") =
      .ok (PosixPath.fileUrl World.bare.cwd.toChars) := by
    rw [Location.toUrl_string, Location.textToUrl_eq, Location.schemedUrl?_of_notMem (by decide)]
    rfl
  have hmake : (SerializedImportMap.make (PosixPath.fileUrl World.bare.cwd.toChars).directory
      (some []) none).toOption.isSome := by
    decide +kernel
  obtain ⟨s, hs⟩ := Option.isSome_iff_exists.mp hmake
  refine ⟨s, ?_⟩
  rw [SerializedImportMap.ofInline]
  simp only [hbase]
  exact Location.ok_of_toOption hs

theorem resolution_inlined [HostNames] : Nonempty (EmitCall.inlined.Resolution .bare) := by
  obtain ⟨s, hs⟩ := ofInline_bare
  refine ⟨_, _, _, EmitCall.inlined.inlineMap, some s, ⟨_, rfl⟩, rfl, rfl, rfl, rfl, ?_⟩
  show (Run.ofExcept (some <$> SerializedImportMap.ofInline World.bare.cwd _)).outcome = _
  rw [outcome_ofExcept]
  exact congrArg (some <$> ·) hs

theorem transpileInlined_none [HostNames] : transpileInlined none = .ok [] := by
  obtain ⟨p⟩ := resolution_inlined
  have hrun : (EmitCall.inlined.run .bare Value.pairs).report =
      ((EmitCall.inlined.resume .bare .idle).outcome >>= Value.pairs,
        (EmitCall.inlined.resume .bare .idle).trace) :=
    EmitCall.report_run_of_valid rfl rfl
  obtain ⟨hrun, -⟩ := Prod.mk.inj hrun
  obtain ⟨hresume, -⟩ := Prod.mk.inj (EmitCall.report_resume_of_resolution p .idle)
  rw [transpileInlined, transpile_eq, ofTranspile_inlined, ofExcept_ok_bind]
  show (EmitCall.inlined.run .bare Value.pairs).outcome = _
  rw [hrun, hresume]
  rfl

theorem chooses_inlined [HostNames] : EmitCall.inlined.Chooses .bare :=
  ⟨⟨_, rfl⟩, ⟨_, rfl⟩, ⟨_, rfl⟩, ⟨_, rfl⟩⟩

theorem isShown_of_indistinct [HostNames] {x : Option ImportMapSource} (h : Indistinct x none) :
    IsShown x := by
  by_contra hx
  have hhidden := (h .bare (some .idle) .workRoot (.transpileOptions (.inlined x))
    (.transpileOptions (.inlined none)) .inlined rfl).2 (ofTranspile_inlined x)
    (ofTranspile_inlined none)
  have hsame : transpileInlined x = transpileInlined none :=
    (hhidden.chosen chooses_inlined []).outcome
  exact transpileInlined_of_unshown hx [] (hsame.trans transpileInlined_none)

/-- Inline sections hide the import map beside them just if it can be written as text. -/
theorem importMap_hidden_iff_shown [HostNames] (x : Option ImportMapSource) :
    (∀ y, IsShown y → Indistinct x y) ↔ IsShown x :=
  ⟨fun h => isShown_of_indistinct (h none ⟨_, rfl⟩), fun hx _ => indistinct_of_shown hx⟩

theorem importMap_hidden_behind_empty_imports :
    Indistinct (some (.text (Text.ofString "ftp://h/map.json"))) none ∧
    EmitCall.inlined.Chooses .bare ∧ transpileInlined none = .ok [] :=
  ⟨(importMap_hidden_iff_shown _).mpr ⟨_, rfl⟩ none ⟨_, rfl⟩, chooses_inlined,
    transpileInlined_none⟩

theorem unwritable_importMap_not_hidden : ∃ f,
    EmitCall.ofTranspile (some .idle) .workRoot
      (.transpileOptions (.inlined (some (.url .unwritable)))) =
        .ok (EmitCall.inlined.withImportMap (some (.url .unwritable))) ∧
    EmitCall.inlined.options.hasInlineImports ∧
    transpileInlined (some (.url .unwritable)) = .error f ∧ transpileInlined none = .ok [] := by
  have hshown : ¬IsShown (some (.url .unwritable)) := by
    have hport : (Value.url .unwritable).asText.toOption.isNone := by decide +kernel
    rintro ⟨s, hs⟩
    have hs : (Value.url .unwritable).asText = .ok s := hs
    rw [hs] at hport
    cases hport
  cases hfail : transpileInlined (some (.url .unwritable)) with
  | ok ps => exact absurd hfail (transpileInlined_of_unshown hshown ps)
  | error f => exact ⟨f, ofTranspile_inlined _, rfl, rfl, transpileInlined_none⟩

end EmitBridge
