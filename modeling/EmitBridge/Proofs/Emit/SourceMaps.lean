import EmitBridge.Proofs.Emit.StageOrder
import EmitBridge.Proofs.Options.Call

/-! The two rules about source maps, as an engine sees them. Options are checked as a record and
handed over as a mapping; the mapping keeps to the rules just if the record does. -/

namespace EmitBridge

open HostNames.AsciiOnly

open Run Event

namespace CompilerOptions

variable {o : CompilerOptions Value} {es : Entries Value}

def isOn (d : Entries Value) (key : String) : Bool := (d.get? key).any Value.isTruthy

structure SourceMapsAgree (d : Entries Value) : Prop where
  exclusive : ¬(isOn d "sourceMap" ∧ isOn d "inlineSourceMap")
  inlineSources : isOn d "inlineSources" → isOn d "sourceMap" ∨ isOn d "inlineSourceMap"

def verdict (v : Value) : Except Failure Unit := do check (← ofValue v)

theorem check_some_eq_ok_iff : check (some o) = .ok () ↔ o.conflict? = none := by
  rw [check, Option.bind_some]
  cases o.conflict? with
  | none => exact iff_of_true rfl rfl
  | some c => exact iff_of_false nofun nofun

theorem conflict?_eq_none_iff : o.conflict? = none ↔
    ¬(o.sourceMap = some true ∧ o.inlineSourceMap = some true) ∧
      (o.inlineSources = some true → o.sourceMap = some true ∨ o.inlineSourceMap = some true) := by
  unfold conflict?
  by_cases hs : o.sourceMap = some true <;> by_cases hi : o.inlineSourceMap = some true <;>
    by_cases hx : o.inlineSources = some true <;> simp [hs, hi, hx]

theorem IsRead.isOn_toEngine (hr : o.IsRead) {key : String} {x : Option Bool}
    (h : Members.field key (Value.ofOption Value.bool x) ∈ known o) :
    isOn o.toEngine key = true ↔ x = some true := by
  rw [isOn, hr.get?_toEngine h]
  match x with
  | none => exact iff_of_false nofun nofun
  | some false => exact iff_of_false nofun nofun
  | some true => exact iff_of_true rfl rfl

theorem IsRead.sourceMapsAgree_iff (hr : o.IsRead) :
    SourceMapsAgree o.toEngine ↔ check (some o) = .ok () := by
  have hs : isOn o.toEngine "sourceMap" = true ↔ o.sourceMap = some true :=
    hr.isOn_toEngine (List.mem_of_getElem? (i := 9) rfl)
  have hi : isOn o.toEngine "inlineSourceMap" = true ↔ o.inlineSourceMap = some true :=
    hr.isOn_toEngine (List.mem_of_getElem? (i := 3) rfl)
  have hx : isOn o.toEngine "inlineSources" = true ↔ o.inlineSources = some true :=
    hr.isOn_toEngine (List.mem_of_getElem? (i := 4) rfl)
  rw [check_some_eq_ok_iff, conflict?_eq_none_iff, ← hs, ← hi, ← hx]
  exact ⟨fun h => ⟨h.exclusive, h.inlineSources⟩, fun h => ⟨h.1, h.2⟩⟩

theorem sourceMapsAgree_nil : SourceMapsAgree [] := ⟨nofun, nofun⟩

theorem ofPairs_map (es : Entries Value) :
    ofPairs (es.map fun e => (Value.str e.1, e.2)) = Check.readCompilerOptions es := by
  have hnameless : es.filterMap (fun _ => (none : Option Violation)) = [] :=
    List.filterMap_eq_nil_iff.mpr fun _ _ => rfl
  simp only [ofPairs, List.filterMap_map, Function.comp_def, Prod.mk.eta, List.filterMap_some,
    hnameless]
  cases Check.readCompilerOptions es <;> rfl

theorem ofValue_dict (es : Entries Value) :
    ofValue (.dict es) = some <$> (Check.readCompilerOptions es).toExcept "CompilerOptions" := by
  rw [← ofPairs_map]
  rfl

theorem verdict_dict (h : Check.readCompilerOptions es = .passed o) :
    verdict (.dict es) = check (some o) := by
  rw [verdict, ofValue_dict, h]
  rfl

theorem verdict_record (o : CompilerOptions Value) :
    verdict (.compilerOptions o) = check (some o) := rfl

theorem verdict_toEngine (h : Check.readCompilerOptions es = .passed o) (honce : NamesOnce es) :
    verdict (.dict o.toEngine) = check (some o) := by
  have hread := readCompilerOptions_toEngine ⟨es, h⟩ fun _ he _ hf => others_ne_name h honce he hf
  calc verdict (.dict o.toEngine) = check (some { o with extras := o.others }) := verdict_dict hread
    _ = check (some o) := rfl

theorem passed_of_ofValue (h : ofValue (.dict es) = .ok (some o)) :
    Check.readCompilerOptions es = .passed o := by
  rw [ofValue_dict] at h
  obtain ⟨d, hd, hsome⟩ := exists_of_map_eq_ok h
  rw [← Option.some.inj hsome]
  exact Checked.toExcept_eq_ok hd

end CompilerOptions

open CompilerOptions

namespace EmitCall

variable {w : World} {c : EmitCall} {e : Engine}

theorem check_of_valid (h : (c.validate w).outcome = .ok e) :
    check c.options.compilerOptions = .ok () := by
  obtain ⟨u, hu, -⟩ := exists_of_ofExcept_bind h
  exact hu

theorem sourceMapsAgree_of_valid (h : (c.validate w).outcome = .ok e)
    (hr : ∀ d, c.options.compilerOptions = some d → d.IsRead) :
    SourceMapsAgree c.options.engineOptions := by
  have hcheck := check_of_valid h
  unfold EmitOptions.engineOptions
  cases hd : c.options.compilerOptions with
  | none => exact sourceMapsAgree_nil
  | some d =>
    rw [hd] at hcheck
    exact (hr d hd).sourceMapsAgree_iff.mpr hcheck

end EmitCall

namespace StageOrder

variable {α : Type} {w : World} {call? : Except Failure EmitCall} {r : Run α}

theorem valid_of_engineCalled [HostNames] (h : StageOrder w call? r) {context : Entries Value}
    {call : EngineCall} (hcall : .engineCalled call ∈ (r context).2) :
    ∃ c e, call? = .ok c ∧ (c.validate w).outcome = .ok e ∧
      call.compilerOptions = c.options.engineOptions := by
  have htrace : .engineCalled call ∈ r.trace := by
    rw [← (h.steady context).2]
    exact List.mem_filter.mpr ⟨hcall, rfl⟩
  have hmem : call ∈ engineCalls r.trace := List.mem_filterMap.mpr ⟨_, htrace, rfl⟩
  have hvalid : ∃ c e, call? = .ok c ∧ (c.validate w).outcome = .ok e := by
    by_contra hnone
    have hnil := h.unvalidated fun c e hc he => hnone ⟨c, e, hc, he⟩
    rw [hnil] at htrace
    cases htrace
  obtain ⟨c, e, hc, he⟩ := hvalid
  refine ⟨c, e, hc, he, ?_⟩
  by_cases hp : Nonempty (c.Resolution w)
  · obtain ⟨p⟩ := hp
    rw [(h.invoked c e hc he p).1] at hmem
    rw [List.mem_singleton.mp hmem]
    rfl
  · have hnil := (h.unresolved c hc ⟨fun p => hp ⟨p⟩⟩).1
    rw [hnil] at hmem
    cases hmem

end StageOrder

/-- No engine sees options that break the rules about source maps. Options that keep to them pass
the check, and what is checked is what an engine is told. -/
theorem engine_sees_agreeing_sourceMaps [HostNames] (w : World) (engine : Option Engine)
    (root options : Value) (hrecord : ∀ r, options.heldCompilerRecord? = some r → r.IsRead) :
    (∀ context call, .engineCalled call ∈ (bundle w engine root options context).2 →
      SourceMapsAgree call.compilerOptions) ∧
    (∀ context call, .engineCalled call ∈ (transpile w engine root options context).2 →
      SourceMapsAgree call.compilerOptions) ∧
    (∀ v o, ofValue v = .ok (some o) →
      ¬(o.sourceMap = some true ∧ o.inlineSourceMap = some true) →
      (o.inlineSources = some true → o.sourceMap = some true ∨ o.inlineSourceMap = some true) →
      verdict v = .ok ()) ∧
    ∀ es o, ofValue (.dict es) = .ok (some o) → NamesOnce es →
      verdict (.dict es) = verdict (.compilerOptions o) ∧
        verdict (.dict o.toEngine) = verdict (.compilerOptions o) := by
  obtain ⟨hbundle, htranspile⟩ := stageOrder_bundle_and_transpile w engine root options
  refine ⟨fun context call hcall => ?_, fun context call hcall => ?_, ?_, ?_⟩
  · obtain ⟨c, e, hc, he, hoptions⟩ := hbundle.valid_of_engineCalled hcall
    rw [hoptions]
    exact EmitCall.sourceMapsAgree_of_valid he fun _ => EmitCall.isRead_of_ofBundle hc hrecord
  · obtain ⟨c, e, hc, he, hoptions⟩ := htranspile.valid_of_engineCalled hcall
    rw [hoptions]
    exact EmitCall.sourceMapsAgree_of_valid he fun _ => EmitCall.isRead_of_ofTranspile hc hrecord
  · intro v o ho hexclusive hsources
    have hcheck : check (some o) = .ok () :=
      check_some_eq_ok_iff.mpr (conflict?_eq_none_iff.mpr ⟨hexclusive, hsources⟩)
    rw [verdict, ho]
    exact hcheck
  · intro es o ho honce
    have hread := passed_of_ofValue ho
    rw [verdict_record]
    exact ⟨verdict_dict hread, verdict_toEngine hread honce⟩

def Value.workRoot : Value := .url ⟨"file", "", "/work/mod.ts", "", "", none⟩

def Value.barrenLoader : Value :=
  .loader (.custom ⟨"function", some ⟨false, fun _ => ⟨.ok .null, 0⟩⟩, .absent⟩)

def Value.doublySourceMapped : Value :=
  .dict [Members.field "load" .barrenLoader,
    Members.field "compiler_options" (.dict [Members.field "source_map" (.bool false),
      Members.field "sourceMap" (.bool true), Members.field "inlineSources" (.bool true)])]

theorem engine_sees_agreeing_sourceMaps_named_twice :
    ∃ call, .engineCalled call ∈
        (transpile .bare (some .idle) .workRoot .doublySourceMapped []).2 ∧
      isOn call.compilerOptions "inlineSources" = true ∧ SourceMapsAgree call.compilerOptions := by
  have hnone : Value.doublySourceMapped.heldCompilerRecord?.isNone := by decide +kernel
  have hrecord : ∀ r, Value.doublySourceMapped.heldCompilerRecord? = some r → r.IsRead := by
    intro r hr
    rw [hr] at hnone
    cases hnone
  obtain ⟨-, hsees, -⟩ := engine_sees_agreeing_sourceMaps .bare (some .idle) .workRoot
    .doublySourceMapped hrecord
  have hcalled : (engineCalls (transpile .bare (some .idle) .workRoot .doublySourceMapped []).2).any
      (fun call => isOn call.compilerOptions "inlineSources") = true := by
    decide +kernel
  obtain ⟨call, hcall, hon⟩ := List.any_eq_true.mp hcalled
  obtain ⟨e, he, hread⟩ := List.mem_filterMap.mp hcall
  cases e with
  | engineCalled c =>
    cases hread
    exact ⟨call, he, hon, hsees [] call he⟩
  | _ => cases hread

end EmitBridge
