import EmitBridge.Proofs.Emit.SourceMaps
import EmitBridge.Proofs.Value.Bare

/-! Compiler options that are forwarded to an engine: the known ones as they were read, and the
other ones as they were given, unless those are null or have records in them. -/

namespace EmitBridge

open HostNames.AsciiOnly

open Check Run Event

namespace CompilerOptions

variable {es : Entries Value} {o : CompilerOptions Value}

def isKnown (name : Text) : Bool :=
  compilerFields.any fun f => name == Text.ofString f.name || name == Text.ofString f.key

def unknown (es : Entries Value) : Entries Value := es.filter fun e => !isKnown e.1

theorem isKnown_iff {name : Text} : isKnown name = true ↔
    ∃ f ∈ compilerFields, name = Text.ofString f.name ∨ name = Text.ofString f.key := by
  simp only [isKnown, List.any_eq_true, Bool.or_eq_true, beq_iff_eq]

theorem extras_eq_unknown (h : NamesOnce es) : Check.extras compilerFields es = unknown es := by
  refine List.filter_congr fun e he => congrArg _ (Bool.eq_iff_iff.mpr ?_)
  rw [List.any_eq_true, isKnown_iff]
  refine exists_congr fun f => and_congr_right fun hf => ⟨fun hclaims => ?_, ?_⟩
  · exact (Field.eq_of_claims hclaims).symm
  · rintro (hn | hk)
    · by_cases hsame : f.name = f.key
      · exact Field.claims_of_key he (by rw [hn, hsame])
      · refine Field.claims_of_name he hn (Bool.eq_false_iff.mpr fun hkey => ?_)
        have hmissing := Entries.contains_eq_false_iff.mp (h f hf hsame hkey)
        exact hmissing e he hn
    · exact Field.claims_of_key he hk

theorem extras_of_read (h : readCompilerOptions es = .passed o) (honce : NamesOnce es) :
    o.extras = unknown es := by
  obtain ⟨-, -, -, -, -, -, -, -, -, -, hextras⟩ := readCompilerOptions_eq_passed_iff.mp h
  rw [← hextras, extras_eq_unknown honce]

theorem others_eq (o : CompilerOptions Value) :
    o.others = (o.extras.map fun e => (e.1, e.2.dumped)).filter fun e => Members.isSet e.2 := by
  rw [others, Value.dumpedEntries_eq]

theorem isSet_eq_true_iff {v : Value} : Members.isSet v = true ↔ v ≠ .null := by
  cases v <;> simp [Members.isSet]

theorem others_eq_extras_iff :
    o.others = o.extras ↔ ∀ e ∈ o.extras, e.2 ≠ .null ∧ e.2.IsBare := by
  rw [others_eq]
  constructor
  · intro h e he
    have hlength : ((o.extras.map fun e => (e.1, e.2.dumped)).filter fun e =>
        Members.isSet e.2).length = (o.extras.map fun e => (e.1, e.2.dumped)).length := by
      rw [h, List.length_map]
    have hall := List.length_filter_eq_length_iff.mp hlength
    have hmap : o.extras.map (fun e => (e.1, e.2.dumped)) = o.extras.map fun e => e := by
      rw [List.filter_eq_self.mpr hall] at h
      rw [h, List.map_id']
    have hdumped : e.2.dumped = e.2 := congrArg Prod.snd (List.map_inj_left.mp hmap e he)
    have hset := hall _ (List.mem_map_of_mem he)
    rw [hdumped] at hset
    exact ⟨isSet_eq_true_iff.mp hset, Value.dumped_eq_self_iff.mp hdumped⟩
  · intro h
    have hmap : o.extras.map (fun e => (e.1, e.2.dumped)) = o.extras.map fun e => e :=
      List.map_congr_left fun e he => Prod.ext rfl (h e he).2.dumped_eq
    rw [hmap, List.map_id', List.filter_eq_self]
    exact fun e he => isSet_eq_true_iff.mpr (h e he).1

theorem others_others (o : CompilerOptions Value) :
    ({ o with extras := o.others } : CompilerOptions Value).others = o.others := by
  refine others_eq_extras_iff.mpr fun e he => ?_
  obtain ⟨hdumped, hset⟩ := List.mem_filter.mp he
  exact ⟨isSet_eq_true_iff.mp hset, Value.entriesBare_dumpedEntries _ e hdumped⟩

/-- An engine receives the options of a mapping untouched: the known ones that are set, under the
names that engines know, and behind them everything else as it is given. Read again, what it
receives comes to the same. -/
structure IsForwarded (es : Entries Value) (o : CompilerOptions Value) : Prop where
  forwarded : o.toEngine = (known o).filter (fun e => Members.isSet e.2) ++ unknown es
  unset : ∀ e ∈ known o, e.2 = .null → o.toEngine.get? e.1 = none
  reread : ∃ p, ofValue (.dict o.toEngine) = .ok (some p) ∧ p.toEngine = o.toEngine

theorem reread_of_read (h : readCompilerOptions es = .passed o) (honce : NamesOnce es) :
    ∃ p, ofValue (.dict o.toEngine) = .ok (some p) ∧ p.toEngine = o.toEngine := by
  refine ⟨{ o with extras := o.others }, ?_, ?_⟩
  · have hread := readCompilerOptions_toEngine ⟨es, h⟩ fun _ he _ hf =>
      others_ne_name h honce he hf
    rw [ofValue_dict, hread]
    rfl
  · rw [toEngine_eq, others_others, toEngine_eq]
    rfl

theorem unset_of_read (h : readCompilerOptions es = .passed o) {e : Text × Value} (he : e ∈ known o)
    (hnull : e.2 = .null) : o.toEngine.get? e.1 = none := by
  obtain ⟨f, -, hkey⟩ := key_of_mem_known he
  have hfield : Members.field f.key e.2 ∈ known o := by
    rw [Members.field, ← hkey]
    exact he
  have hr : o.IsRead := ⟨es, h⟩
  rw [hkey, hr.get?_toEngine hfield, hnull]
  rfl

theorem isForwarded_iff_of_read (h : readCompilerOptions es = .passed o) (honce : NamesOnce es) :
    IsForwarded es o ↔ ∀ e ∈ unknown es, e.2 ≠ .null ∧ e.2.IsBare := by
  have hextras := extras_of_read h honce
  rw [← hextras, ← others_eq_extras_iff]
  constructor
  · intro hf
    have hsame := hf.forwarded
    rw [toEngine_eq, ← hextras] at hsame
    exact List.append_cancel_left hsame
  · intro hothers
    refine ⟨?_, fun e he hnull => unset_of_read h he hnull, reread_of_read h honce⟩
    rw [toEngine_eq, hothers, hextras]

end CompilerOptions

namespace Value

def heldCompilerMapping? : Value → Option (Entries Value)
  | .dict es => (Field.compilerOptions.find? es).bind fun e =>
    match e.2 with
    | .dict ds => some ds
    | _ => none
  | _ => none

end Value

namespace EmitOptions

open CompilerOptions

variable {es ds : Entries Value} {p : EmitOptions Value} {o : CompilerOptions Value}

theorem engineOptions_of_read (h : readEmitOptions es = .passed p)
    (hheld : (Value.dict es).heldCompilerMapping? = some ds)
    (ho : readCompilerOptions ds = .passed o) : p.engineOptions = o.toEngine := by
  obtain ⟨e, hfind, hdict⟩ := Option.bind_eq_some_iff.mp hheld
  obtain ⟨key, v⟩ := e
  cases v with
  | dict fs =>
    obtain rfl := Option.some.inj hdict
    obtain ⟨-, -, -, hfield, -⟩ := readEmitOptions_eq_passed_iff.mp h
    rw [Field.optional, hfind] at hfield
    have hgiven := Checked.under_eq_passed hfield
    obtain ⟨d, hd, hsome⟩ := Checked.map_eq_passed hgiven
    have hsame : d = o := by
      have hboth : Checked.passed d = Checked.passed o := hd.symm.trans ho
      exact Checked.passed.inj hboth
    rw [engineOptions, ← hsome, hsame]
  | _ => cases hdict

end EmitOptions

open CompilerOptions

theorem engine_told_of_mapping [HostNames] {w : World} {engine : Option Engine}
    {root options : Value} {ds : Entries Value} {o : CompilerOptions Value}
    (hheld : options.heldCompilerMapping? = some ds) (ho : readCompilerOptions ds = .passed o) :
    (∀ context call, .engineCalled call ∈ (bundle w engine root options context).2 →
      call.compilerOptions = o.toEngine) ∧
    ∀ context call, .engineCalled call ∈ (transpile w engine root options context).2 →
      call.compilerOptions = o.toEngine := by
  obtain ⟨hbundle, htranspile⟩ := stageOrder_bundle_and_transpile w engine root options
  cases options with
  | dict es =>
    refine ⟨fun context call hcall => ?_, fun context call hcall => ?_⟩
    · obtain ⟨c, e, hc, -, hoptions⟩ := hbundle.valid_of_engineCalled hcall
      rw [hoptions]
      exact EmitOptions.engineOptions_of_read (EmitCall.readEmitOptions_of_ofBundle hc) hheld ho
    · obtain ⟨c, e, hc, -, hoptions⟩ := htranspile.valid_of_engineCalled hcall
      rw [hoptions]
      exact EmitOptions.engineOptions_of_read (EmitCall.readEmitOptions_of_ofTranspile hc) hheld ho
  | _ => cases hheld

/-- A mapping of compiler options that is valid and names no option twice is what the engine is told
of, and it is forwarded untouched just if no unknown option is null or has records in it. -/
theorem compilerOptions_forwarded_iff [HostNames] {ds : Entries Value} {o : CompilerOptions Value}
    (ho : ofValue (.dict ds) = .ok (some o)) (honce : NamesOnce ds) :
    (∀ w engine root options, options.heldCompilerMapping? = some ds →
      (∀ context call, .engineCalled call ∈ (bundle w engine root options context).2 →
        call.compilerOptions = o.toEngine) ∧
      ∀ context call, .engineCalled call ∈ (transpile w engine root options context).2 →
        call.compilerOptions = o.toEngine) ∧
    (IsForwarded ds o ↔ ∀ e ∈ unknown ds, e.2 ≠ .null ∧ e.2.IsBare) := by
  have hread := passed_of_ofValue ho
  exact ⟨fun _ _ _ _ hheld => engine_told_of_mapping hheld hread,
    isForwarded_iff_of_read hread honce⟩

def CompilerOptions.ofExtras (extras : Entries Value) : CompilerOptions Value :=
  ⟨none, none, none, none, none, none, none, none, none, none, extras⟩

theorem experimental_option_forwarded :
    IsForwarded
      [Members.field "experimentalDecorators" (.bool true), Members.field "jsx" (.string "react")]
      { CompilerOptions.ofExtras [Members.field "experimentalDecorators" (.bool true)] with
        jsx := some (Text.ofString "react") } := by
  refine (compilerOptions_forwarded_iff rfl ?_).2.mpr ?_
  · unfold NamesOnce
    decide +kernel
  · have hunknown : unknown
        [Members.field "experimentalDecorators" (.bool true),
          Members.field "jsx" (.string "react")] =
        [Members.field "experimentalDecorators" (.bool true)] := by
      rfl
    intro e he
    rw [hunknown] at he
    rw [List.mem_singleton.mp he]
    exact ⟨nofun, .atom rfl⟩

theorem null_option_not_forwarded :
    ofValue (.dict [Members.field "foo" .null]) =
      .ok (some (CompilerOptions.ofExtras [Members.field "foo" .null])) ∧
    NamesOnce [Members.field "foo" .null] ∧
    unknown [Members.field "foo" .null] = [Members.field "foo" .null] ∧
    (CompilerOptions.ofExtras [Members.field "foo" .null]).toEngine = [] ∧
    ¬IsForwarded [Members.field "foo" .null]
      (CompilerOptions.ofExtras [Members.field "foo" .null]) := by
  have hunknown : unknown [Members.field "foo" .null] = [Members.field "foo" .null] := by
    rfl
  have htold : (CompilerOptions.ofExtras [Members.field "foo" .null]).toEngine = [] := by
    rfl
  refine ⟨rfl, ?_, hunknown, htold, fun h => ?_⟩
  · unfold NamesOnce
    decide +kernel
  · have hsame := h.forwarded
    rw [htold, hunknown] at hsame
    cases hsame

end EmitBridge
