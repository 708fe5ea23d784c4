import EmitBridge.Proofs.Emit.StageOrder
import EmitBridge.Proofs.Options.Compiler

/-! Options of a call. What the call is made with is read from a mapping field by field, for
bundling and for transpiling alike. -/

namespace EmitBridge

open Check

variable {es : Entries Value}

namespace Check

theorem readEmitOptions_eq_passed_iff {o : EmitOptions Value} :
    readEmitOptions es = .passed o ↔
      Field.importMap.optional none (option importMapSource) es = .passed o.importMap ∧
      Field.imports.optional none (option mapSection) es = .passed o.imports ∧
      Field.scopes.optional none (option Check.scopes) es = .passed o.scopes ∧
      Field.compilerOptions.optional none (option Check.compilerOptions) es =
        .passed o.compilerOptions ∧
      Field.load.optional none Check.load es = .passed o.load ∧
      Field.allowRemote.optional none (option boolean) es = .passed o.allowRemote ∧
      Field.cacheRoot.optional none (option path) es = .passed o.cacheRoot ∧
      Field.cacheSetting.optional none (option Check.cacheSetting) es =
        .passed o.cacheSetting := by
  constructor
  · intro h
    unfold readEmitOptions at h
    obtain ⟨_, _, h, hh, eh⟩ := Checked.seq_eq_passed h
    obtain ⟨_, _, h, hg, eg⟩ := Checked.seq_eq_passed h
    obtain ⟨_, _, h, hf, ef⟩ := Checked.seq_eq_passed h
    obtain ⟨_, _, h, he, ee⟩ := Checked.seq_eq_passed h
    obtain ⟨_, _, h, hd, ed⟩ := Checked.seq_eq_passed h
    obtain ⟨_, _, h, hc, ec⟩ := Checked.seq_eq_passed h
    obtain ⟨_, _, h, hb, eb⟩ := Checked.seq_eq_passed h
    obtain ⟨_, ha, ea⟩ := Checked.map_eq_passed h
    subst ea eb ec ed ee ef eg eh
    exact ⟨ha, hb, hc, hd, he, hf, hg, hh⟩
  · rintro ⟨ha, hb, hc, hd, he, hf, hg, hh⟩
    rw [readEmitOptions, ha, hb, hc, hd, he, hf, hg, hh]
    rfl

theorem readEmitOptions_of_bundle {o : BundleOptions Value}
    (h : readBundleOptions es = .passed o) : readEmitOptions es = .passed o.common := by
  unfold readBundleOptions at h
  obtain ⟨_, _, h, -, ed⟩ := Checked.seq_eq_passed h
  obtain ⟨_, _, h, -, ec⟩ := Checked.seq_eq_passed h
  obtain ⟨_, _, h, -, eb⟩ := Checked.seq_eq_passed h
  obtain ⟨_, ha, ea⟩ := Checked.map_eq_passed h
  subst ea eb ec ed
  exact ha

theorem readEmitOptions_of_transpile {o : EmitOptions Value}
    (h : readTranspileOptions es = .passed o) : readEmitOptions es = .passed o := by
  unfold readTranspileOptions at h
  obtain ⟨_, _, h, -, eb⟩ := Checked.seq_eq_passed h
  obtain ⟨_, ha, ea⟩ := Checked.map_eq_passed h
  subst ea eb
  exact ha

end Check

namespace EmitCall

variable {engine : Option Engine} {root options : Value} {c : EmitCall}

theorem readEmitOptions_of_ofBundle (h : ofBundle engine root (.dict es) = .ok c) :
    readEmitOptions es = .passed c.options := by
  obtain ⟨o, ho, rfl⟩ := exists_of_ofBundle h
  exact readEmitOptions_of_bundle (Checked.toExcept_eq_ok ho)

theorem readEmitOptions_of_ofTranspile (h : ofTranspile engine root (.dict es) = .ok c) :
    readEmitOptions es = .passed c.options := by
  obtain ⟨o, ho, rfl⟩ := exists_of_ofTranspile h
  exact readEmitOptions_of_transpile (Checked.toExcept_eq_ok ho)

end EmitCall

namespace Value

def compilerRecord? : Value → Option (CompilerOptions Value)
  | .compilerOptions o => some o
  | _ => none

def heldCompilerRecord? : Value → Option (CompilerOptions Value)
  | .bundleOptions o => o.common.compilerOptions
  | .transpileOptions o => o.compilerOptions
  | .dict es => (Field.compilerOptions.find? es).bind fun e => e.2.compilerRecord?
  | _ => none

theorem heldCompilerRecord?_nil (r : CompilerOptions Value) :
    (Value.dict []).heldCompilerRecord? ≠ some r := by
  have hnone : (Value.dict []).heldCompilerRecord? = none := rfl
  rw [hnone]
  intro h
  cases h

end Value

namespace CompilerOptions

variable {o : EmitOptions Value} {d : CompilerOptions Value}

theorem isRead_of_compilerOptions {v : Value} (h : Check.compilerOptions v = .passed d)
    (hrecord : ∀ r, v.compilerRecord? = some r → r.IsRead) : d.IsRead := by
  unfold Check.compilerOptions record at h
  split at h
  · next r hr =>
    cases h
    exact hrecord d hr
  · split at h
    · exact ⟨_, h⟩
    · cases h

theorem isRead_of_readEmitOptions (h : readEmitOptions es = .passed o)
    (hd : o.compilerOptions = some d)
    (hrecord : ∀ r, (Value.dict es).heldCompilerRecord? = some r → r.IsRead) : d.IsRead := by
  obtain ⟨-, -, -, hfield, -⟩ := readEmitOptions_eq_passed_iff.mp h
  rw [hd, Field.optional] at hfield
  cases hfind : Field.compilerOptions.find? es with
  | none =>
    rw [hfind] at hfield
    cases hfield
  | some e =>
    rw [hfind] at hfield
    have hgiven : option Check.compilerOptions e.2 = .passed (some d) :=
      Checked.under_eq_passed hfield
    unfold option at hgiven
    split at hgiven
    · cases hgiven
    · next hnull =>
      obtain ⟨_, hd, heq⟩ := Checked.map_eq_passed hgiven
      cases heq
      refine isRead_of_compilerOptions hd fun r hr => hrecord r ?_
      rw [Value.heldCompilerRecord?, hfind]
      exact hr

end CompilerOptions

namespace EmitCall

variable {engine : Option Engine} {root options : Value} {c : EmitCall}

theorem isRead_of_ofBundle (h : ofBundle engine root options = .ok c)
    (hrecord : ∀ r, options.heldCompilerRecord? = some r → r.IsRead) {d : CompilerOptions Value}
    (hd : c.options.compilerOptions = some d) : d.IsRead := by
  obtain ⟨o, ho, rfl⟩ := exists_of_ofBundle h
  unfold BundleOptions.ofValue at ho
  split at ho
  · have hread := readEmitOptions_of_bundle (Checked.toExcept_eq_ok ho)
    exact CompilerOptions.isRead_of_readEmitOptions hread hd fun r hr =>
      absurd hr (Value.heldCompilerRecord?_nil r)
  · cases ho
    exact hrecord d hd
  · have hread := readEmitOptions_of_bundle (Checked.toExcept_eq_ok ho)
    exact CompilerOptions.isRead_of_readEmitOptions hread hd hrecord
  · cases ho

theorem isRead_of_ofTranspile (h : ofTranspile engine root options = .ok c)
    (hrecord : ∀ r, options.heldCompilerRecord? = some r → r.IsRead) {d : CompilerOptions Value}
    (hd : c.options.compilerOptions = some d) : d.IsRead := by
  obtain ⟨o, ho, rfl⟩ := exists_of_ofTranspile h
  unfold EmitOptions.ofValue at ho
  split at ho
  · have hread := readEmitOptions_of_transpile (Checked.toExcept_eq_ok ho)
    exact CompilerOptions.isRead_of_readEmitOptions hread hd fun r hr =>
      absurd hr (Value.heldCompilerRecord?_nil r)
  · cases ho
    exact hrecord d hd
  · have hread := readEmitOptions_of_transpile (Checked.toExcept_eq_ok ho)
    exact CompilerOptions.isRead_of_readEmitOptions hread hd hrecord
  · cases ho

end EmitCall

end EmitBridge
