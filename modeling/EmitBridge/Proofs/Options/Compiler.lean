import Mathlib.Data.Prod.Basic
import EmitBridge.Options.Compiler
import EmitBridge.Proofs.Check.Field

/-! Compiler options as an engine receives them. The mapping tells of a known option just what the
options hold, because nothing that is left over can have its key; read again it gives the same known
options. -/

namespace EmitBridge

open Check

namespace Check

theorem compilerFields_keys_nodup : (compilerFields.map fun f => Text.ofString f.key).Nodup := by
  decide +kernel

theorem eq_of_name_eq_key : ∀ f ∈ compilerFields, ∀ g ∈ compilerFields,
    Text.ofString f.name = Text.ofString g.key → f = g := by
  decide +kernel

theorem readCompilerOptions_eq_passed_iff {es : Entries Value} {o : CompilerOptions Value} :
    readCompilerOptions es = .passed o ↔
      Field.checkJs.optional none (option boolean) es = .passed o.checkJs ∧
      Field.emitDecoratorMetadata.optional none (option boolean) es =
        .passed o.emitDecoratorMetadata ∧
      Field.importsNotUsedAsValues.optional none (option text) es =
        .passed o.importsNotUsedAsValues ∧
      Field.inlineSourceMap.optional none (option boolean) es = .passed o.inlineSourceMap ∧
      Field.inlineSources.optional none (option boolean) es = .passed o.inlineSources ∧
      Field.jsx.optional none (option text) es = .passed o.jsx ∧
      Field.jsxFactory.optional none (option text) es = .passed o.jsxFactory ∧
      Field.jsxFragmentFactory.optional none (option text) es = .passed o.jsxFragmentFactory ∧
      Field.jsxImportSource.optional none (option text) es = .passed o.jsxImportSource ∧
      Field.sourceMap.optional none (option boolean) es = .passed o.sourceMap ∧
      extras compilerFields es = o.extras := by
  constructor
  · intro h
    unfold readCompilerOptions at h
    obtain ⟨_, _, h, hj, ej⟩ := Checked.seq_eq_passed h
    obtain ⟨_, _, h, hi, ei⟩ := Checked.seq_eq_passed h
    obtain ⟨_, _, h, hh, eh⟩ := Checked.seq_eq_passed h
    obtain ⟨_, _, h, hg, eg⟩ := Checked.seq_eq_passed h
    obtain ⟨_, _, h, hf, ef⟩ := Checked.seq_eq_passed h
    obtain ⟨_, _, h, he, ee⟩ := Checked.seq_eq_passed h
    obtain ⟨_, _, h, hd, ed⟩ := Checked.seq_eq_passed h
    obtain ⟨_, _, h, hc, ec⟩ := Checked.seq_eq_passed h
    obtain ⟨_, _, h, hb, eb⟩ := Checked.seq_eq_passed h
    obtain ⟨_, ha, ea⟩ := Checked.map_eq_passed h
    subst ea eb ec ed ee ef eg eh ei ej
    exact ⟨ha, hb, hc, hd, he, hf, hg, hh, hi, hj, rfl⟩
  · rintro ⟨ha, hb, hc, hd, he, hf, hg, hh, hi, hj, hx⟩
    rw [readCompilerOptions, ha, hb, hc, hd, he, hf, hg, hh, hi, hj, hx]
    rfl

end Check

namespace CompilerOptions

variable {es : Entries Value} {o : CompilerOptions Value}

def known (o : CompilerOptions Value) : Entries Value :=
  [Members.field "checkJs" (Value.ofOption Value.bool o.checkJs),
    Members.field "emitDecoratorMetadata" (Value.ofOption Value.bool o.emitDecoratorMetadata),
    Members.field "importsNotUsedAsValues" (Value.ofOption Value.str o.importsNotUsedAsValues),
    Members.field "inlineSourceMap" (Value.ofOption Value.bool o.inlineSourceMap),
    Members.field "inlineSources" (Value.ofOption Value.bool o.inlineSources),
    Members.field "jsx" (Value.ofOption Value.str o.jsx),
    Members.field "jsxFactory" (Value.ofOption Value.str o.jsxFactory),
    Members.field "jsxFragmentFactory" (Value.ofOption Value.str o.jsxFragmentFactory),
    Members.field "jsxImportSource" (Value.ofOption Value.str o.jsxImportSource),
    Members.field "sourceMap" (Value.ofOption Value.bool o.sourceMap)]

def others (o : CompilerOptions Value) : Entries Value :=
  (Value.dumpedEntries o.extras).filter fun e => Members.isSet e.2

def outwardName (name : Text) : Text :=
  Text.ofString (String.ofList (Members.camelCase name.toString.toList))

theorem outward_eq (es : Entries Value) :
    Members.outward es = (es.map (Prod.map outwardName id)).filter fun e => Members.isSet e.2 := by
  simp only [List.filter_map, Function.comp_def, Prod.map_snd, id]
  rfl

theorem map_outwardName : (compilerFields.map fun f => Text.ofString f.name).map outwardName =
    compilerFields.map fun f => Text.ofString f.key := by
  decide +kernel

theorem outward_members (o : CompilerOptions Value) :
    Members.outward (Members.compilerOptions o) =
      (known o).filter fun e => Members.isSet e.2 := by
  have hfst : ((Members.compilerOptions o).map (Prod.map outwardName id)).map Prod.fst =
      (known o).map Prod.fst := by
    rw [List.map_map, Prod.map_fst', ← List.map_map]
    exact map_outwardName
  have hsnd : ((Members.compilerOptions o).map (Prod.map outwardName id)).map Prod.snd =
      (known o).map Prod.snd := by
    rw [List.map_map, Prod.map_snd', Function.id_comp]
    simp only [Members.compilerOptions, known, Members.field, List.map_cons, List.map_nil]
  have hrenamed : (Members.compilerOptions o).map (Prod.map outwardName id) = known o :=
    (List.zip_of_prod hfst hsnd).trans (List.zip_of_prod rfl rfl).symm
  rw [outward_eq, hrenamed]

theorem toEngine_eq (o : CompilerOptions Value) :
    o.toEngine = (known o).filter (fun e => Members.isSet e.2) ++ o.others := by
  rw [← outward_members]
  obtain ⟨checkJs, emitDecoratorMetadata, importsNotUsedAsValues, inlineSourceMap, inlineSources,
    jsx, jsxFactory, jsxFragmentFactory, jsxImportSource, sourceMap, extras⟩ := o
  simp only [toEngine, Value.dumpedCompilerOptions, Members.compilerOptions, others]

theorem key_of_mem_known {e : Text × Value} (h : e ∈ known o) :
    ∃ f ∈ compilerFields, e.1 = Text.ofString f.key := by
  have hkeys : (known o).map Prod.fst = compilerFields.map fun f => Text.ofString f.key := rfl
  have hmem : e.1 ∈ compilerFields.map fun f => Text.ofString f.key := by
    rw [← hkeys]
    exact List.mem_map_of_mem h
  obtain ⟨f, hf, hk⟩ := List.mem_map.mp hmem
  exact ⟨f, hf, hk.symm⟩

theorem known_nodup (o : CompilerOptions Value) : ((known o).map Prod.fst).Nodup :=
  compilerFields_keys_nodup

theorem mem_others {e : Text × Value} (he : e ∈ o.others) : ∃ d ∈ o.extras, d.1 = e.1 := by
  have hdumped : ∀ es : Entries Value, e ∈ Value.dumpedEntries es → ∃ d ∈ es, d.1 = e.1 := by
    intro es
    induction es with
    | nil => exact fun h => nomatch h
    | cons d es ih =>
      intro h
      rw [Value.dumpedEntries] at h
      rcases List.mem_cons.mp h with h | h
      · exact ⟨d, List.mem_cons_self, by rw [h]⟩
      · obtain ⟨d', hd, hname⟩ := ih h
        exact ⟨d', List.mem_cons_of_mem _ hd, hname⟩
  exact hdumped _ (List.mem_filter.mp he).1

def IsRead (o : CompilerOptions Value) : Prop := ∃ es, readCompilerOptions es = .passed o

/-- The mapping gives no option under both of its names. -/
def NamesOnce (es : Entries Value) : Prop :=
  ∀ f ∈ compilerFields, f.name ≠ f.key → es.contains f.key → es.contains f.name = false

theorem IsRead.others_ne_key (hr : o.IsRead) {e : Text × Value} (he : e ∈ o.others) {f : Field}
    (hf : f ∈ compilerFields) : e.1 ≠ Text.ofString f.key := by
  obtain ⟨es, hes⟩ := hr
  obtain ⟨-, -, -, -, -, -, -, -, -, -, hx⟩ := readCompilerOptions_eq_passed_iff.mp hes
  obtain ⟨d, hd, hname⟩ := mem_others he
  rw [← hname]
  exact key_ne_of_mem_extras (hx ▸ hd) hf

theorem others_ne_name (hes : readCompilerOptions es = .passed o) (honce : NamesOnce es)
    {e : Text × Value} (he : e ∈ o.others) {f : Field} (hf : f ∈ compilerFields) :
    e.1 ≠ Text.ofString f.name := by
  obtain ⟨-, -, -, -, -, -, -, -, -, -, hx⟩ := readCompilerOptions_eq_passed_iff.mp hes
  obtain ⟨d, hd, hname⟩ := mem_others he
  rw [← hx] at hd
  rw [← hname]
  intro hn
  by_cases hsame : f.name = f.key
  · exact key_ne_of_mem_extras hd hf (by rw [hn, hsame])
  · -- an entry under the name is left over only if the key is there too
    have hkey := contains_key_of_mem_extras hd hf hn
    have hmissing := Entries.contains_eq_false_iff.mp (honce f hf hsame hkey)
    exact hmissing d (mem_extras_iff.mp hd).1 hn

theorem IsRead.get?_toEngine (hr : o.IsRead) {key : String} {v : Value}
    (h : Members.field key v ∈ known o) :
    o.toEngine.get? key = if Members.isSet v then some v else none := by
  obtain ⟨f, hf, hkey⟩ := key_of_mem_known h
  have hothers : o.others.get? key = none := by
    apply Entries.get?_eq_none_iff.mpr
    intro e he heq
    exact hr.others_ne_key he hf (heq.trans hkey)
  have hknown : Entries.get? ((known o).filter fun e => Members.isSet e.2) key =
      if Members.isSet v then some v else none :=
    Entries.get?_filter_of_mem (known_nodup o) h _
  rw [toEngine_eq, Entries.get?_append, hothers, hknown, Option.or_none]

section Reread

variable {f : Field} {α : Type}

theorem get?_toEngine_name (hf : f ∈ compilerFields)
    (hothers : ∀ e ∈ o.others, e.1 ≠ Text.ofString f.name)
    (hkey : o.toEngine.get? f.key = none) : o.toEngine.get? f.name = none := by
  apply Entries.get?_eq_none_iff.mpr
  intro e he hn
  rw [toEngine_eq] at he
  rcases List.mem_append.mp he with hknown | hother
  · obtain ⟨g, hg, hgk⟩ := key_of_mem_known (List.mem_filter.mp hknown).1
    have hfg : f = g := eq_of_name_eq_key f hf g hg (hn.symm.trans hgk)
    refine Entries.get?_eq_none_iff.mp hkey e ?_ (hfg ▸ hgk)
    rw [toEngine_eq]
    exact List.mem_append_left _ hknown
  · exact hothers e hother hn

theorem optional_toEngine (hr : o.IsRead) (hf : f ∈ compilerFields)
    (hothers : ∀ e ∈ o.others, e.1 ≠ Text.ofString f.name) {inj : α → Value} {x : Option α}
    (h : Members.field f.key (Value.ofOption inj x) ∈ known o) {check : Value → Checked α}
    (hset : ∀ a, Members.isSet (inj a) = true) (hcheck : ∀ a, check (inj a) = .passed a) :
    f.optional none (option check) o.toEngine = .passed x := by
  have hget := hr.get?_toEngine h
  cases x with
  | none => exact optional_of_missing hget (get?_toEngine_name hf hothers hget)
  | some a =>
    have hsome : o.toEngine.get? f.key = some (inj a) := hget.trans (if_pos (hset a))
    refine optional_of_get? hsome (option_of_passed ?_ (hcheck a))
    intro hnull
    have hs := hset a
    rw [hnull] at hs
    cases hs

theorem extras_toEngine (hr : o.IsRead)
    (hothers : ∀ e ∈ o.others, ∀ f ∈ compilerFields, e.1 ≠ Text.ofString f.name) :
    Check.extras compilerFields o.toEngine = o.others := by
  unfold Check.extras
  -- the entries are told apart, but not the mapping that they are claimed in
  nth_rewrite 2 [toEngine_eq]
  rw [List.filter_append, List.filter_eq_nil_iff.mpr, List.filter_eq_self.mpr, List.nil_append]
  · intro e he
    simp only [Bool.not_eq_true', List.any_eq_false, Bool.not_eq_true]
    intro f hf
    apply Bool.eq_false_iff.mpr
    intro hclaims
    rcases Field.eq_of_claims hclaims with hk | hn
    · exact hr.others_ne_key he hf hk
    · exact hothers e he f hf hn
  · intro e he
    obtain ⟨f, hf, hk⟩ := key_of_mem_known (List.mem_filter.mp he).1
    have hmem : e ∈ o.toEngine := by
      rw [toEngine_eq]
      exact List.mem_append_left _ he
    have hany : (compilerFields.any fun f => f.claims o.toEngine e.1) = true :=
      List.any_eq_true.mpr ⟨f, hf, Field.claims_of_key hmem hk⟩
    rw [hany]
    exact Bool.false_ne_true

theorem readCompilerOptions_toEngine (hr : o.IsRead)
    (hothers : ∀ e ∈ o.others, ∀ f ∈ compilerFields, e.1 ≠ Text.ofString f.name) :
    readCompilerOptions o.toEngine = .passed { o with extras := o.others } := by
  have hbool (i : Nat) {f : Field} (hf : f ∈ compilerFields) {x : Option Bool}
      (h : (known o)[i]? = some (Members.field f.key (Value.ofOption Value.bool x))) :
      f.optional none (option boolean) o.toEngine = .passed x :=
    optional_toEngine hr hf (fun e he => hothers e he f hf) (List.mem_of_getElem? h)
      (fun _ => rfl) fun _ => rfl
  have htext (i : Nat) {f : Field} (hf : f ∈ compilerFields) {x : Option Text}
      (h : (known o)[i]? = some (Members.field f.key (Value.ofOption Value.str x))) :
      f.optional none (option text) o.toEngine = .passed x :=
    optional_toEngine hr hf (fun e he => hothers e he f hf) (List.mem_of_getElem? h)
      (fun _ => rfl) fun _ => rfl
  apply readCompilerOptions_eq_passed_iff.mpr
  exact ⟨hbool 0 (by decide) rfl, hbool 1 (by decide) rfl, htext 2 (by decide) rfl,
    hbool 3 (by decide) rfl, hbool 4 (by decide) rfl, htext 5 (by decide) rfl,
    htext 6 (by decide) rfl, htext 7 (by decide) rfl, htext 8 (by decide) rfl,
    hbool 9 (by decide) rfl, extras_toEngine hr hothers⟩

end Reread

end CompilerOptions

end EmitBridge
