import EmitBridge.Json.Basic
import EmitBridge.Proofs.Text.CodePoint

/-! Entries under names: what is found under a name, in entries that are put together, left out or
replaced. -/

namespace EmitBridge

namespace Entries

variable {α : Type} {es : Entries α} {name : Text}

theorem get?_append (es fs : Entries α) (name : Text) :
    (es ++ fs : Entries α).get? name = (es.get? name).or (fs.get? name) := List.lookup_append

theorem get?_cons (n : Text) (v : α) (es : Entries α) (name : Text) :
    Entries.get? ((n, v) :: es) name = if name = n then some v else es.get? name := by
  rw [get?, List.lookup_cons]
  split
  · next h => rw [if_pos (beq_iff_eq.mp h)]
  · next h =>
    rw [if_neg fun heq => by rw [heq, beq_self_eq_true] at h; cases h]
    rfl

theorem get?_eq_none_iff : es.get? name = none ↔ ∀ e ∈ es, e.1 ≠ name := by
  rw [get?, List.lookup_eq_none_iff]
  refine forall₂_congr fun e _ => ?_
  rw [bne_iff_ne, ne_comm]

theorem contains_eq_false_iff : es.contains name = false ↔ ∀ e ∈ es, e.1 ≠ name := by
  rw [← get?_eq_none_iff, contains, Option.isSome_eq_false_iff, Option.isNone_iff_eq_none]
  rfl

theorem contains_eq_true_iff : es.contains name = true ↔ ∃ e ∈ es, e.1 = name := by
  rw [← Bool.not_eq_false, contains_eq_false_iff]
  push Not
  rfl

theorem exists_get?_of_mem {e : Text × α} (he : e ∈ es) (hn : e.1 = name) :
    ∃ v, es.get? name = some v :=
  Option.isSome_iff_exists.mp (contains_eq_true_iff.mpr ⟨e, he, hn⟩)

theorem get?_of_mem (hn : (es.map Prod.fst).Nodup) {v : α} (h : (name, v) ∈ es) :
    es.get? name = some v := by
  induction es with
  | nil => cases h
  | cons e es ih =>
    obtain ⟨n, u⟩ := e
    obtain ⟨hnot, hn⟩ := List.nodup_cons.mp hn
    rw [get?_cons]
    rcases List.mem_cons.mp h with h | h
    · cases h
      exact if_pos rfl
    · -- an equal name would occur once more among the entries behind
      have hne : name ≠ n := fun heq => hnot (heq ▸ List.mem_map.mpr ⟨_, h, rfl⟩)
      rw [if_neg hne]
      exact ih hn h

theorem get?_filter_of_mem (hn : (es.map Prod.fst).Nodup) {v : α} (h : (name, v) ∈ es)
    (p : Text × α → Bool) :
    Entries.get? (es.filter p) name = if p (name, v) then some v else none := by
  split
  · next hp =>
    have hsub : ((es.filter p).map Prod.fst).Nodup := hn.sublist (List.filter_sublist.map _)
    exact get?_of_mem hsub (List.mem_filter.mpr ⟨h, hp⟩)
  · next hp =>
    refine get?_eq_none_iff.mpr fun e he heq => hp ?_
    obtain ⟨hm, hpe⟩ := List.mem_filter.mp he
    have hmem : (name, e.2) ∈ es := by
      rw [← heq]
      exact hm
    have hv : e.2 = v := Option.some.inj ((get?_of_mem hn hmem).symm.trans (get?_of_mem hn h))
    rw [← heq, ← hv]
    exact hpe

theorem get?_filter_names (p : Text → Bool) (es : Entries α) (name : Text) :
    Entries.get? (es.filter fun e => p e.1) name = if p name then es.get? name else none := by
  induction es with
  | nil => exact (ite_self none).symm
  | cons e es ih =>
    rw [List.filter_cons]
    by_cases hname : name = e.1
    · rw [hname]
      split
      · rw [get?_cons, get?_cons, if_pos rfl, if_pos rfl]
      · next hp => rw [← hname, ih, if_neg (hname ▸ hp)]
    · have hskip : Entries.get? (e :: es) name = Entries.get? es name := by
        rw [get?_cons, if_neg hname]
      rw [hskip, ← ih]
      split
      · rw [get?_cons, if_neg hname]
      · rfl

theorem get?_put_self (name : Text) (v : α) (es : Entries α) :
    (put name v es).get? name = some v := by
  induction es with
  | nil => exact List.lookup_cons_self
  | cons e es ih =>
    obtain ⟨n, u⟩ := e
    unfold put
    split
    · next hn => rw [beq_iff_eq.mp hn, get?_cons, if_pos rfl]
    · next hn =>
      have hne : name ≠ n := fun heq => hn (beq_iff_eq.mpr heq.symm)
      rw [get?_cons, if_neg hne]
      exact ih

theorem get?_put_of_ne {name other : Text} (h : other ≠ name) (v : α) (es : Entries α) :
    (put name v es).get? other = es.get? other := by
  induction es with
  | nil =>
    rw [put, get?_cons, if_neg h]
  | cons e es ih =>
    obtain ⟨n, u⟩ := e
    unfold put
    split
    · next hn =>
      have heq : n = name := beq_iff_eq.mp hn
      rw [get?_cons, get?_cons, heq, if_neg h, if_neg h]
    · rw [get?_cons, get?_cons, ih]

theorem get?_put (name : Text) (v : α) (es : Entries α) (other : Text) :
    (put name v es).get? other = if other = name then some v else es.get? other := by
  split
  · next h =>
    rw [h]
    exact get?_put_self name v es
  · next h => exact get?_put_of_ne h v es

theorem put_of_notMem (h : name ∉ es.map Prod.fst) (v : α) :
    put name v es = es ++ [(name, v)] := by
  induction es with
  | nil => rfl
  | cons e es ih =>
    rw [List.map_cons, List.mem_cons, not_or] at h
    rw [put, if_neg (by simpa using Ne.symm h.1), ih h.2]
    rfl

theorem names_put_of_mem (h : name ∈ es.map Prod.fst) (v : α) :
    (put name v es).map Prod.fst = es.map Prod.fst := by
  induction es with
  | nil => cases h
  | cons e es ih =>
    rw [put]
    split
    · rfl
    · next hne =>
      rcases List.mem_cons.mp h with heq | h
      · exact absurd (beq_iff_eq.mpr heq.symm) hne
      · rw [List.map_cons, ih h, List.map_cons]

theorem nodup_put (h : (es.map Prod.fst).Nodup) (name : Text) (v : α) :
    ((put name v es).map Prod.fst).Nodup := by
  by_cases hm : name ∈ es.map Prod.fst
  · rwa [names_put_of_mem hm]
  · rw [put_of_notMem hm, List.map_append]
    refine List.nodup_append.mpr ⟨h, by simp, fun n hn m hm' heq => hm ?_⟩
    obtain rfl := List.mem_singleton.mp hm'
    exact heq ▸ hn

theorem mem_put {e : Text × α} {v : α} (h : e ∈ put name v es) : e = (name, v) ∨ e ∈ es := by
  induction es with
  | nil => exact .inl (List.mem_singleton.mp h)
  | cons d es ih =>
    rw [put] at h
    split at h
    · next hn =>
      rcases List.mem_cons.mp h with rfl | h
      · exact .inl (by rw [← beq_iff_eq.mp hn])
      · exact .inr (List.mem_cons_of_mem _ h)
    · rcases List.mem_cons.mp h with rfl | h
      · exact .inr List.mem_cons_self
      · exact (ih h).imp id (List.mem_cons_of_mem _)

theorem foldl_put_induction (p : Entries α → Prop) {es : List (Text × α)} {done : Entries α}
    (hdone : p done) (hput : ∀ e ∈ es, ∀ fs, p fs → p (put e.1 e.2 fs)) :
    p (es.foldl (fun done e => put e.1 e.2 done) done) := by
  induction es generalizing done with
  | nil => exact hdone
  | cons e es ih =>
    rw [List.foldl_cons]
    exact ih (hput e List.mem_cons_self done hdone)
      fun d hd => hput d (List.mem_cons_of_mem _ hd)

theorem nodup_ofList (es : List (Text × α)) : ((ofList es).map Prod.fst).Nodup :=
  foldl_put_induction (fun fs => (fs.map Prod.fst).Nodup) List.nodup_nil
    fun _ _ _ h => nodup_put h _ _

theorem mem_ofList {e : Text × α} {es : List (Text × α)} (h : e ∈ ofList es) : e ∈ es := by
  have hall : ∀ d ∈ ofList es, d ∈ es := by
    refine foldl_put_induction (fun fs => ∀ d ∈ fs, d ∈ es) (fun _ hd => nomatch hd) ?_
    intro f hf fs ih d hd
    rcases mem_put hd with rfl | hd
    · exact hf
    · exact ih d hd
  exact hall e h

theorem get?_foldl_put (es : List (Text × α)) (done : Entries α) (name : Text) :
    Entries.get? (es.foldl (fun done e => put e.1 e.2 done) done) name =
      (es.reverse.lookup name).or (done.get? name) := by
  induction es generalizing done with
  | nil => rfl
  | cons e es ih =>
    rw [List.foldl_cons, ih, List.reverse_cons, List.lookup_append, get?_put, Option.or_assoc]
    have hlast : (if name = e.1 then some e.2 else done.get? name) =
        (List.lookup name [e]).or (done.get? name) := by
      rw [List.lookup_cons]
      by_cases h : name = e.1
      · simp [h]
      · have hne : (name == e.1) = false := beq_false_of_ne h
        simp [h, hne]
    rw [hlast]

theorem get?_ofList (es : List (Text × α)) (name : Text) :
    (ofList es).get? name = es.reverse.lookup name := by
  rw [ofList, get?_foldl_put]
  exact Option.or_none

theorem foldl_put_of_nodup {done : Entries α} (h : ((done ++ es).map Prod.fst).Nodup) :
    es.foldl (fun done e => put e.1 e.2 done) done = done ++ es := by
  induction es generalizing done with
  | nil => rw [List.foldl_nil, List.append_nil]
  | cons e es ih =>
    have hnot : e.1 ∉ done.map Prod.fst := by
      intro hm
      rw [List.map_append, List.map_cons] at h
      exact (List.nodup_append.mp h).2.2 _ hm _ List.mem_cons_self rfl
    have hassoc : done ++ [e] ++ es = done ++ e :: es := by simp
    rw [List.foldl_cons, put_of_notMem hnot, ih (hassoc ▸ h), hassoc]

theorem ofList_of_nodup (h : (es.map Prod.fst).Nodup) : ofList es = es :=
  foldl_put_of_nodup (List.nil_append es ▸ h)

theorem filter_put {p : Text → Bool} {name : Text} (h : p name = false) (v : α)
    (es : Entries α) : (put name v es).filter (fun e => p e.1) = es.filter fun e => p e.1 := by
  induction es with
  | nil =>
    rw [put, List.filter_cons_of_neg (by simp [h])]
  | cons e es ih =>
    obtain ⟨n, u⟩ := e
    unfold put
    split
    · next hn =>
      have hdropped : p n = false := by
        rw [beq_iff_eq.mp hn]
        exact h
      simp [hdropped]
    · simp only [List.filter_cons, ih]

theorem get?_eq_none_of_names {names : List String} {name : String}
    (h : ∀ e ∈ es, e.1 ∈ names.map Text.ofString) (hn : name ∉ names) :
    es.get? (Text.ofString name) = none := by
  apply get?_eq_none_iff.mpr
  intro e he heq
  obtain ⟨n, hmem, hname⟩ := List.mem_map.mp (h e he)
  have hsame : n = name := Text.ofString_injective (hname.trans heq)
  exact hn (hsame ▸ hmem)

end Entries

end EmitBridge
