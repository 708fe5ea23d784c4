import EmitBridge.Proofs.Text.Percent
import EmitBridge.Proofs.Url.Split

/-! Dot segments of a path. Resolving them leaves none behind, and leaves a path without them as it
is. -/

namespace EmitBridge.Url

def IsDots (segment : List Char) : Prop := segment = ['.'] ∨ segment = ['.', '.']

def IsUndotted (path : List Char) : Prop := ∀ s ∈ Cut.all '/' path, ¬IsDots s

theorem resolveSegments_eq (segments : List (List Char)) :
    resolveSegments segments =
      match segments.getLast? with
      | some s =>
        if s == ['.'] || s == ['.', '.'] then segments.foldl resolveStep [] ++ [[]]
        else segments.foldl resolveStep []
      | none => segments.foldl resolveStep [] := rfl

theorem mem_resolveStep {done : List (List Char)} {s t : List Char} (h : t ∈ resolveStep done s) :
    t ∈ done ∨ t = s ∧ ¬IsDots s := by
  unfold resolveStep at h
  split at h
  · exact .inl (List.dropLast_subset _ h)
  · split at h
    · exact .inl h
    · next h2 h1 =>
      rcases List.mem_append.1 h with h | h
      · exact .inl h
      · refine .inr ⟨List.mem_singleton.1 h, ?_⟩
        rintro (rfl | rfl)
        · exact h1 rfl
        · exact h2 rfl

theorem mem_foldl_of_step {step : List (List Char) → List Char → List (List Char)}
    (hstep : ∀ {done s t}, t ∈ step done s → t ∈ done ∨ t = s ∧ ¬IsDots s)
    {segments done : List (List Char)} {t : List Char} (h : t ∈ segments.foldl step done) :
    t ∈ done ∨ t ∈ segments ∧ ¬IsDots t := by
  induction segments generalizing done with
  | nil => exact .inl h
  | cons s segments ih =>
    rcases ih h with h | ⟨hm, hd⟩
    · rcases hstep h with h | ⟨rfl, hd⟩
      · exact .inl h
      · exact .inr ⟨List.mem_cons_self, hd⟩
    · exact .inr ⟨List.mem_cons_of_mem _ hm, hd⟩

theorem foldl_resolveStep_of_undotted {segments : List (List Char)} (h : ∀ s ∈ segments, ¬IsDots s)
    (done : List (List Char)) :
    segments.foldl resolveStep done = done ++ segments := by
  induction segments generalizing done with
  | nil => rw [List.foldl_nil, List.append_nil]
  | cons s segments ih =>
    have hs := h s List.mem_cons_self
    have hstep : resolveStep done s = done ++ [s] := by
      rw [resolveStep, if_neg (fun he => hs (.inr (beq_iff_eq.1 he))),
        if_neg (fun he => hs (.inl (beq_iff_eq.1 he)))]
    rw [List.foldl_cons, hstep, ih fun t ht => h t (List.mem_cons_of_mem _ ht), List.append_assoc]
    rfl

theorem not_isDots_nil : ¬IsDots [] := by rintro (h | h) <;> cases h

theorem mem_resolveSegments {segments : List (List Char)} {t : List Char}
    (h : t ∈ resolveSegments segments) : (t ∈ segments ∨ t = []) ∧ ¬IsDots t := by
  have hfold (h : t ∈ segments.foldl resolveStep []) : (t ∈ segments ∨ t = []) ∧ ¬IsDots t := by
    rcases mem_foldl_of_step mem_resolveStep h with h | ⟨hm, hd⟩
    · exact absurd h List.not_mem_nil
    · exact ⟨.inl hm, hd⟩
  rw [resolveSegments_eq] at h
  split at h
  · split at h
    · rcases List.mem_append.1 h with h | h
      · exact hfold h
      · rw [List.mem_singleton.1 h]
        exact ⟨.inr rfl, not_isDots_nil⟩
    · exact hfold h
  · exact hfold h

theorem resolveSegments_of_undotted {segments : List (List Char)}
    (h : ∀ s ∈ segments, ¬IsDots s) : resolveSegments segments = segments := by
  rw [resolveSegments_eq, foldl_resolveStep_of_undotted h, List.nil_append]
  split
  · next s hs =>
    have hd := h s (List.mem_of_getLast? hs)
    split
    · next he =>
      rw [Bool.or_eq_true, beq_iff_eq, beq_iff_eq] at he
      exact absurd he hd
    · rfl
  · rfl

theorem resolveSegments_ne_nil {segments : List (List Char)} (h : segments ≠ []) :
    resolveSegments segments ≠ [] := by
  obtain ⟨init, last, rfl⟩ := (List.eq_nil_or_concat segments).resolve_left h
  rw [List.concat_eq_append, resolveSegments_eq, List.getLast?_append_cons, List.foldl_append]
  simp only [List.getLast?_singleton, List.foldl_cons, List.foldl_nil]
  split
  · simp
  · next hd =>
    rw [Bool.or_eq_true, beq_iff_eq, beq_iff_eq, not_or] at hd
    rw [resolveStep, if_neg (by simpa using hd.2), if_neg (by simpa using hd.1)]
    simp

theorem all_normalPath (rest : List Char) :
    Cut.all '/' (Cut.join '/' (resolveSegments (Cut.all '/' rest))) =
      resolveSegments (Cut.all '/' rest) := by
  refine Cut.all_join (resolveSegments_ne_nil (Cut.all_ne_nil '/' rest)) fun s hs => ?_
  rcases (mem_resolveSegments hs).1 with hs | rfl
  · exact Cut.notMem_of_mem_all hs
  · exact List.not_mem_nil

theorem isUndotted_slash (rest : List Char) : IsUndotted ('/' :: rest) ↔ IsUndotted rest := by
  rw [IsUndotted, Cut.all_cons_self, List.forall_mem_cons]
  exact and_iff_right not_isDots_nil

theorem isUndotted_of_notMem {path : List Char} (h : '.' ∉ path) : IsUndotted path := by
  intro s hs hd
  refine h (Cut.subset_of_mem_all hs ?_)
  rcases hd with rfl | rfl <;> exact List.mem_cons_self

theorem normalPath_eq_self_iff (rest : List Char) :
    normalPath ('/' :: rest) = '/' :: rest ↔ IsUndotted ('/' :: rest) := by
  rw [isUndotted_slash, normalPath, List.cons_inj_right]
  constructor
  · intro h s hs
    rw [← h, all_normalPath] at hs
    exact (mem_resolveSegments hs).2
  · intro h
    rw [resolveSegments_of_undotted h, Cut.join_all]

theorem normalPathIfDotted_eq_self_iff (rest : List Char) :
    normalPathIfDotted ('/' :: rest) = '/' :: rest ↔ IsUndotted ('/' :: rest) := by
  rw [normalPathIfDotted]
  split
  · exact normalPath_eq_self_iff rest
  · next h => exact iff_of_true rfl (isUndotted_of_notMem (by simpa using h))

section Quoted

open Percent.Part

variable {p : Percent.Part}

theorem quoted_join (hs : p.plain '/') {pieces : List (List Char)}
    (h : ∀ s ∈ pieces, p.Quoted s) : p.Quoted (Cut.join '/' pieces) := by
  induction pieces with
  | nil => exact .nil
  | cons s rest ih =>
    have hq := h s List.mem_cons_self
    cases rest with
    | nil => exact hq
    | cons next rest =>
      rw [Cut.join]
      · exact hq.append (.plain hs (ih fun t ht => h t (List.mem_cons_of_mem _ ht)))
      · exact List.cons_ne_nil _ _

theorem quoted_of_join {pieces : List (List Char)} (h : p.Quoted (Cut.join '/' pieces)) :
    ∀ s ∈ pieces, p.Quoted s := by
  induction pieces with
  | nil => exact fun s hs => absurd hs List.not_mem_nil
  | cons s rest ih =>
    cases rest with
    | nil => exact fun t ht => List.mem_singleton.1 ht ▸ h
    | cons next rest =>
      rw [Cut.join] at h
      · obtain ⟨hs, hrest⟩ := quoted_divide (by decide) rfl h
        exact List.forall_mem_cons.2 ⟨hs, ih hrest⟩
      · exact List.cons_ne_nil _ _

theorem quoted_normalPath (hp : p.IsProper) (hs : p.plain '/') {rest : List Char}
    (h : p.Quoted ('/' :: rest)) : p.Quoted (normalPath ('/' :: rest)) := by
  rw [quoted_plain_iff hp hs, ← Cut.join_all '/' rest] at h
  rw [normalPath]
  refine .plain hs (quoted_join hs fun s hm => ?_)
  rcases (mem_resolveSegments hm).1 with hm | rfl
  · exact quoted_of_join h s hm
  · exact .nil

theorem quoted_normalPathIfDotted (hp : p.IsProper) (hs : p.plain '/') {rest : List Char}
    (h : p.Quoted ('/' :: rest)) : p.Quoted (normalPathIfDotted ('/' :: rest)) := by
  rw [normalPathIfDotted]
  split
  · exact quoted_normalPath hp hs h
  · exact h

end Quoted

end EmitBridge.Url
