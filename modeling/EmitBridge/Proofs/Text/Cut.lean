import EmitBridge.Text.Cut
import Mathlib.Data.List.Basic

/-! What a text is made of where it is cut: the pieces hold no separator, and pieces without one
are found again. -/

namespace EmitBridge.Cut

variable {sep : Char}

theorem first_of_notMem {s : List Char} (h : sep ∉ s) : first sep s = (s, none) := by
  induction s with
  | nil => rfl
  | cons c s ih =>
    obtain ⟨hc, hs⟩ := not_or.1 (mt List.mem_cons.2 h)
    rw [first, if_neg (by simpa using Ne.symm hc), ih hs]

theorem first_append {s : List Char} (h : sep ∉ s) (rest : List Char) :
    first sep (s ++ sep :: rest) = (s, some rest) := by
  induction s with
  | nil => simp [first]
  | cons c s ih =>
    obtain ⟨hc, hs⟩ := not_or.1 (mt List.mem_cons.2 h)
    rw [List.cons_append, first, if_neg (by simpa using Ne.symm hc), ih hs]

theorem notMem_of_first {s before : List Char} {after : Option (List Char)}
    (h : first sep s = (before, after)) : sep ∉ before := by
  induction s generalizing before after with
  | nil => cases h; exact List.not_mem_nil
  | cons c s ih =>
    rw [first] at h
    split at h
    · cases h
      exact List.not_mem_nil
    · next hc =>
      cases h
      intro hm
      rcases List.mem_cons.1 hm with rfl | hm
      · exact hc (beq_self_eq_true _)
      · exact ih rfl hm

theorem eq_of_first {s before : List Char} {after : Option (List Char)}
    (h : first sep s = (before, after)) :
    s = before ++ (after.map (sep :: ·)).getD [] := by
  induction s generalizing before after with
  | nil => cases h; rfl
  | cons c s ih =>
    rw [first] at h
    split at h
    · next hc =>
      cases h
      rw [beq_iff_eq.1 hc]
      rfl
    · cases h
      exact congrArg (c :: ·) (ih rfl)

theorem first_fst_subset (sep : Char) (s : List Char) : (first sep s).1 ⊆ s := by
  have h : s = (first sep s).1 ++ ((first sep s).2.map (sep :: ·)).getD [] := eq_of_first rfl
  intro c hc
  rw [h]
  exact List.mem_append_left _ hc

theorem first_snd_subset {s before after : List Char} (h : first sep s = (before, some after)) :
    after ⊆ s := by
  intro c hc
  rw [eq_of_first h]
  exact List.mem_append_right _ (List.mem_cons_of_mem _ hc)

theorem last_of_notMem {s : List Char} (h : sep ∉ s) : last sep s = (none, s) := by
  rw [last, first_of_notMem (by rwa [List.mem_reverse])]
  simp

theorem last_append {s : List Char} (before : List Char) (h : sep ∉ s) :
    last sep (before ++ sep :: s) = (some before, s) := by
  have hr : (before ++ sep :: s).reverse = s.reverse ++ sep :: before.reverse := by simp
  rw [last, hr, first_append (by rwa [List.mem_reverse])]
  simp

theorem notMem_of_last {s after : List Char} {before : Option (List Char)}
    (h : last sep s = (before, after)) : sep ∉ after := by
  rw [last] at h
  cases h
  rw [List.mem_reverse]
  exact notMem_of_first rfl

theorem eq_of_last {s after : List Char} {before : Option (List Char)}
    (h : last sep s = (before, after)) :
    s = (before.map (· ++ [sep])).getD [] ++ after := by
  rw [last] at h
  cases hf : first sep s.reverse with
  | mk a b =>
    rw [hf] at h
    cases h
    have he := congrArg List.reverse (eq_of_first hf)
    rw [List.reverse_reverse] at he
    rw [he]
    cases b <;> simp

theorem notMem_of_mem_all {s piece : List Char} (h : piece ∈ all sep s) : sep ∉ piece := by
  induction s generalizing piece with
  | nil =>
    rw [all, List.mem_singleton] at h
    rw [h]
    exact List.not_mem_nil
  | cons c s ih =>
    rw [all] at h
    split at h
    · rcases List.mem_cons.1 h with rfl | h
      · exact List.not_mem_nil
      · exact ih h
    · next hc =>
      cases hall : all sep s with
      | nil => exact absurd hall (all_ne_nil sep s)
      | cons first pieces =>
        rw [hall] at h ih
        have hne : sep ≠ c := fun he => hc (by simp [he])
        rcases List.mem_cons.1 h with rfl | h
        · exact List.not_mem_cons_of_ne_of_not_mem hne (ih List.mem_cons_self)
        · exact ih (List.mem_cons_of_mem _ h)

theorem all_of_notMem {s : List Char} (h : sep ∉ s) : all sep s = [s] := by
  induction s with
  | nil => rfl
  | cons c s ih =>
    obtain ⟨hc, hs⟩ := not_or.1 (mt List.mem_cons.2 h)
    rw [all, if_neg (by simpa using Ne.symm hc), ih hs]

theorem all_append {s : List Char} (h : sep ∉ s) (rest : List Char) :
    all sep (s ++ sep :: rest) = s :: all sep rest := by
  induction s with
  | nil => rw [List.nil_append, all, if_pos (beq_self_eq_true sep)]
  | cons c s ih =>
    obtain ⟨hc, hs⟩ := not_or.1 (mt List.mem_cons.2 h)
    rw [List.cons_append, all, if_neg (by simpa using Ne.symm hc), ih hs]

theorem all_cons_self (rest : List Char) : all sep (sep :: rest) = [] :: all sep rest :=
  all_append List.not_mem_nil rest

theorem all_append_all (s rest : List Char) :
    all sep (s ++ sep :: rest) = all sep s ++ all sep rest := by
  induction s with
  | nil => exact all_cons_self rest
  | cons c s ih =>
    rw [List.cons_append, all, all, ih]
    split
    · rfl
    · cases hall : all sep s with
      | nil => exact absurd hall (all_ne_nil sep s)
      | cons piece pieces => rfl

theorem all_join {pieces : List (List Char)} (hne : pieces ≠ [])
    (h : ∀ piece ∈ pieces, sep ∉ piece) : all sep (join sep pieces) = pieces := by
  induction pieces with
  | nil => exact absurd rfl hne
  | cons piece rest ih =>
    have hp := h piece List.mem_cons_self
    cases rest with
    | nil => rw [join, all_of_notMem hp]
    | cons next rest =>
      rw [join, all_append hp, ih (List.cons_ne_nil _ _)
        fun q hq => h q (List.mem_cons_of_mem _ hq)]
      exact List.cons_ne_nil _ _

theorem mem_join {c : Char} {pieces : List (List Char)} (h : c ∈ join sep pieces) :
    c = sep ∨ ∃ piece ∈ pieces, c ∈ piece := by
  induction pieces with
  | nil => exact absurd h List.not_mem_nil
  | cons piece rest ih =>
    cases rest with
    | nil => exact .inr ⟨piece, List.mem_cons_self, h⟩
    | cons next rest =>
      rw [join, List.mem_append, List.mem_cons] at h
      · rcases h with h | rfl | h
        · exact .inr ⟨piece, List.mem_cons_self, h⟩
        · exact .inl rfl
        · rcases ih h with rfl | ⟨q, hq, hc⟩
          · exact .inl rfl
          · exact .inr ⟨q, List.mem_cons_of_mem _ hq, hc⟩
      · exact List.cons_ne_nil _ _

theorem subset_join {pieces : List (List Char)} {piece : List Char} (h : piece ∈ pieces) :
    piece ⊆ join sep pieces := by
  induction pieces with
  | nil => exact absurd h List.not_mem_nil
  | cons first rest ih =>
    cases rest with
    | nil => exact List.mem_singleton.1 h ▸ List.Subset.refl piece
    | cons next rest =>
      intro c hc
      rw [join, List.mem_append, List.mem_cons]
      · rcases List.mem_cons.1 h with rfl | h
        · exact .inl hc
        · exact .inr (.inr (ih h hc))
      · exact List.cons_ne_nil _ _

theorem subset_of_mem_all {s piece : List Char} (h : piece ∈ all sep s) : piece ⊆ s := by
  have hs : piece ⊆ join sep (all sep s) := subset_join h
  rwa [join_all] at hs

theorem head?_join {pieces : List (List Char)} (h : ∀ piece ∈ pieces, piece ≠ [] ∧ sep ∉ piece) :
    (join sep pieces).head? ≠ some sep := by
  cases pieces with
  | nil => exact nofun
  | cons piece rest =>
    obtain ⟨hne, hsep⟩ := h piece List.mem_cons_self
    cases piece with
    | nil => exact absurd rfl hne
    | cons c piece =>
      have hhead : (join sep ((c :: piece) :: rest)).head? = some c := by
        cases rest <;> rfl
      rw [hhead]
      rintro ⟨⟩
      exact hsep List.mem_cons_self

theorem dropWhile_join {pieces : List (List Char)}
    (h : ∀ piece ∈ pieces, piece ≠ [] ∧ sep ∉ piece) :
    (join sep pieces).dropWhile (· == sep) = join sep pieces := by
  have hhead := head?_join h
  cases hs : join sep pieces with
  | nil => rfl
  | cons c rest =>
    rw [hs] at hhead
    exact List.dropWhile_cons_of_neg fun hc => hhead (congrArg some (beq_iff_eq.1 hc))

theorem map_join {f : Char → Char} {pieces : List (List Char)}
    (h : ∀ piece ∈ pieces, ∀ c ∈ piece, f c = c) :
    (join sep pieces).map f = join (f sep) pieces := by
  induction pieces with
  | nil => rfl
  | cons piece rest ih =>
    have hpiece : piece.map f = piece := (List.map_congr_left (h piece List.mem_cons_self)).trans
      (List.map_id piece)
    have hrest := ih fun piece hp => h piece (List.mem_cons_of_mem _ hp)
    cases rest with
    | nil => exact hpiece
    | cons next more =>
      have hjoin (sep : Char) :
          join sep (piece :: next :: more) = piece ++ sep :: join sep (next :: more) := rfl
      rw [hjoin, hjoin, List.map_append, List.map_cons, hrest, hpiece]

theorem countP_join {p : Char → Bool} (h : p sep = false) (pieces : List (List Char)) :
    (join sep pieces).countP p = pieces.flatten.countP p := by
  induction pieces with
  | nil => rfl
  | cons piece rest ih =>
    rw [List.flatten_cons, List.countP_append, ← ih]
    cases rest with
    | nil => rfl
    | cons next more =>
      rw [join, List.countP_append, List.countP_cons, h]
      · rfl
      · exact List.cons_ne_nil _ _

end EmitBridge.Cut
