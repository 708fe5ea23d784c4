import EmitBridge.Http.Target
import EmitBridge.Proofs.Text.Percent
import EmitBridge.Proofs.Url.Dots

/-! Parts of an address as requests write them. Escapes are made of characters that every part
takes, so that what is quoted is plain, and what is plain is left as it is. -/

namespace EmitBridge.Target

structure TakesEscapes (plain : Char → Bool) : Prop where
  percent : plain '%' = true
  alphanum : ∀ c : Char, c.isAlphanum → plain c = true

theorem takesEscapes_of_decide {plain : Char → Bool} (hpercent : plain '%' = true)
    (h : ∀ n < 0x80, (Char.ofNat n).isAlphanum → plain (Char.ofNat n) = true) :
    TakesEscapes plain :=
  ⟨hpercent, fun _ hc => of_toNat_lt (p := fun c => c.isAlphanum → plain c = true) h
    (toNat_lt_of_isAlphanum hc) hc⟩

theorem takesEscapes_userinfo : TakesEscapes isUserinfoChar :=
  takesEscapes_of_decide rfl (by decide +kernel)

theorem takesEscapes_host : TakesEscapes isHostChar :=
  takesEscapes_of_decide rfl (by decide +kernel)

theorem takesEscapes_path : TakesEscapes isPathChar :=
  takesEscapes_of_decide rfl (by decide +kernel)

theorem takesEscapes_query : TakesEscapes isQueryChar :=
  takesEscapes_of_decide rfl (by decide +kernel)

theorem takesEscapes_fragment : TakesEscapes isFragmentChar :=
  takesEscapes_of_decide rfl (by decide +kernel)

section quote

variable {plain : Char → Bool}

theorem plain_of_mem_escape (h : TakesEscapes plain) {b : UInt8} {c : Char}
    (hc : c ∈ Percent.escape b) : plain c = true := by
  simp only [Percent.escape, List.mem_cons, List.not_mem_nil, or_false] at hc
  rcases hc with rfl | rfl | rfl
  · exact h.percent
  · exact h.alphanum _ (Hex.isAlphanum_upperDigit _)
  · exact h.alphanum _ (Hex.isAlphanum_upperDigit _)

theorem plain_of_mem_encode (h : TakesEscapes plain) {s : List Char} {c : Char}
    (hc : c ∈ Percent.encode plain s) : plain c = true := by
  obtain ⟨d, -, hd⟩ := List.mem_flatMap.mp hc
  split at hd
  · next hplain => exact List.mem_singleton.mp hd ▸ hplain
  · obtain ⟨b, -, hb⟩ := List.mem_flatMap.mp hd
    exact plain_of_mem_escape h hb

theorem isAlphanum_of_byte? {a b : Char} {byte : UInt8} (h : Percent.byte? a b = some byte) :
    a.isAlphanum ∧ b.isAlphanum := by
  obtain ⟨x, hx, h⟩ := Option.bind_eq_some_iff.mp h
  obtain ⟨y, hy, -⟩ := Option.bind_eq_some_iff.mp h
  exact ⟨(Hex.of_value? hx).1, (Hex.of_value? hy).1⟩

theorem plain_of_mem_quote (h : TakesEscapes plain) {s : List Char} {c : Char}
    (hc : c ∈ quote plain s) : plain c = true := by
  fun_induction quote plain s with
  | case1 => exact absurd hc List.not_mem_nil
  | case2 a b rest byte hbyte ih =>
    obtain ⟨ha, hb⟩ := isAlphanum_of_byte? hbyte
    simp only [List.mem_cons] at hc
    rcases hc with rfl | rfl | rfl | hc
    · exact h.percent
    · exact h.alphanum _ ha
    · exact h.alphanum _ hb
    · exact ih hc
  | case3 a b rest hbyte ih =>
    rcases List.mem_append.mp hc with hc | hc
    · exact plain_of_mem_encode h hc
    · exact ih hc
  | case4 d rest hd ih =>
    rcases List.mem_append.mp hc with hc | hc
    · exact plain_of_mem_encode h hc
    · exact ih hc

theorem quote_of_plain {s : List Char} (h : ∀ c ∈ s, plain c = true) : quote plain s = s := by
  fun_induction quote plain s with
  | case1 => rfl
  | case2 a b rest byte hbyte ih =>
    obtain ⟨-, -, -, hrest⟩ : plain '%' = true ∧ plain a = true ∧ plain b = true ∧
        ∀ c ∈ rest, plain c = true := by simpa only [List.forall_mem_cons] using h
    rw [ih hrest]
  | case3 a b rest hbyte ih =>
    obtain ⟨hpercent, hrest⟩ := List.forall_mem_cons.mp h
    rw [Percent.encode_of_plain (List.forall_mem_singleton.mpr hpercent), ih hrest]
    rfl
  | case4 c rest hc ih =>
    obtain ⟨hplain, hrest⟩ := List.forall_mem_cons.mp h
    rw [Percent.encode_of_plain (List.forall_mem_singleton.mpr hplain), ih hrest]
    rfl

theorem quote_cons_of_plain {c : Char} (hne : c ≠ '%') (hc : plain c = true) (s : List Char) :
    quote plain (c :: s) = c :: quote plain s := by
  rw [quote]
  · rw [Percent.encode_of_plain (List.forall_mem_singleton.mpr hc)]
    rfl
  · rintro _ _ _ rfl
    exact absurd rfl hne

end quote

section path

open Url

theorem mem_dotStep {done : List (List Char)} {s t : List Char} (h : t ∈ dotStep done s) :
    t ∈ done ∨ t = s ∧ ¬IsDots s := by
  unfold dotStep at h
  split at h
  · exact .inl h
  · next hdot =>
    split at h
    · split at h
      · exact .inl h
      · exact .inl (List.dropLast_subset _ h)
    · next hdots =>
      rcases List.mem_append.mp h with h | h
      · exact .inl h
      · refine .inr ⟨List.mem_singleton.mp h, ?_⟩
        rintro (rfl | rfl)
        · exact hdot rfl
        · exact hdots rfl

theorem exists_dotStep (more : List (List Char)) (s : List Char) :
    ∃ rest, dotStep ([] :: more) s = [] :: rest := by
  unfold dotStep
  split
  · exact ⟨_, rfl⟩
  · split
    · split
      · exact ⟨_, rfl⟩
      · next hne =>
        cases more with
        | nil => exact absurd rfl hne
        | cons t more => exact ⟨(t :: more).dropLast, rfl⟩
    · exact ⟨more ++ [s], rfl⟩

theorem exists_foldl_dotStep (segments more : List (List Char)) :
    ∃ rest, segments.foldl dotStep ([] :: more) = [] :: rest := by
  induction segments generalizing more with
  | nil => exact ⟨more, rfl⟩
  | cons s segments ih =>
    obtain ⟨rest, hrest⟩ := exists_dotStep more s
    rw [List.foldl_cons, hrest]
    exact ih rest

theorem normalPath_of_undotted {path : List Char} (h : IsUndotted path) :
    normalPath path = path := by
  have hnone {s : List Char} (hs : IsDots s) : (Cut.all '/' path).contains s = false := by
    rw [List.contains_eq_mem, decide_eq_false_iff_not]
    exact fun hm => h s hm hs
  simp only [normalPath, hnone (.inl rfl), hnone (.inr rfl), Bool.or_false, Bool.false_eq_true,
    if_false]

theorem isUndotted_of_contains {path : List Char}
    (h : ¬((Cut.all '/' path).contains ['.'] || (Cut.all '/' path).contains ['.', '.']) = true) :
    IsUndotted path := by
  intro s hs hdots
  refine h ?_
  rw [Bool.or_eq_true, List.contains_iff_mem, List.contains_iff_mem]
  rcases hdots with rfl | rfl
  · exact .inl hs
  · exact .inr hs

theorem normalPath_rooted (rest : List Char) :
    IsRooted (normalPath ('/' :: rest)) ∧ IsUndotted (normalPath ('/' :: rest)) ∧
      normalPath ('/' :: rest) ⊆ '/' :: rest := by
  unfold normalPath
  dsimp only
  split
  -- the piece before the first slash is empty, and no `..` takes it away
  · obtain ⟨segments, hfold⟩ := exists_foldl_dotStep (Cut.all '/' rest) []
    have hresult : (Cut.all '/' ('/' :: rest)).foldl dotStep [] = [] :: segments := by
      rw [Cut.all_cons_self]
      exact hfold
    have hmem : ∀ s ∈ [] :: segments, s ∈ Cut.all '/' ('/' :: rest) ∧ ¬IsDots s := by
      intro s hs
      rw [← hresult] at hs
      exact (mem_foldl_of_step mem_dotStep hs).resolve_left List.not_mem_nil
    have hpieces : Cut.all '/' (Cut.join '/' ([] :: segments)) = [] :: segments :=
      Cut.all_join (List.cons_ne_nil _ _) fun s hs => Cut.notMem_of_mem_all (hmem s hs).1
    rw [hresult]
    refine ⟨?_, ?_, ?_⟩
    · cases segments with
      | nil => exact .inl rfl
      | cons s segments => exact .inr ⟨_, rfl⟩
    · intro s hs
      rw [hpieces] at hs
      exact (hmem s hs).2
    · intro c hc
      rcases Cut.mem_join hc with rfl | ⟨s, hs, hc⟩
      · exact List.mem_cons_self
      · exact Cut.subset_of_mem_all (hmem s hs).1 hc
  · next h => exact ⟨.inr ⟨rest, rfl⟩, isUndotted_of_contains h, List.Subset.refl _⟩

theorem quote_normalPath_eq_self_iff {path : List Char} (hrooted : IsRooted path) :
    quote isPathChar (normalPath path) = path ↔
      (∀ c ∈ path, isPathChar c = true) ∧ IsUndotted path := by
  constructor
  · intro h
    have hplain : ∀ c ∈ path, isPathChar c = true := fun c hc =>
      plain_of_mem_quote takesEscapes_path (h.symm ▸ hc)
    refine ⟨hplain, ?_⟩
    rcases hrooted with rfl | ⟨rest, rfl⟩
    · exact isUndotted_of_notMem List.not_mem_nil
    · obtain ⟨-, hundotted, hsubset⟩ := normalPath_rooted rest
      rw [quote_of_plain fun c hc => hplain c (hsubset hc)] at h
      exact h ▸ hundotted
  · rintro ⟨hplain, hundotted⟩
    rw [normalPath_of_undotted hundotted, quote_of_plain hplain]

theorem isRooted_quote_normalPath {path : List Char} (h : IsRooted path) :
    IsRooted (quote isPathChar (normalPath path)) := by
  rcases h with rfl | ⟨rest, rfl⟩
  · exact .inl rfl
  · rcases (normalPath_rooted rest).1 with hnil | ⟨more, hmore⟩
    · rw [hnil]
      exact .inl rfl
    · rw [hmore, quote_cons_of_plain (by decide) (by decide)]
      exact .inr ⟨_, rfl⟩

end path

end EmitBridge.Target
