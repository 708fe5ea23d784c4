import EmitBridge.Proofs.Json.Scalars

/-! The reader takes exactly the texts of the grammar, each for the value that it denotes. -/

namespace EmitBridge.Json

open EmitBridge.Json.Parser

theorem areBlanks_nil : AreBlanks [] := fun _ h => absurd h List.not_mem_nil

theorem skipBlanks_append {b s : List Char} (hb : AreBlanks b) (hs : ∀ c ∈ s.head?, ¬isBlank c) :
    skipBlanks (b ++ s) = s := by
  rw [skipBlanks, List.dropWhile_append_of_pos hb]
  cases s with
  | nil => rfl
  | cons c s => exact List.dropWhile_cons_of_neg (hs c rfl)

theorem skipBlanks_cons {b rest : List Char} {c : Char} (hb : AreBlanks b) (hc : ¬isBlank c) :
    skipBlanks (b ++ c :: rest) = c :: rest :=
  skipBlanks_append hb fun d hd => by
    cases hd
    exact hc

theorem skipBlanks_sound (s : List Char) :
    ∃ b rest, s = b ++ rest ∧ AreBlanks b ∧ skipBlanks s = rest :=
  ⟨s.takeWhile isBlank, _, List.takeWhile_append_dropWhile.symm,
    List.all_eq_true.mp List.all_takeWhile, rfl⟩

/-! What is read belongs to the grammar. -/

def ValueSound (fuel : Nat) : Prop := ∀ n s v rest, value fuel n s = .ok (v, rest) →
  ∃ t, s = t ++ rest ∧ Denotes n t v

def ElementsSound (fuel : Nat) : Prop := ∀ n s vs rest, elements fuel n s = .ok (vs, rest) →
  ∃ t, s = t ++ rest ∧ DenotesItems n t vs

def MembersSound (fuel : Nat) : Prop := ∀ n s ms rest, members fuel n s = .ok (ms, rest) →
  ∃ t, s = t ++ rest ∧ DenotesMembers n t ms

theorem value_sound {fuel : Nat} (he : ElementsSound fuel) (hm : MembersSound fuel) :
    ValueSound (fuel + 1) := by
  intro n s v rest h
  -- the first character tells strings, arrays and objects from the scalars
  unfold value at h
  split at h
  · next s =>
    obtain ⟨⟨t, tail⟩, hread, hpair⟩ := Run.exists_of_map_eq_ok h
    obtain ⟨rfl, rfl⟩ := Prod.mk.inj hpair
    obtain ⟨q, hq, ht⟩ := string_sound hread
    exact ⟨q, hq, .text ht⟩
  · cases h
  · next s n =>
    obtain ⟨b, s, rfl, hb, hskip⟩ := skipBlanks_sound s
    rw [hskip] at h
    split at h
    · next tail =>
      obtain ⟨rfl, rfl⟩ : Json.arr [] = v ∧ tail = rest := by simpa using h
      exact ⟨'[' :: (b ++ [']']), by simp, .emptyArray hb⟩
    · obtain ⟨⟨vs, tail⟩, hread, hpair⟩ := Run.exists_of_map_eq_ok h
      obtain ⟨rfl, rfl⟩ := Prod.mk.inj hpair
      obtain ⟨t, rfl, hitems⟩ := he _ _ _ _ hread
      exact ⟨'[' :: (b ++ t), by simp, .array hb hitems⟩
  · cases h
  · next s n =>
    obtain ⟨b, s, rfl, hb, hskip⟩ := skipBlanks_sound s
    rw [hskip] at h
    split at h
    · next tail =>
      obtain ⟨rfl, rfl⟩ : Json.obj [] = v ∧ tail = rest := by simpa using h
      exact ⟨'\x7b' :: (b ++ ['\x7d']), by simp, .emptyObject hb⟩
    · obtain ⟨⟨ms, tail⟩, hread, hpair⟩ := Run.exists_of_map_eq_ok h
      obtain ⟨rfl, rfl⟩ := Prod.mk.inj hpair
      obtain ⟨t, rfl, hmembers⟩ := hm _ _ _ _ hread
      exact ⟨'\x7b' :: (b ++ t), by simp, .object hb hmembers⟩
  · obtain ⟨t, rfl, ht⟩ := scalar_sound h
    exact ⟨t, rfl, .scalar ht⟩

theorem elements_sound {fuel : Nat} (hv : ValueSound fuel) (he : ElementsSound fuel) :
    ElementsSound (fuel + 1) := by
  intro n s vs rest h
  rw [elements] at h
  obtain ⟨⟨v, tail⟩, hread, hnext⟩ := Run.exists_of_bind_eq_ok h
  obtain ⟨t, rfl, ht⟩ := hv _ _ _ _ hread
  obtain ⟨b, tail, rfl, hb, hskip⟩ := skipBlanks_sound tail
  simp only [hskip] at hnext
  split at hnext
  · next tail =>
    obtain ⟨rfl, rfl⟩ : [v] = vs ∧ tail = rest := by simpa using hnext
    exact ⟨t ++ (b ++ [']']), by simp, .last ht hb⟩
  · next tail =>
    obtain ⟨b', tail, rfl, hb', hskip⟩ := skipBlanks_sound tail
    obtain ⟨⟨ws, tail'⟩, hmore, hpair⟩ := Run.exists_of_bind_eq_ok hnext
    obtain ⟨rfl, rfl⟩ : v :: ws = vs ∧ tail' = rest := by simpa using hpair
    rw [hskip] at hmore
    obtain ⟨u, rfl, hu⟩ := he _ _ _ _ hmore
    exact ⟨t ++ (b ++ ',' :: (b' ++ u)), by simp, .cons ht hb hb' hu⟩
  · cases hnext

theorem members_sound {fuel : Nat} (hv : ValueSound fuel) (hm : MembersSound fuel) :
    MembersSound (fuel + 1) := by
  intro n s ms rest h
  unfold members at h
  split at h
  · next s =>
    obtain ⟨⟨name, tail⟩, hname, hcolon⟩ := Run.exists_of_bind_eq_ok h
    obtain ⟨q, hs, hq⟩ := string_sound hname
    rw [hs]
    obtain ⟨b₁, tail, rfl, hb₁, hskip₁⟩ := skipBlanks_sound tail
    simp only [hskip₁] at hcolon
    split at hcolon
    · next tail =>
      obtain ⟨b₂, tail, rfl, hb₂, hskip₂⟩ := skipBlanks_sound tail
      rw [hskip₂] at hcolon
      obtain ⟨⟨v, tail'⟩, hread, hnext⟩ := Run.exists_of_bind_eq_ok hcolon
      obtain ⟨t, rfl, ht⟩ := hv _ _ _ _ hread
      obtain ⟨b₃, tail', rfl, hb₃, hskip₃⟩ := skipBlanks_sound tail'
      simp only [hskip₃] at hnext
      split at hnext
      · next tail' =>
        obtain ⟨rfl, rfl⟩ : [(name, v)] = ms ∧ tail' = rest := by simpa using hnext
        exact ⟨_, by simp, .last hq ht hb₁ hb₂ hb₃⟩
      · next tail' =>
        obtain ⟨b₄, tail', rfl, hb₄, hskip₄⟩ := skipBlanks_sound tail'
        obtain ⟨⟨ms', tail'⟩, hmore, hpair⟩ := Run.exists_of_bind_eq_ok hnext
        obtain ⟨rfl, rfl⟩ : (name, v) :: ms' = ms ∧ tail' = rest := by simpa using hpair
        rw [hskip₄] at hmore
        obtain ⟨u, rfl, hu⟩ := hm _ _ _ _ hmore
        exact ⟨_, by simp, .cons hq ht hb₁ hb₂ hb₃ hb₄ hu⟩
      · cases hnext
    · cases hcolon
  · cases h

theorem reader_sound (fuel : Nat) : ValueSound fuel ∧ ElementsSound fuel ∧ MembersSound fuel := by
  induction fuel with
  | zero =>
    refine ⟨?_, ?_, ?_⟩ <;> intro n s v rest h
    · simp [value] at h
    · simp [elements] at h
    · simp [members] at h
  | succ fuel ih =>
    obtain ⟨hv, he, hm⟩ := ih
    exact ⟨value_sound he hm, elements_sound hv he, members_sound hv hm⟩

/-! What belongs to the grammar is read. -/

theorem Ends.endsNumber {rest : List Char} (h : Ends rest) : EndsNumber rest := by
  have hall : ∀ c ∈ [' ', '\t', '\n', '\r', ',', ']', '\x7d'],
      ¬c.isDigit ∧ '.' ≠ c ∧ 'e' ≠ c ∧ 'E' ≠ c :=
    forall_mem_of_all (by decide)
  have hone : ∀ c ∈ rest.head?, ¬c.isDigit ∧ '.' ≠ c ∧ 'e' ≠ c ∧ 'E' ≠ c := fun c hc =>
    hall c (by simpa [isBlank, or_assoc] using h c hc)
  exact ⟨fun c hc => (hone c hc).1, fun hc => (hone _ hc).2.1 rfl,
    fun hc => (hone _ hc).2.2.1 rfl, fun hc => (hone _ hc).2.2.2 rfl⟩

theorem ends_append {b rest : List Char} (hb : AreBlanks b) (h : Ends rest) : Ends (b ++ rest) := by
  cases b with
  | nil => exact h
  | cons c b => simp [Ends, hb c List.mem_cons_self]

theorem ends_cons {c : Char} (hc : c ∈ [',', ']', '\x7d']) (rest : List Char) :
    Ends (c :: rest) := by
  rintro d ⟨⟩
  exact .inr hc

theorem DenotesText.head {s : List Char} {t : Text} (h : DenotesText s t) : ∃ r, s = '"' :: r := by
  cases h with
  | quoted _ _ => exact ⟨_, rfl⟩

def marks : List Char := [' ', '\t', '\n', '\r', '"', '[', ']', '\x7b', '\x7d', '\uFEFF']

theorem DenotesScalar.head {s : List Char} {v : Json} (h : DenotesScalar s v) :
    ∃ c t, s = c :: t ∧ c ∉ marks := by
  have hmarks : ∀ c ∈ marks, ¬c.isDigit := forall_mem_of_all (by decide)
  cases h with
  | @literal name _ hl =>
    have hall : ∀ l ∈ literals, (l.1.toList.head?.any fun c => !marks.contains c) = true := by
      decide
    have hname := hall _ hl
    cases hs : name.toList with
    | nil => simp [hs] at hname
    | cons c t => exact ⟨c, t, rfl, by simpa [hs] using hname⟩
  | number h =>
    obtain ⟨c, t, rfl, hc⟩ := h.head
    exact ⟨c, t, rfl, fun hmark => hmarks c hmark hc⟩
  | negative h => exact ⟨'-', _, rfl, by decide⟩

theorem not_isBlank_of_notMem_marks {c : Char} (hc : c ∉ marks) : ¬isBlank c := by
  simp only [marks, List.mem_cons, not_or] at hc
  simp [isBlank, hc]

theorem Denotes.head {n : Nat} {s : List Char} {v : Json} (h : Denotes n s v) :
    ∃ c t, s = c :: t ∧ ¬isBlank c ∧ c ∉ [']', '\uFEFF'] := by
  cases h with
  | scalar h =>
    obtain ⟨c, t, rfl, hc⟩ := h.head
    refine ⟨c, t, rfl, not_isBlank_of_notMem_marks hc, fun hmem => hc ?_⟩
    have hsub : [']', '\uFEFF'] ⊆ marks := by simp [marks]
    exact hsub hmem
  | text h =>
    obtain ⟨r, rfl⟩ := h.head
    exact ⟨_, _, rfl, by decide⟩
  | _ => exact ⟨_, _, rfl, by decide⟩

theorem DenotesItems.head {n : Nat} {s : List Char} {vs : List Json} (h : DenotesItems n s vs) :
    ∃ c t, s = c :: t ∧ ¬isBlank c ∧ c ∉ [']', '\uFEFF'] := by
  cases h with
  | last h _ | cons h _ _ _ =>
    obtain ⟨c, t, rfl, hc⟩ := h.head
    exact ⟨c, _, rfl, hc⟩

theorem DenotesMembers.head {n : Nat} {s : List Char} {ms : List (Text × Json)}
    (h : DenotesMembers n s ms) : ∃ r, s = '"' :: r := by
  cases h with
  | last h | cons h =>
    obtain ⟨r, rfl⟩ := h.head
    exact ⟨_, rfl⟩

def ValueComplete (fuel : Nat) : Prop := ∀ n s v rest, Denotes n s v → Ends rest →
  2 * s.length ≤ fuel → value fuel n (s ++ rest) = .ok (v, rest)

def ElementsComplete (fuel : Nat) : Prop := ∀ n s vs rest, DenotesItems n s vs →
  2 * s.length < fuel → elements fuel n (s ++ rest) = .ok (vs, rest)

def MembersComplete (fuel : Nat) : Prop := ∀ n s ms rest, DenotesMembers n s ms →
  2 * s.length < fuel → members fuel n (s ++ rest) = .ok (ms, rest)

theorem value_of_scalar {fuel n : Nat} {s rest : List Char} {v : Json} (h : DenotesScalar s v)
    (hrest : Ends rest) : value (fuel + 1) n (s ++ rest) = .ok (v, rest) := by
  obtain ⟨c, t, rfl, hc⟩ := h.head
  have hread := scalar_complete h hrest.endsNumber
  simp only [marks, List.mem_cons, not_or] at hc
  rw [List.cons_append] at hread ⊢
  rw [value]
  · exact hread
  all_goals simp [hc]

theorem value_of_text {fuel n : Nat} {s : List Char} {t : Text} (h : DenotesText s t)
    (rest : List Char) : value (fuel + 1) n (s ++ rest) = .ok (.str t, rest) := by
  obtain ⟨r, rfl⟩ := h.head
  have hread := string_complete h rest
  rw [List.cons_append] at hread ⊢
  rw [value, hread]
  rfl

theorem value_of_items {fuel n : Nat} {b s rest : List Char} {vs : List Json} (hb : AreBlanks b)
    (h : DenotesItems n s vs) (hread : elements fuel n (s ++ rest) = .ok (vs, rest)) :
    value (fuel + 1) (n + 1) ('[' :: (b ++ s) ++ rest) = .ok (.arr vs, rest) := by
  obtain ⟨c, t, hs, hc, hne⟩ := h.head
  rw [hs, List.cons_append] at hread
  rw [List.cons_append, value, List.append_assoc, hs, List.cons_append, skipBlanks_cons hb hc]
  split
  · next heq => exact absurd (List.cons.inj heq).1 (by simp_all)
  · rw [hread]
    rfl

theorem value_of_members {fuel n : Nat} {b s rest : List Char} {ms : List (Text × Json)}
    (hb : AreBlanks b) (h : DenotesMembers n s ms)
    (hread : members fuel n (s ++ rest) = .ok (ms, rest)) :
    value (fuel + 1) (n + 1) ('\x7b' :: (b ++ s) ++ rest) =
      .ok (.obj (Entries.ofList ms), rest) := by
  obtain ⟨r, hs⟩ := h.head
  rw [hs, List.cons_append] at hread
  rw [List.cons_append, value, List.append_assoc, hs, List.cons_append,
    skipBlanks_cons hb (by decide)]
  split
  · next heq => exact absurd (List.cons.inj heq).1 (by decide)
  · rw [hread]
    rfl

theorem value_complete {fuel : Nat} (he : ElementsComplete fuel) (hm : MembersComplete fuel) :
    ValueComplete (fuel + 1) := by
  intro n s v rest h hrest hfuel
  cases h with
  | scalar h => exact value_of_scalar h hrest
  | text h => exact value_of_text h rest
  | emptyArray hb =>
    rw [List.cons_append, value, List.append_assoc, List.singleton_append,
      skipBlanks_cons hb (by decide)]
    rfl
  | array hb h => exact value_of_items hb h (he _ _ _ _ h (by simp at hfuel; omega))
  | emptyObject hb =>
    rw [List.cons_append, value, List.append_assoc, List.singleton_append,
      skipBlanks_cons hb (by decide)]
    rfl
  | object hb h => exact value_of_members hb h (hm _ _ _ _ h (by simp at hfuel; omega))

theorem skipBlanks_value {n : Nat} {b s rest : List Char} {v : Json} (hb : AreBlanks b)
    (hs : Denotes n s v) : skipBlanks (b ++ (s ++ rest)) = s ++ rest := by
  obtain ⟨c, t, rfl, hc, _⟩ := hs.head
  exact skipBlanks_cons hb hc

theorem elements_complete {fuel : Nat} (hv : ValueComplete fuel) (he : ElementsComplete fuel) :
    ElementsComplete (fuel + 1) := by
  intro n s vs rest h hfuel
  cases h with
  | @last _ s b v hs hb =>
    have hend : Ends (b ++ ']' :: rest) := ends_append hb (ends_cons (by decide) _)
    have hread := hv n s v _ hs hend (by simp at hfuel; omega)
    simp only [List.append_assoc, List.singleton_append]
    rw [elements, hread]
    simp only [bind, Except.bind, skipBlanks_cons hb (show ¬isBlank ']' by decide)]
  | @cons _ s t b₁ b₂ v vs hs hb₁ hb₂ ht =>
    have hend : Ends (b₁ ++ ',' :: (b₂ ++ (t ++ rest))) :=
      ends_append hb₁ (ends_cons (by decide) _)
    have hread := hv n s v _ hs hend (by simp at hfuel; omega)
    have hmore := he n t vs rest ht (by simp at hfuel; omega)
    obtain ⟨c, r, htail, hc, _⟩ := ht.head
    have hskip : skipBlanks (b₂ ++ (t ++ rest)) = t ++ rest := by
      rw [htail]
      exact skipBlanks_cons hb₂ hc
    simp only [List.append_assoc, List.cons_append]
    rw [elements, hread]
    simp only [bind, Except.bind, skipBlanks_cons hb₁ (show ¬isBlank ',' by decide), hskip, hmore]

theorem members_complete {fuel : Nat} (hv : ValueComplete fuel) (hm : MembersComplete fuel) :
    MembersComplete (fuel + 1) := by
  intro n s ms rest h hfuel
  cases h with
  | @last _ q s b₁ b₂ b₃ name v hq hs hb₁ hb₂ hb₃ =>
    obtain ⟨r, rfl⟩ := hq.head
    have hname := string_complete hq (b₁ ++ ':' :: (b₂ ++ (s ++ (b₃ ++ '\x7d' :: rest))))
    have hend : Ends (b₃ ++ '\x7d' :: rest) := ends_append hb₃ (ends_cons (by decide) _)
    have hread := hv n s v _ hs hend (by simp at hfuel; omega)
    simp only [List.append_assoc, List.cons_append, List.nil_append] at hname ⊢
    rw [members, hname]
    simp only [bind, Except.bind, skipBlanks_cons hb₁ (show ¬isBlank ':' by decide),
      skipBlanks_value hb₂ hs, hread, skipBlanks_cons hb₃ (show ¬isBlank '\x7d' by decide)]
  | @cons _ q s t b₁ b₂ b₃ b₄ name v ms hq hs hb₁ hb₂ hb₃ hb₄ ht =>
    obtain ⟨r, rfl⟩ := hq.head
    have hname := string_complete hq
      (b₁ ++ ':' :: (b₂ ++ (s ++ (b₃ ++ ',' :: (b₄ ++ (t ++ rest))))))
    have hend : Ends (b₃ ++ ',' :: (b₄ ++ (t ++ rest))) :=
      ends_append hb₃ (ends_cons (by decide) _)
    have hread := hv n s v _ hs hend (by simp at hfuel; omega)
    have hmore := hm n t ms rest ht (by simp at hfuel; omega)
    obtain ⟨r', htail⟩ := ht.head
    have hskip : skipBlanks (b₄ ++ (t ++ rest)) = t ++ rest := by
      rw [htail]
      exact skipBlanks_cons hb₄ (by decide)
    simp only [List.append_assoc, List.cons_append] at hname ⊢
    rw [members, hname]
    simp only [bind, Except.bind, skipBlanks_cons hb₁ (show ¬isBlank ':' by decide),
      skipBlanks_value hb₂ hs, hread, skipBlanks_cons hb₃ (show ¬isBlank ',' by decide), hskip,
      hmore]

theorem reader_complete (fuel : Nat) :
    ValueComplete fuel ∧ ElementsComplete fuel ∧ MembersComplete fuel := by
  induction fuel with
  | zero =>
    refine ⟨?_, ?_, ?_⟩
    · intro n s v rest h _ hfuel
      obtain ⟨c, t, rfl, _⟩ := h.head
      simp at hfuel
    · intro n s vs rest h hfuel
      omega
    · intro n s ms rest h hfuel
      omega
  | succ fuel ih =>
    obtain ⟨hv, he, hm⟩ := ih
    exact ⟨value_complete he hm, elements_complete hv he, members_complete hv hm⟩

theorem document_sound {n : Nat} {s : List Char} {v : Json} (h : document n s = .ok v) :
    IsDocument n s v := by
  unfold document at h
  split at h
  · cases h
  · obtain ⟨b₁, s, rfl, hb₁, hskip⟩ := skipBlanks_sound s
    rw [hskip] at h
    obtain ⟨⟨w, rest⟩, hread, hend⟩ := Run.exists_of_bind_eq_ok h
    obtain ⟨t, rfl, ht⟩ := (reader_sound _).1 _ _ _ _ hread
    obtain ⟨b₂, tail, rfl, hb₂, hskip⟩ := skipBlanks_sound rest
    simp only [hskip] at hend
    split at hend
    · obtain rfl := Except.ok.inj hend
      exact ⟨b₁, t, b₂, hb₁, hb₂, by simp, ht⟩
    · cases hend

theorem document_complete {n : Nat} {s : List Char} {v : Json} (h : IsDocument n s v) :
    document n s = .ok v := by
  obtain ⟨b₁, t, b₂, hb₁, hb₂, rfl, ht⟩ := h
  have hmark : ∀ r, b₁ ++ (t ++ b₂) ≠ '\uFEFF' :: r := by
    intro r heq
    cases b₁ with
    | nil =>
      obtain ⟨c, u, rfl, _, hc⟩ := ht.head
      rw [(List.cons.inj heq).1] at hc
      exact hc (by decide)
    | cons c b =>
      have hc := hb₁ c List.mem_cons_self
      rw [(List.cons.inj heq).1] at hc
      exact absurd hc (by decide)
  have hend : skipBlanks b₂ = [] := by
    have hskip := skipBlanks_append (s := []) hb₂ (by simp)
    rwa [List.append_nil] at hskip
  have hlast : Ends b₂ := fun c hc => .inl (hb₂ c (List.mem_of_mem_head? hc))
  have hread := (reader_complete (2 * (b₁ ++ (t ++ b₂)).length + 2)).1 n t v b₂ ht hlast
    (by simp; omega)
  rw [document]
  · rw [skipBlanks_value hb₁ ht]
    simp only [bind, Except.bind, hread, hend]
  · exact hmark

/-- A text is read exactly if it is one of the grammar and there is room for it, as the value that
it denotes. -/
theorem parse_eq_ok_iff {n : Nat} {s : List Char} {v : Json} :
    parse n s = .ok v ↔ IsDocument n s v := by
  have hparse : parse n s = .ok v ↔ document n s = .ok v := by
    rw [parse]
    split <;> simp_all
  rw [hparse]
  exact ⟨document_sound, document_complete⟩

end EmitBridge.Json
