import EmitBridge.Proofs.FilePath.Chars

/-! Normal forms of absolute paths. A normal form is a root with names below it, and it is read as
just these. -/

namespace EmitBridge.PosixPath

def IsSegment (segment : List Char) : Prop := isProper segment = true ∧ '/' ∉ segment

def IsName (segment : List Char) : Prop := IsSegment segment ∧ segment ≠ ['.', '.']

def IsRoot (root : List Char) : Prop := root = ['/'] ∨ root = ['/', '/']

def names (s : List Char) : List (List Char) :=
  (Cut.all '/' (splitRoot s).2).foldl (step true) []

theorem isName_step {done : List (List Char)} (hdone : ∀ t ∈ done, IsName t) {segment : List Char}
    (hs : '/' ∉ segment) : ∀ t ∈ step true done segment, IsName t := by
  unfold step
  split
  · exact hdone
  · next hproper =>
    have hadd (h : segment ≠ ['.', '.']) : ∀ t ∈ done ++ [segment], IsName t := by
      intro t ht
      rcases List.mem_append.1 ht with ht | ht
      · exact hdone t ht
      · rw [List.mem_singleton.1 ht]
        refine ⟨⟨?_, hs⟩, h⟩
        simpa [isProper] using hproper
    split
    · next hup => exact hadd (by simpa using hup)
    · split
      · exact hdone
      · next last hlast =>
        -- no name is `..`, so that the last one is taken back
        have hname : IsName last := hdone last (List.mem_of_getLast? hlast)
        rw [if_neg (by simpa using hname.2)]
        exact fun t ht => hdone t (List.dropLast_subset _ ht)

theorem isName_foldl_step {segments done : List (List Char)} (hdone : ∀ t ∈ done, IsName t)
    (hs : ∀ t ∈ segments, '/' ∉ t) : ∀ t ∈ segments.foldl (step true) done, IsName t := by
  induction segments generalizing done with
  | nil => exact hdone
  | cons segment segments ih =>
    refine ih (isName_step hdone (hs segment List.mem_cons_self)) ?_
    exact fun t ht => hs t (List.mem_cons_of_mem _ ht)

theorem isName_names (s : List Char) : ∀ t ∈ names s, IsName t :=
  isName_foldl_step nofun fun _ ht => Cut.notMem_of_mem_all ht

theorem isSegment_names (s : List Char) : ∀ t ∈ names s, IsSegment t := fun t ht =>
  (isName_names s t ht).1

theorem step_of_isName {segment : List Char} (h : IsName segment) (done : List (List Char)) :
    step true done segment = done ++ [segment] := by
  obtain ⟨⟨hproper, -⟩, hup⟩ := h
  have hstays : ¬(segment.isEmpty || segment == ['.']) = true := by
    simpa [isProper] using hproper
  rw [step, if_neg hstays, if_pos (by simpa using hup)]

theorem foldl_step_names {pieces : List (List Char)} (h : ∀ t ∈ pieces, IsName t)
    (done : List (List Char)) : pieces.foldl (step true) done = done ++ pieces := by
  induction pieces generalizing done with
  | nil => exact (List.append_nil done).symm
  | cons piece pieces ih =>
    rw [List.foldl_cons, step_of_isName (h piece List.mem_cons_self),
      ih fun t ht => h t (List.mem_cons_of_mem _ ht), List.append_assoc]
    rfl

theorem isRoot_splitRoot (rest : List Char) : IsRoot (splitRoot ('/' :: rest)).1 := by
  have hlen : (rest.dropWhile (· == '/')).length ≤ rest.length :=
    (List.dropWhile_sublist _).length_le
  unfold splitRoot
  rw [List.dropWhile_cons_of_pos (by rfl), List.length_cons]
  simp only
  split
  · next h => omega
  · exact .inr rfl
  · exact .inl rfl

theorem isAbsolute_ofChars_slash (rest : List Char) :
    (ofChars ('/' :: rest)).isAbsolute = true := by
  rw [isAbsolute, ofChars]
  rcases isRoot_splitRoot rest with h | h <;> simp only [h] <;> rfl

theorem normal_eq (rest : List Char) :
    normal ('/' :: rest) =
      (splitRoot ('/' :: rest)).1 ++ Cut.join '/' (names ('/' :: rest)) := by
  unfold normal names
  simp only
  rcases isRoot_splitRoot rest with h | h <;> rw [h] <;> rfl

theorem head?_join {pieces : List (List Char)} (h : ∀ t ∈ pieces, IsSegment t) :
    (Cut.join '/' pieces).head? ≠ some '/' := by
  refine Cut.head?_join fun t ht => ⟨?_, (h t ht).2⟩
  rintro rfl
  exact absurd (h [] ht).1 (by decide)

theorem splitRoot_append {root s : List Char} (hroot : IsRoot root) (hs : s.head? ≠ some '/') :
    splitRoot (root ++ s) = (root, s) := by
  have hstop : s.dropWhile (· == '/') = s := by
    cases s with
    | nil => rfl
    | cons c s => exact List.dropWhile_cons_of_neg fun hc => hs (congrArg some (beq_iff_eq.1 hc))
  have hdrop : (root ++ s).dropWhile (· == '/') = s := by
    rcases hroot with rfl | rfl <;> exact hstop
  have hlen : (root ++ s).length - s.length = root.length := by
    rw [List.length_append, Nat.add_sub_cancel]
  unfold splitRoot
  simp only [hdrop, hlen]
  rcases hroot with rfl | rfl <;> rfl

theorem filter_all_join {sep : Char} {keep : List Char → Bool} (hnil : keep [] = false)
    {pieces : List (List Char)} (hkeep : ∀ t ∈ pieces, keep t = true)
    (hslash : ∀ t ∈ pieces, sep ∉ t) :
    (Cut.all sep (Cut.join sep pieces)).filter keep = pieces := by
  by_cases hne : pieces = []
  · subst hne
    exact List.filter_cons_of_neg (ne_true_of_eq_false hnil)
  · rw [Cut.all_join hne hslash]
    exact List.filter_eq_self.2 hkeep

theorem toChars_ne_nil (p : PosixPath) : p.toChars ≠ [] := by
  rw [toChars]
  generalize p.root.toList ++ Cut.join '/' (p.parts.map String.toList) = s
  cases s <;> exact List.cons_ne_nil _ _

theorem toChars_ofChars {root : List Char} (hroot : IsRoot root) {pieces : List (List Char)}
    (h : ∀ t ∈ pieces, IsSegment t) :
    (ofChars (root ++ Cut.join '/' pieces)).toChars = root ++ Cut.join '/' pieces := by
  have hparts : (Cut.all '/' (Cut.join '/' pieces)).filter isProper = pieces :=
    filter_all_join rfl (fun t ht => (h t ht).1) fun t ht => (h t ht).2
  unfold ofChars toChars
  rw [splitRoot_append hroot (head?_join h)]
  simp only [hparts, List.map_map, Function.comp_def, String.toList_ofList,
    List.map_id']
  rcases hroot with rfl | rfl <;> rfl

theorem toChars_ofChars_normal (rest : List Char) :
    (ofChars (normal ('/' :: rest))).toChars = normal ('/' :: rest) := by
  rw [normal_eq]
  exact toChars_ofChars (isRoot_splitRoot rest) (isSegment_names _)

theorem isAbsolute_ofChars_normal (rest : List Char) :
    (ofChars (normal ('/' :: rest))).isAbsolute = true := by
  have hroot := isRoot_splitRoot rest
  rw [normal_eq, isAbsolute, ofChars, splitRoot_append hroot (head?_join (isSegment_names _))]
  rcases hroot with h | h <;> rw [h] <;> rfl

theorem names_normal (rest : List Char) : names (normal ('/' :: rest)) = names ('/' :: rest) := by
  have hnames := isName_names ('/' :: rest)
  have hagain : (Cut.all '/' (Cut.join '/' (names ('/' :: rest)))).foldl (step true) [] =
      names ('/' :: rest) := by
    by_cases hne : names ('/' :: rest) = []
    · rw [hne]
      rfl
    · rw [Cut.all_join hne fun t ht => (hnames t ht).1.2, foldl_step_names hnames, List.nil_append]
  rw [normal_eq, names, splitRoot_append (isRoot_splitRoot rest) (head?_join (isSegment_names _))]
  exact hagain

theorem exists_normal_eq (rest : List Char) : ∃ tail, normal ('/' :: rest) = '/' :: tail := by
  rw [normal_eq]
  rcases isRoot_splitRoot rest with h | h <;> rw [h] <;> exact ⟨_, rfl⟩

theorem step_of_deep {done : List (List Char)} (h : 1 < done.length) (segment : List Char) :
    done.length ≤ (step true done segment).length + 1 ∧
      (step true done segment).head? = done.head? := by
  have hsame : done.length ≤ done.length + 1 ∧ done.head? = done.head? := ⟨Nat.le_succ _, rfl⟩
  have hadd : done.length ≤ (done ++ [segment]).length + 1 ∧
      (done ++ [segment]).head? = done.head? := by
    cases done with
    | nil => cases h
    | cons t done => simp
  have hback : done.length ≤ done.dropLast.length + 1 ∧ done.dropLast.head? = done.head? := by
    match done, h with
    | t :: u :: done, _ => simp
  unfold step
  split
  · exact hsame
  · split
    · exact hadd
    · split
      · exact hsame
      · split
        · exact hadd
        · exact hback

theorem head?_foldl_step {segments done : List (List Char)} (h : segments.length < done.length) :
    (segments.foldl (step true) done).head? = done.head? := by
  induction segments generalizing done with
  | nil => rfl
  | cons segment segments ih =>
    rw [List.length_cons] at h
    have hdeep : 1 < done.length := by omega
    obtain ⟨hlen, hhead⟩ := step_of_deep hdeep segment
    rw [List.foldl_cons, ih (by omega), hhead]

end EmitBridge.PosixPath
