import EmitBridge.Proofs.FilePath.Normal
import EmitBridge.Proofs.FilePath.Uri
import EmitBridge.Proofs.Url.Dots

/-! Paths named from an absolute directory. Of the directory only its root and its names count, and
what such a path comes down to is told by its form. -/

namespace EmitBridge.PosixPath

structure IsNormal (path : List Char) : Prop where
  absolute : ∃ rest, path = '/' :: rest
  undotted : Url.IsUndotted path
  filled : ¬IsRoot path → [] ∉ Cut.all '/' (path.dropWhile (· == '/'))
  unclosed : ¬IsRoot path → path.getLast? ≠ some '/'

def uriPart : Percent.Part := ⟨isUriPlain, fun _ => true, false⟩

theorem splitRoot_snd (s : List Char) : (splitRoot s).2 = s.dropWhile (· == '/') := by
  unfold splitRoot
  simp only
  split <;> rfl

theorem splitRoot_fst_congr {s t : List Char}
    (h : s.takeWhile (· == '/') = t.takeWhile (· == '/')) : (splitRoot s).1 = (splitRoot t).1 := by
  have hcount (s : List Char) :
      s.length - (s.dropWhile (· == '/')).length = (s.takeWhile (· == '/')).length := by
    have hlen := congrArg List.length (List.takeWhile_append_dropWhile (p := (· == '/')) (l := s))
    rw [List.length_append] at hlen
    omega
  unfold splitRoot
  simp only [hcount, h]
  split <;> rfl

section Steps

theorem step_of_improper {segment : List Char} (h : isProper segment = false) (rooted : Bool)
    (done : List (List Char)) : step rooted done segment = done := by
  rw [step, if_pos]
  cases segment <;> simp_all [isProper]

theorem foldl_step_filter (rooted : Bool) (segments done : List (List Char)) :
    (segments.filter isProper).foldl (step rooted) done = segments.foldl (step rooted) done := by
  induction segments generalizing done with
  | nil => rfl
  | cons segment segments ih =>
    cases hs : isProper segment with
    | true => rw [List.filter_cons_of_pos hs, List.foldl_cons, ih, List.foldl_cons]
    | false =>
      rw [List.filter_cons_of_neg (ne_true_of_eq_false hs), ih, List.foldl_cons,
        step_of_improper hs]

theorem step_nil (rooted : Bool) (done : List (List Char)) : step rooted done [] = done :=
  step_of_improper rfl rooted done

theorem foldl_step_all_dropWhile (rooted : Bool) (s : List Char) (done : List (List Char)) :
    (Cut.all '/' (s.dropWhile (· == '/'))).foldl (step rooted) done =
      (Cut.all '/' s).foldl (step rooted) done := by
  induction s with
  | nil => rfl
  | cons c s ih =>
    by_cases hc : c = '/'
    · rw [List.dropWhile_cons_of_pos (by simpa using hc), ih, hc, Cut.all_cons_self,
        List.foldl_cons, step_nil]
    · rw [List.dropWhile_cons_of_neg (by simpa using hc)]

theorem names_eq (s : List Char) : names s = (Cut.all '/' s).foldl (step true) [] := by
  rw [names, splitRoot_snd, foldl_step_all_dropWhile]

end Steps

theorem normal_of_slash {s : List Char} (h : ∃ rest, s = '/' :: rest) :
    normal s = (splitRoot s).1 ++ Cut.join '/' (names s) := by
  obtain ⟨rest, rfl⟩ := h
  exact normal_eq rest

theorem normal_congr {s t : List Char} (hs : ∃ rest, s = '/' :: rest) (ht : ∃ rest, t = '/' :: rest)
    (hroot : (splitRoot s).1 = (splitRoot t).1)
    (hnames : names s = names t) : normal s = normal t := by
  rw [normal_of_slash hs, normal_of_slash ht, hroot, hnames]

section Joined

variable {base s : List Char}

theorem join_of_slash (h : s.head? = some '/') : join base s = s :=
  if_pos (beq_iff_eq.mpr h)

theorem join_cases (hb : ∃ rest, base = '/' :: rest) (hs : s.head? ≠ some '/') :
    (∃ front, base = front ++ ['/'] ∧ join base s = front ++ '/' :: s) ∨
      (base.getLast? ≠ some '/' ∧ join base s = base ++ '/' :: s) := by
  obtain ⟨rest, rfl⟩ := hb
  rw [join, if_neg (mt beq_iff_eq.mp hs), List.isEmpty_cons, Bool.false_or]
  by_cases hlast : ('/' :: rest).getLast? = some '/'
  · obtain ⟨front, hfront⟩ := List.getLast?_eq_some_iff.mp hlast
    refine .inl ⟨front, hfront, ?_⟩
    rw [if_pos (beq_iff_eq.mpr hlast), hfront, List.append_assoc, List.singleton_append]
  · exact .inr ⟨hlast, if_neg (mt beq_iff_eq.mp hlast)⟩

theorem exists_join_eq (hb : ∃ rest, base = '/' :: rest) : ∃ rest, join base s = '/' :: rest := by
  by_cases hs : s.head? = some '/'
  · rw [join_of_slash hs]
    exact List.head?_eq_some_iff.mp hs
  · obtain ⟨rest, rfl⟩ := hb
    obtain ⟨front, hfront, hjoin⟩ | ⟨-, hjoin⟩ := join_cases ⟨rest, rfl⟩ hs
    · cases front with
      | nil => exact ⟨s, hjoin⟩
      | cons c front =>
        obtain ⟨rfl, -⟩ := List.cons.inj hfront
        exact ⟨_, hjoin⟩
    · exact ⟨_, hjoin⟩

theorem all_join_path (hb : ∃ rest, base = '/' :: rest) (hs : s.head? ≠ some '/')
    (done : List (List Char)) :
    (Cut.all '/' (join base s)).foldl (step true) done =
      (Cut.all '/' s).foldl (step true) ((Cut.all '/' base).foldl (step true) done) := by
  obtain ⟨front, rfl, hjoin⟩ | ⟨-, hjoin⟩ := join_cases hb hs
  · -- the piece after the last slash of the directory is empty
    rw [hjoin, Cut.all_append_all, Cut.all_append_all, List.foldl_append, List.foldl_append]
    rfl
  · rw [hjoin, Cut.all_append_all, List.foldl_append]

theorem names_join (hb : ∃ rest, base = '/' :: rest) (hs : s.head? ≠ some '/') :
    names (join base s) = (Cut.all '/' s).foldl (step true) (names base) := by
  rw [names_eq, names_eq, all_join_path hb hs]

theorem splitRoot_join (hb : ∃ rest, base = '/' :: rest) (hs : s.head? ≠ some '/') :
    (splitRoot (join base s)).1 = (splitRoot base).1 := by
  apply splitRoot_fst_congr
  have hnone : s.takeWhile (· == '/') = [] := by
    cases s with
    | nil => rfl
    | cons c s => exact List.takeWhile_cons_of_neg fun hc => hs (congrArg some (beq_iff_eq.mp hc))
  obtain ⟨front, rfl, hjoin⟩ | ⟨hlast, hjoin⟩ := join_cases hb hs
  · rw [hjoin, List.takeWhile_append, List.takeWhile_append]
    rw [List.takeWhile_cons_of_pos (by rfl), List.takeWhile_cons_of_pos (by rfl), hnone]
    rfl
  · rw [hjoin, List.takeWhile_append, if_neg]
    intro hall
    -- slashes only would end in one
    have hbase : base.takeWhile (· == '/') = base :=
      (List.takeWhile_prefix _).eq_of_length hall
    obtain ⟨rest, rfl⟩ := hb
    obtain ⟨c, hc⟩ : ∃ c, ('/' :: rest).getLast? = some c :=
      ⟨_, List.getLast?_eq_some_getLast (List.cons_ne_nil _ _)⟩
    have hslash : (c == '/') = true :=
      List.takeWhile_eq_self_iff.mp hbase c (List.mem_of_getLast? hc)
    exact hlast (beq_iff_eq.mp hslash ▸ hc)

end Joined

section Directory

theorem toChars_ofChars_slash (rest : List Char) :
    (ofChars ('/' :: rest)).toChars = (splitRoot ('/' :: rest)).1 ++
      Cut.join '/' ((Cut.all '/' (splitRoot ('/' :: rest)).2).filter isProper) := by
  have hroot : (ofChars ('/' :: rest)).root.toList = (splitRoot ('/' :: rest)).1 :=
    String.toList_ofList
  have hparts : (ofChars ('/' :: rest)).parts.map String.toList =
      (Cut.all '/' (splitRoot ('/' :: rest)).2).filter isProper := by
    simp only [ofChars, List.map_map, Function.comp_def, String.toList_ofList, List.map_id']
  rw [toChars, hroot, hparts]
  rcases isRoot_splitRoot rest with h | h <;> rw [h] <;> rfl

theorem isSegment_filter (s : List Char) : ∀ t ∈ (Cut.all '/' s).filter isProper, IsSegment t :=
  fun _ ht => ⟨(List.mem_filter.mp ht).2, Cut.notMem_of_mem_all (List.mem_filter.mp ht).1⟩

theorem directory_again (rest : List Char) :
    (∃ tail, (ofChars ('/' :: rest)).toChars = '/' :: tail) ∧
      (splitRoot (ofChars ('/' :: rest)).toChars).1 = (splitRoot ('/' :: rest)).1 ∧
      names (ofChars ('/' :: rest)).toChars = names ('/' :: rest) := by
  have hroot := isRoot_splitRoot rest
  have hsegments := isSegment_filter (splitRoot ('/' :: rest)).2
  have hsplit := splitRoot_append hroot (head?_join hsegments)
  rw [toChars_ofChars_slash]
  refine ⟨?_, by rw [hsplit], ?_⟩
  · rcases hroot with h | h <;> rw [h] <;> exact ⟨_, rfl⟩
  · rw [names, hsplit, ← foldl_step_filter,
      filter_all_join rfl (fun t ht => (hsegments t ht).1) fun t ht => (hsegments t ht).2,
      foldl_step_filter]
    rfl

theorem normal_join_directory (rest s : List Char) :
    normal (join (ofChars ('/' :: rest)).toChars s) = normal (join ('/' :: rest) s) := by
  by_cases hs : s.head? = some '/'
  · rw [join_of_slash hs, join_of_slash hs]
  · obtain ⟨hslash, hroot, hnames⟩ := directory_again rest
    refine normal_congr (exists_join_eq hslash) (exists_join_eq ⟨rest, rfl⟩) ?_ ?_
    · rw [splitRoot_join hslash hs, splitRoot_join ⟨rest, rfl⟩ hs, hroot]
    · rw [names_join hslash hs, names_join ⟨rest, rfl⟩ hs, hnames]

end Directory

section Form

theorem all_of_isRoot {root : List Char} (h : IsRoot root) (s : List Char) :
    ∃ empties, (∀ t ∈ empties, t = []) ∧ Cut.all '/' (root ++ s) = empties ++ Cut.all '/' s := by
  rcases h with rfl | rfl
  · exact ⟨[[]], by simp, Cut.all_cons_self s⟩
  · refine ⟨[[], []], by simp, ?_⟩
    rw [List.cons_append, List.singleton_append, Cut.all_cons_self, Cut.all_cons_self]
    rfl

theorem getLast?_join {pieces : List (List Char)} (hne : pieces ≠ [])
    (h : ∀ t ∈ pieces, IsSegment t) : ∃ c, (Cut.join '/' pieces).getLast? = some c ∧ c ≠ '/' := by
  induction pieces with
  | nil => exact absurd rfl hne
  | cons piece rest ih =>
    cases rest with
    | nil =>
      obtain ⟨hproper, hslash⟩ := h piece List.mem_cons_self
      have hpiece : piece ≠ [] := by
        rintro rfl
        cases hproper
      exact ⟨_, List.getLast?_eq_some_getLast hpiece,
        fun he => hslash (he ▸ List.getLast_mem hpiece)⟩
    | cons next rest =>
      obtain ⟨c, hc, hslash⟩ :=
        ih (List.cons_ne_nil _ _) fun t ht => h t (List.mem_cons_of_mem _ ht)
      refine ⟨c, ?_, hslash⟩
      rw [Cut.join, List.getLast?_append, List.getLast?_cons, hc]
      · rfl
      · exact List.cons_ne_nil _ _

theorem isUndotted_of_names {root : List Char} {pieces : List (List Char)} (hroot : IsRoot root)
    (h : ∀ t ∈ pieces, IsName t) : Url.IsUndotted (root ++ Cut.join '/' pieces) := by
  obtain ⟨empties, hempties, hcut⟩ := all_of_isRoot hroot (Cut.join '/' pieces)
  rw [Url.IsUndotted, hcut]
  intro t ht
  rcases List.mem_append.mp ht with ht | ht
  · rw [hempties t ht]
    exact Url.not_isDots_nil
  · by_cases hne : pieces = []
    · rw [hne] at ht
      rw [List.mem_singleton.mp ht]
      exact Url.not_isDots_nil
    · rw [Cut.all_join hne fun t ht => (h t ht).1.2] at ht
      obtain ⟨⟨hproper, -⟩, hup⟩ := h t ht
      rintro (rfl | rfl)
      · cases hproper
      · exact hup rfl

theorem isNormal_of_names {root : List Char} {pieces : List (List Char)} (hroot : IsRoot root)
    (h : ∀ t ∈ pieces, IsName t) : IsNormal (root ++ Cut.join '/' pieces) := by
  have hsegments : ∀ t ∈ pieces, IsSegment t := fun t ht => (h t ht).1
  -- behind the root stand the names alone, since the first of them begins with no slash
  have hdrop : (root ++ Cut.join '/' pieces).dropWhile (· == '/') = Cut.join '/' pieces := by
    rw [← splitRoot_snd, splitRoot_append hroot (head?_join hsegments)]
  have hall (hne : pieces ≠ []) : Cut.all '/' (Cut.join '/' pieces) = pieces :=
    Cut.all_join hne fun t ht => (hsegments t ht).2
  have hfilled (hne : ¬IsRoot (root ++ Cut.join '/' pieces)) : pieces ≠ [] := by
    rintro rfl
    exact hne (by rwa [Cut.join, List.append_nil])
  refine ⟨?_, isUndotted_of_names hroot h, ?_, ?_⟩
  · rcases hroot with rfl | rfl <;> exact ⟨_, rfl⟩
  · intro hne hm
    rw [hdrop, hall (hfilled hne)] at hm
    cases (hsegments [] hm).1
  · intro hne
    obtain ⟨c, hc, hslash⟩ := getLast?_join (hfilled hne) hsegments
    rw [List.getLast?_append, hc]
    exact fun he => hslash (Option.some.inj he)

theorem isNormal_normal {s : List Char} (h : ∃ rest, s = '/' :: rest) : IsNormal (normal s) := by
  obtain ⟨rest, rfl⟩ := h
  rw [normal_eq]
  exact isNormal_of_names (isRoot_splitRoot rest) (isName_names _)

end Form

theorem quoted_encode (s : List Char) : uriPart.Quoted (Percent.encode isUriPlain s) := by
  induction s with
  | nil => exact .nil
  | cons c s ih =>
    rw [Percent.encode, List.flatMap_cons]
    split
    · next hc => exact .plain hc ih
    · next hc =>
      exact (Percent.Part.quoted_escapes_char (Bool.eq_false_iff.mpr hc)).append ih

end EmitBridge.PosixPath
