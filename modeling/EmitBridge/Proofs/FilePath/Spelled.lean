import EmitBridge.Proofs.FilePath.Chars

/-! How paths are spelled. Reading a path drops nothing of its text but slashes and dots, and
something added to the last name is added to the text. -/

namespace EmitBridge

namespace Cut

variable {sep : Char}

theorem join_append_last (front : List (List Char)) (last suffix : List Char) :
    join sep (front ++ [last ++ suffix]) = join sep (front ++ [last]) ++ suffix := by
  induction front with
  | nil => rfl
  | cons piece front ih =>
    have hne (last : List Char) : front ++ [last] ≠ [] :=
      List.append_ne_nil_of_right_ne_nil _ (List.cons_ne_nil _ _)
    rw [List.cons_append, List.cons_append, join, join, ih, List.append_assoc, List.cons_append]
    · exact hne _
    · exact hne _

end Cut

namespace PosixPath

variable {p : Char → Bool} {s : List Char}

section Count

theorem countP_splitRoot (h : p '/' = false) (s : List Char) :
    (splitRoot s).1.countP p = 0 ∧ (splitRoot s).2.countP p = s.countP p := by
  have hrest : (s.dropWhile (· == '/')).countP p = s.countP p := by
    conv_rhs => rw [← List.takeWhile_append_dropWhile (p := (· == '/')) (l := s)]
    have hslashes : (s.takeWhile (· == '/')).countP p = 0 := by
      refine List.countP_eq_zero.mpr fun c hc => ?_
      have hc : (c == '/') = true := List.all_eq_true.mp List.all_takeWhile c hc
      rw [beq_iff_eq.mp hc, h]
      exact Bool.false_ne_true
    rw [List.countP_append, hslashes, Nat.zero_add]
  unfold splitRoot
  simp only
  split
  · exact ⟨rfl, hrest⟩
  · refine ⟨?_, hrest⟩
    rw [List.countP_cons, List.countP_singleton, h]
    rfl
  · refine ⟨?_, hrest⟩
    rw [List.countP_singleton, h]
    rfl

theorem countP_filter_isProper (h : p '.' = false) (pieces : List (List Char)) :
    (pieces.filter isProper).flatten.countP p = pieces.flatten.countP p := by
  induction pieces with
  | nil => rfl
  | cons piece pieces ih =>
    rw [List.flatten_cons, List.countP_append, ← ih]
    cases hproper : isProper piece with
    | true => rw [List.filter_cons_of_pos hproper, List.flatten_cons, List.countP_append]
    | false =>
      have hpiece : piece.countP p = 0 := by
        rw [isProper, Bool.and_eq_false_iff, Bool.not_eq_false', bne_eq_false_iff_eq] at hproper
        rcases hproper with hempty | rfl
        · rw [List.isEmpty_iff.mp hempty, List.countP_nil]
        · rw [List.countP_singleton, h]
          rfl
      rw [List.filter_cons_of_neg (ne_true_of_eq_false hproper), hpiece, Nat.zero_add]

theorem countP_toChars (hslash : p '/' = false) (hdot : p '.' = false) (s : List Char) :
    (ofChars s).toChars.countP p = s.countP p := by
  obtain ⟨hroot, hrest⟩ := countP_splitRoot hslash s
  have hwhole : ((splitRoot s).1 ++
      Cut.join '/' ((Cut.all '/' (splitRoot s).2).filter isProper)).countP p = s.countP p := by
    rw [List.countP_append, hroot, Nat.zero_add, Cut.countP_join hslash,
      countP_filter_isProper hdot,
      ← Cut.countP_join hslash, Cut.join_all, hrest]
  rw [toChars, root_ofChars, parts_ofChars]
  split
  · next hempty =>
    rw [List.isEmpty_iff.mp hempty] at hwhole
    rw [← hwhole, List.countP_singleton, hdot]
    rfl
  · exact hwhole

end Count

theorem toChars_of_name {path : PosixPath} {front : List String} {last : String}
    (hparts : path.parts = front ++ [last]) (hlast : last ≠ "") : path.toChars =
      path.root.toList ++ Cut.join '/' (front.map String.toList ++ [last.toList]) := by
  rw [toChars, hparts, List.map_append, List.map_singleton]
  refine if_neg fun hempty => ?_
  obtain ⟨-, hjoin⟩ := List.append_eq_nil_iff.mp (List.isEmpty_iff.mp hempty)
  have hsubset : last.toList ⊆ Cut.join '/' (front.map String.toList ++ [last.toList]) :=
    Cut.subset_join (List.mem_append_right _ (List.mem_singleton_self _))
  rw [hjoin, List.subset_nil] at hsubset
  exact hlast (String.toList_eq_nil_iff.mp hsubset)

theorem toString_withSuffix {path suffix : String} (h : (ofString path).parts ≠ []) :
    ((ofString path).withSuffix suffix).toString = (ofString path).toString ++ suffix := by
  obtain ⟨front, last, hparts⟩ : ∃ front last, (ofString path).parts = front ++ [last] :=
    ⟨_, _, (List.dropLast_append_getLast h).symm⟩
  have hproper : last.toList ≠ [] := by
    have hmem : last.toList ∈ (ofString path).parts.map String.toList := by
      rw [hparts]
      exact List.mem_map_of_mem (List.mem_append_right _ (List.mem_singleton_self _))
    rw [ofString, parts_ofChars] at hmem
    have hproper := (List.mem_filter.mp hmem).2
    intro hnil
    rw [hnil] at hproper
    cases hproper
  have hlast : last ≠ "" := mt String.toList_eq_nil_iff.mpr hproper
  have hsuffix : last ++ suffix ≠ "" := by
    rw [← String.toList_inj.ne, String.toList_append]
    exact List.append_ne_nil_of_left_ne_nil hproper _
  have hwith : ((ofString path).withSuffix suffix).parts = front ++ [last ++ suffix] := by
    rw [withSuffix, name, hparts, List.dropLast_concat, List.getLastD_concat]
  rw [← String.toList_inj, String.toList_append, toString, toString, String.toList_ofList,
    String.toList_ofList, toChars_of_name hwith hsuffix, toChars_of_name hparts hlast,
    String.toList_append, Cut.join_append_last, List.append_assoc]
  rfl

end PosixPath

end EmitBridge
