import EmitBridge.Proofs.FilePath.Drive

/-! The characters of paths. Reading, joining and normalizing paths adds nothing but separators and
dots to them. -/

namespace EmitBridge

def IsPunctuation (c : Char) : Prop := c = '/' ∨ c = '\\' ∨ c = '.' ∨ c = ':'

def MadeOf (t s : List Char) : Prop := ∀ c ∈ t, IsPunctuation c ∨ c ∈ s

namespace MadeOf

variable {s t u : List Char}

theorem of_subset (h : t ⊆ s) : MadeOf t s := fun _ hc => .inr (h hc)

theorem nil : MadeOf [] s := of_subset (List.nil_subset s)

theorem cons {c : Char} (hc : IsPunctuation c ∨ c ∈ s) (h : MadeOf t s) : MadeOf (c :: t) s :=
  List.forall_mem_cons.2 ⟨hc, h⟩

theorem append (ht : MadeOf t s) (hu : MadeOf u s) : MadeOf (t ++ u) s :=
  List.forall_mem_append.2 ⟨ht, hu⟩

theorem trans (h : MadeOf u t) (ht : MadeOf t s) : MadeOf u s := fun c hc =>
  (h c hc).elim .inl (ht c)

theorem of_mem (h : MadeOf t s) (hu : u ⊆ t) : MadeOf u s := fun c hc => h c (hu hc)

theorem ite (ht : MadeOf t s) (hu : MadeOf u s) (b : Bool) :
    MadeOf (if b then t else u) s := by
  cases b
  · exact hu
  · exact ht

theorem join {sep : Char} (hsep : IsPunctuation sep) {pieces : List (List Char)}
    (h : ∀ piece ∈ pieces, MadeOf piece s) : MadeOf (Cut.join sep pieces) s := by
  intro c hc
  rcases Cut.mem_join hc with rfl | ⟨piece, hp, hc⟩
  · exact .inl hsep
  · exact h piece hp c hc

end MadeOf

theorem isPunctuation_slash : IsPunctuation '/' := .inl rfl

theorem isPunctuation_separator : IsPunctuation Win32Path.separator := .inr (.inl rfl)

theorem madeOf_dot (s : List Char) : MadeOf ['.'] s :=
  .cons (.inl (.inr (.inr (.inl rfl)))) .nil

theorem madeOf_segments {sep : Char} (hsep : IsPunctuation sep) {s rest : List Char}
    (hrest : rest ⊆ s) {segments : List (List Char)} (h : ∀ t ∈ segments, t ∈ Cut.all sep rest) :
    MadeOf (Cut.join sep segments) s :=
  .join hsep fun t ht => .of_subset fun _ hc => hrest (Cut.subset_of_mem_all (h t ht) hc)

namespace PosixPath

theorem madeOf_splitRoot (s : List Char) : MadeOf (splitRoot s).1 s := by
  have hslash : IsPunctuation '/' ∨ '/' ∈ s := .inl isPunctuation_slash
  unfold splitRoot
  simp only
  split
  · exact .nil
  · exact .cons hslash (.cons hslash .nil)
  · exact .cons hslash .nil

theorem splitRoot_subset (s : List Char) : (splitRoot s).2 ⊆ s := by
  have hrest : (splitRoot s).2 = s.dropWhile (· == '/') := by
    unfold splitRoot
    simp only
    split <;> rfl
  rw [hrest]
  exact (List.dropWhile_sublist _).subset

theorem mem_step {rooted : Bool} {done : List (List Char)} {segment t : List Char}
    (h : t ∈ step rooted done segment) : t ∈ done ∨ t = segment := by
  have hadd (h : t ∈ done ++ [segment]) : t ∈ done ∨ t = segment :=
    (List.mem_append.1 h).imp_right List.mem_singleton.1
  unfold step at h
  split at h
  · exact .inl h
  split at h
  · exact hadd h
  split at h
  · split at h
    · exact .inl h
    · exact hadd h
  · split at h
    · exact hadd h
    · exact .inl (List.dropLast_subset _ h)

theorem mem_foldl_step {rooted : Bool} {segments done : List (List Char)} {t : List Char}
    (h : t ∈ segments.foldl (step rooted) done) : t ∈ done ∨ t ∈ segments := by
  induction segments generalizing done with
  | nil => exact .inl h
  | cons s segments ih =>
    rcases ih h with h | h
    · rcases mem_step h with h | rfl
      · exact .inl h
      · exact .inr List.mem_cons_self
    · exact .inr (List.mem_cons_of_mem _ h)

theorem madeOf_normal (s : List Char) : MadeOf (normal s) s := by
  unfold normal
  simp only
  split
  · exact madeOf_dot s
  · exact (madeOf_splitRoot s).append (madeOf_segments isPunctuation_slash (splitRoot_subset s)
      fun t ht => (mem_foldl_step ht).resolve_left List.not_mem_nil)

theorem madeOf_join (base s : List Char) : MadeOf (join base s) (base ++ s) := by
  have hbase : MadeOf base (base ++ s) := .of_subset (List.subset_append_left base s)
  have hs : MadeOf s (base ++ s) := .of_subset (List.subset_append_right base s)
  unfold join
  split
  · exact hs
  split
  · exact hbase.append hs
  · exact hbase.append (.cons (.inl isPunctuation_slash) hs)

theorem root_ofChars (s : List Char) : (ofChars s).root.toList = (splitRoot s).1 :=
  String.toList_ofList

theorem parts_ofChars (s : List Char) : (ofChars s).parts.map String.toList =
    (Cut.all '/' (splitRoot s).2).filter isProper := by
  simp only [ofChars, List.map_map, Function.comp_def, String.toList_ofList, List.map_id']

theorem madeOf_toChars (s : List Char) : MadeOf (ofChars s).toChars s := by
  rw [toChars, root_ofChars, parts_ofChars]
  split
  · exact madeOf_dot s
  · exact (madeOf_splitRoot s).append (madeOf_segments isPunctuation_slash (splitRoot_subset s)
      fun t ht => (List.mem_filter.1 ht).1)

end PosixPath

namespace Win32Path

theorem madeOf_unified (s : List Char) : MadeOf (unified s) s := by
  intro c hc
  obtain ⟨d, hd, rfl⟩ := List.mem_map.1 hc
  split
  · exact .inl isPunctuation_separator
  · exact .inr hd

theorem splitDrive_subset (s : List Char) : (splitDrive s).1 ⊆ s ∧ (splitDrive s).2 ⊆ s := by
  have hcut (n : Nat) : s.take n ⊆ s ∧ s.drop n ⊆ s := ⟨List.take_subset n s, List.drop_subset n s⟩
  have hall : s ⊆ s ∧ [] ⊆ s := ⟨List.Subset.refl s, List.nil_subset s⟩
  have hnone : [] ⊆ s ∧ s ⊆ s := ⟨List.nil_subset s, List.Subset.refl s⟩
  unfold splitDrive
  simp only
  split
  · split
    · exact hall
    · split
      · exact hall
      · exact hcut _
  · split
    · exact hcut 2
    · exact hnone

theorem madeOf_normal (s : List Char) : MadeOf (normal s) s := by
  refine .trans ?_ (madeOf_unified s)
  obtain ⟨hdrive, hrest⟩ := splitDrive_subset (unified s)
  unfold normal
  cases hd : splitDrive (unified s) with
  | mk drive rest =>
    rw [hd] at hdrive hrest
    simp only
    have hfront : MadeOf (if rest.head? == some separator then drive ++ [separator] else drive)
        (unified s) :=
      .ite ((MadeOf.of_subset hdrive).append (.cons (.inl isPunctuation_separator) .nil))
        (.of_subset hdrive) _
    have hbody : (if rest.head? == some separator then rest.dropWhile (· == separator) else rest) ⊆
        unified s := by
      split
      · exact List.Subset.trans (List.dropWhile_sublist _).subset hrest
      · exact hrest
    have hjoined {front body : List Char} (hf : MadeOf front (unified s)) (hb : body ⊆ unified s)
        (rooted : Bool) :
        MadeOf (if front.isEmpty &&
            ((Cut.all separator body).foldl (PosixPath.step rooted) []).isEmpty
          then ['.'] else front ++ Cut.join separator
            ((Cut.all separator body).foldl (PosixPath.step rooted) [])) (unified s) := by
      split
      · exact madeOf_dot _
      · exact hf.append (madeOf_segments isPunctuation_separator hb fun t ht =>
          (PosixPath.mem_foldl_step ht).resolve_left List.not_mem_nil)
    exact hjoined hfront hbody _

theorem madeOf_join (base s : List Char) : MadeOf (join base s) (base ++ s) := by
  obtain ⟨hbaseDrive, hbasePath⟩ := splitDrive_subset base
  obtain ⟨hdrive, hpath⟩ := splitDrive_subset s
  unfold join
  cases hb : splitDrive base with
  | mk baseDrive basePath =>
    cases hs : splitDrive s with
    | mk drive path =>
      rw [hb] at hbaseDrive hbasePath
      rw [hs] at hdrive hpath
      have hbaseText : MadeOf base (base ++ s) := .of_subset (List.subset_append_left base s)
      have hs : MadeOf s (base ++ s) := .of_subset (List.subset_append_right base s)
      have hjoined (d : List Char × List Char) (h1 : MadeOf d.1 (base ++ s))
          (h2 : MadeOf d.2 (base ++ s)) :
          MadeOf (if d.2.head?.any (!isSlash ·) && d.1.getLast?.any (· != ':') then
            d.1 ++ separator :: d.2 else d.1 ++ d.2) (base ++ s) := by
        split
        · exact h1.append (.cons (.inl isPunctuation_separator) h2)
        · exact h1.append h2
      have hd := hs.of_mem hdrive
      have hbd := hbaseText.of_mem hbaseDrive
      have hp := hs.of_mem hpath
      have hbp := hbaseText.of_mem hbasePath
      have hbps := hbp.append (.cons (.inl isPunctuation_separator) .nil)
      refine (fun h : _ ∧ _ => hjoined (if path.head?.any isSlash then _ else _) h.1 h.2) ?_
      split
      · exact ⟨.ite hd hbd _, hp⟩
      · split
        · exact ⟨hd, hp⟩
        · exact ⟨.ite hbd hd _, (MadeOf.ite hbps hbp _).append hp⟩

theorem splitExtended_madeOf (s : List Char) :
    (splitExtended s).1 ⊆ s ∧ MadeOf (splitExtended s).2 s := by
  unfold splitExtended
  simp only
  split
  · split
    · exact ⟨List.take_subset _ _, .cons (.inl isPunctuation_separator) (.of_subset fun c hc =>
        List.drop_subset _ _ (List.drop_subset _ _ hc))⟩
    · exact ⟨List.take_subset _ _, .of_subset (List.drop_subset _ _)⟩
  · exact ⟨List.nil_subset s, .of_subset (List.Subset.refl s)⟩

theorem splitShare?_subset {s share rest : List Char} (h : splitShare? s = some (share, rest)) :
    share ⊆ s ∧ rest ⊆ s := by
  rw [splitShare?] at h
  split at h
  · cases h
  · obtain ⟨i, _, h⟩ := Option.bind_eq_some_iff.1 h
    split at h
    · cases h
      exact ⟨List.Subset.refl s, List.nil_subset s⟩
    · split at h
      · cases h
      · cases h
        exact ⟨List.take_subset _ _, List.drop_subset _ _⟩

theorem madeOf_splitLetter {marker s t : List Char} (hm : marker ⊆ t) (hs : MadeOf s t) :
    MadeOf (splitLetter marker s).1 t ∧ MadeOf (splitLetter marker s).2.2 t := by
  rw [splitLetter_eq]
  have hparts : ∀ d : List Char × List Char, MadeOf d.1 t ∧ MadeOf d.2 t →
      MadeOf (marker ++ d.1) t ∧ MadeOf (d.2.dropWhile (· == separator)) t := fun d hd =>
    ⟨(MadeOf.of_subset hm).append hd.1, hd.2.of_mem (List.dropWhile_sublist _).subset⟩
  refine hparts _ ?_
  split
  · next c rest =>
    split
    · exact ⟨.cons (hs c List.mem_cons_self) (.cons (hs ':' (by simp)) .nil),
        hs.of_mem fun d hd => List.mem_cons_of_mem _ (List.mem_cons_of_mem _ hd)⟩
    · exact ⟨.nil, hs⟩
  · exact ⟨.nil, hs⟩

theorem madeOf_splitRoot (s : List Char) :
    MadeOf (splitRoot s).1 s ∧ MadeOf (splitRoot s).2.2 s := by
  obtain ⟨m, hm, hs⟩ := splitRoot_cases s
  have hmarked : m.1 ⊆ s ∧ MadeOf m.2 s := by
    rcases hm with rfl | rfl
    · exact splitExtended_madeOf s
    · exact ⟨List.nil_subset s, .of_subset (List.Subset.refl s)⟩
  obtain ⟨hmarker, hbehind⟩ := hmarked
  rcases hs with ⟨share, rest, hshare, he⟩ | he
  · obtain ⟨hs, ht⟩ := splitShare?_subset hshare
    rw [he]
    refine ⟨?_, hbehind.of_mem ht⟩
    simp only
    split
    · exact hbehind.of_mem hs
    · exact (MadeOf.of_subset hmarker).append
        (hbehind.of_mem fun c hc => hs (List.drop_subset _ _ hc))
  · rw [he]
    exact madeOf_splitLetter hmarker hbehind

theorem madeOf_toChars (s : List Char) : MadeOf (ofChars s).toChars s := by
  obtain ⟨hdrive, hrest⟩ := madeOf_splitRoot (unified s)
  refine .trans ?_ (madeOf_unified s)
  have hd : (ofChars s).drive.toList = (splitRoot (unified s)).1 := String.toList_ofList
  have hr : (ofChars s).root.toList = (splitRoot (unified s)).2.1 := String.toList_ofList
  have hroot : MadeOf (splitRoot (unified s)).2.1 (unified s) := by
    rcases splitRoot_root (unified s) with h | h <;> rw [h]
    · exact .nil
    · exact .cons (.inl isPunctuation_separator) .nil
  have hparts : (ofChars s).parts.map String.toList =
      (Cut.all separator (splitRoot (unified s)).2.2).filter PosixPath.isProper := by
    simp only [ofChars, List.map_map, Function.comp_def, String.toList_ofList, List.map_id']
  rw [toChars, hd, hr, hparts]
  split
  · exact madeOf_dot _
  · refine (hdrive.append hroot).append (.trans ?_ hrest)
    exact madeOf_segments isPunctuation_separator (List.Subset.refl _) fun t ht =>
      (List.mem_filter.1 ht).1

theorem madeOf_toPosixChars (p : Win32Path) : MadeOf p.toPosixChars p.toChars := by
  intro c hc
  obtain ⟨d, hd, rfl⟩ := List.mem_map.1 hc
  split
  · exact .inl isPunctuation_slash
  · exact .inr hd

theorem madeOf_urlPath (p : Win32Path) : MadeOf p.urlPath p.toChars := by
  have hrest (q : Char → Bool) : MadeOf ((p.toPosixChars.drop 2).dropWhile q) p.toChars :=
    (madeOf_toPosixChars p).of_mem fun c hc =>
      List.drop_subset _ _ ((List.dropWhile_sublist _).subset hc)
  have hcolon : IsPunctuation ':' := .inr (.inr (.inr rfl))
  rw [urlPath]
  split
  · next c hd =>
    have hc : c ∈ p.toChars := by
      rw [toChars, hd]
      simp
    exact .cons (.inl isPunctuation_slash) (.cons (.inr hc) (.cons (.inl hcolon)
      (.cons (.inl isPunctuation_slash) (hrest _))))
  · exact hrest _

end Win32Path

namespace FilePath

theorem madeOf_urlPath {p : FilePath} {s : List Char}
    (h : p = .posix (.ofChars s) ∨ p = .win32 (.ofChars s)) : MadeOf p.urlPath s := by
  rcases h with rfl | rfl
  · exact PosixPath.madeOf_toChars s
  · exact (Win32Path.madeOf_urlPath _).trans (Win32Path.madeOf_toChars s)

end FilePath

end EmitBridge
