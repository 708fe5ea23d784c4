import EmitBridge.Proofs.FilePath.Normal

/-! Paths with drives on a host whose paths have forward slashes. The drive is a name there, so that
such a path is named from the working directory. -/

namespace EmitBridge

namespace PosixPath

structure IsRelative (p : PosixPath) : Prop where
  root : p.root = ""
  parts : ∀ part ∈ p.parts, IsSegment part.toList

theorem isSegment_ofChars (s : List Char) : ∀ part ∈ (ofChars s).parts, IsSegment part.toList := by
  intro part hpart
  obtain ⟨segment, hsegment, rfl⟩ := List.mem_map.1 hpart
  obtain ⟨hall, hproper⟩ := List.mem_filter.1 hsegment
  rw [String.toList_ofList]
  exact ⟨hproper, Cut.notMem_of_mem_all hall⟩

theorem isRelative_ofChars {s : List Char} (h : '/' ∉ s) : (ofChars s).IsRelative := by
  refine ⟨?_, isSegment_ofChars s⟩
  have hstop : s.dropWhile (· == '/') = s := List.dropWhile_eq_self_iff.2 fun hlen hslash =>
    h (beq_iff_eq.1 hslash ▸ List.getElem_mem hlen)
  have hsplit : splitRoot s = ([], s) := by
    unfold splitRoot
    simp only [hstop, Nat.sub_self]
  rw [ofChars, hsplit]

theorem IsRelative.append {p q : PosixPath} (hp : p.IsRelative) (hq : q.IsRelative) :
    (p.append q).IsRelative := by
  have hrelative : ¬q.isAbsolute = true := by
    rw [isAbsolute, hq.root]
    decide
  rw [PosixPath.append, if_neg hrelative]
  refine ⟨hp.root, fun part hpart => ?_⟩
  exact (List.mem_append.1 hpart).elim (hp.parts part) (hq.parts part)

theorem IsRelative.foldl_append {ps : List PosixPath} (h : ∀ q ∈ ps, q.IsRelative) {p : PosixPath}
    (hp : p.IsRelative) : (ps.foldl PosixPath.append p).IsRelative := by
  induction ps generalizing p with
  | nil => exact hp
  | cons q ps ih =>
    refine ih (fun r hr => h r (List.mem_cons_of_mem q hr)) ?_
    exact hp.append (h q List.mem_cons_self)

theorem IsRelative.head?_toChars {p : PosixPath} (hp : p.IsRelative) :
    p.toChars.head? ≠ some '/' := by
  have hjoin : (Cut.join '/' (p.parts.map String.toList)).head? ≠ some '/' := by
    refine head?_join fun t ht => ?_
    obtain ⟨part, hpart, rfl⟩ := List.mem_map.1 ht
    exact hp.parts part hpart
  rw [toChars, hp.root]
  split
  · decide
  · exact hjoin

end PosixPath

namespace Win32Path

theorem notMem_unified (s : List Char) : '/' ∉ unified s := by
  intro h
  obtain ⟨c, -, hc⟩ := List.mem_map.1 h
  split at hc
  · cases hc
  · next hne =>
    rw [hc] at hne
    exact hne rfl

theorem splitRoot_letter {c : Char} (hc : isLetter c) (rest : List Char) :
    splitRoot (unified (c :: ':' :: rest)) =
      ([c, ':'], if (unified rest).head? == some separator then [separator] else [],
        (unified rest).dropWhile (· == separator)) := by
  have hletter : (c == '/') = false ∧ (c == separator) = false := by
    refine ⟨beq_eq_false_iff_ne.2 ?_, beq_eq_false_iff_ne.2 ?_⟩ <;> rintro rfl <;> cases hc
  have hunified : unified (c :: ':' :: rest) = c :: ':' :: unified rest := by
    rw [unified, List.map_cons, if_neg (ne_true_of_eq_false hletter.1)]
    rfl
  have htake : ((c :: ':' :: unified rest).take 2 == [separator, separator]) = false := by
    simp [hletter.2]
  have hshare : splitShare? (c :: ':' :: unified rest) = none := by
    rw [splitShare?, bne, htake]
    rfl
  rw [hunified, splitRoot_eq, htake]
  simp only [Bool.false_eq_true, if_false, hshare]
  rw [splitLetter_eq]
  simp only [hc, if_true, List.nil_append]

theorem notMem_segments {c : Char} (hc : isLetter c) (rest : List Char) :
    ∀ segment ∈ (ofChars (c :: ':' :: rest)).segments, '/' ∉ segment.toList := by
  have hslash : '/' ≠ c := by
    rintro rfl
    cases hc
  have hparts : ∀ part ∈ (ofChars (c :: ':' :: rest)).parts, '/' ∉ part.toList := by
    intro part hpart
    rw [ofChars, splitRoot_letter hc] at hpart
    obtain ⟨segment, hsegment, rfl⟩ := List.mem_map.1 hpart
    have hpiece := Cut.subset_of_mem_all (List.mem_filter.1 hsegment).1
    rw [String.toList_ofList]
    exact fun hm => notMem_unified rest ((List.dropWhile_sublist _).subset (hpiece hm))
  have hroot (b : Bool) : '/' ∉ (if b then [separator] else []) := by
    cases b <;> decide
  have hdrive : '/' ∉ ((ofChars (c :: ':' :: rest)).drive ++
      (ofChars (c :: ':' :: rest)).root).toList := by
    rw [ofChars, splitRoot_letter hc]
    simp only [String.toList_append, String.toList_ofList, List.mem_append, not_or]
    refine ⟨?_, hroot _⟩
    simp [hslash]
  rw [segments]
  split
  · exact hparts
  · exact List.forall_mem_cons.2 ⟨hdrive, hparts⟩

end Win32Path

namespace FilePath

theorem isRelative_onHost {c : Char} (hc : Win32Path.isLetter c) (rest : List Char) :
    (win32 (.ofChars (c :: ':' :: rest))).onHost.IsRelative := by
  refine PosixPath.IsRelative.foldl_append (fun q hq => ?_) ⟨rfl, nofun⟩
  obtain ⟨segment, hsegment, rfl⟩ := List.mem_map.1 hq
  exact PosixPath.isRelative_ofChars (Win32Path.notMem_segments hc rest segment hsegment)

end FilePath

end EmitBridge
