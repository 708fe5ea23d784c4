import EmitBridge.Proofs.FilePath.Normal
import EmitBridge.World.Basic

/-! Places of files. An absolute path leads to its names from anywhere, and a relative one cannot
leave a directory that is deep enough. -/

namespace EmitBridge

open PosixPath

namespace World

theorem place_rooted (w : World) (rest : List Char) :
    w.place ('/' :: rest) = names ('/' :: rest) := by
  have hjoin : join w.cwd.toChars ('/' :: rest) = '/' :: rest := if_pos rfl
  have hnames := isSegment_names ('/' :: rest)
  have hnonempty : ∀ t ∈ names ('/' :: rest), (!t.isEmpty) = true := fun t ht =>
    (Bool.and_eq_true_iff.1 (hnames t ht).1).1
  have hfilter : (Cut.all '/' (Cut.join '/' (names ('/' :: rest)))).filter (!·.isEmpty) =
      names ('/' :: rest) := filter_all_join rfl hnonempty fun t ht => (hnames t ht).2
  rw [place, hjoin, normal_eq]
  -- the slashes of the root leave empty pieces
  rcases isRoot_splitRoot rest with hroot | hroot <;> rw [hroot]
  · rw [List.singleton_append, Cut.all_cons_self, List.filter_cons_of_neg (by decide), hfilter]
  · rw [List.cons_append, List.singleton_append, Cut.all_cons_self, Cut.all_cons_self,
      List.filter_cons_of_neg (by decide), List.filter_cons_of_neg (by decide), hfilter]

def deep (depth : Nat) : PosixPath := ⟨"/", List.replicate (depth + 1) "z"⟩

theorem isName_replicate (n : Nat) : ∀ t ∈ List.replicate n ['z'], IsName t := by
  intro t ht
  rw [List.eq_of_mem_replicate ht]
  exact ⟨⟨rfl, by decide⟩, by decide⟩

theorem toChars_deep (depth : Nat) :
    (deep depth).toChars = '/' :: Cut.join '/' (List.replicate (depth + 1) ['z']) := by
  rw [toChars, deep]
  simp only [List.map_replicate]
  rfl

theorem getLast?_deep (depth : Nat) : (deep depth).toChars.getLast? = some 'z' := by
  have hjoin : (Cut.join '/' (List.replicate (depth + 1) ['z'])).getLast? = some 'z' := by
    induction depth with
    | zero => rfl
    | succ depth ih =>
      rw [List.replicate_succ, List.replicate_succ, Cut.join, ← List.replicate_succ]
      · rw [List.getLast?_append, List.getLast?_cons, ih]
        rfl
      · exact List.cons_ne_nil _ _
  rw [toChars_deep, List.getLast?_cons, hjoin]
  rfl

theorem head?_place_deep {w : World} {s : List Char} (hs : s.head? ≠ some '/')
    (hw : w.cwd = deep (Cut.all '/' s).length) : (w.place s).head? = some ['z'] := by
  have hdeep := isName_replicate ((Cut.all '/' s).length + 1)
  have hjoin : join w.cwd.toChars s = '/' ::
      (Cut.join '/' (List.replicate ((Cut.all '/' s).length + 1) ['z']) ++ '/' :: s) := by
    rw [hw, join, if_neg (by simpa using hs), getLast?_deep, toChars_deep, List.isEmpty_cons]
    rfl
  have hroot : splitRoot ('/' ::
      (Cut.join '/' (List.replicate ((Cut.all '/' s).length + 1) ['z']) ++ '/' :: s)) =
      (['/'], Cut.join '/' (List.replicate ((Cut.all '/' s).length + 1) ['z']) ++ '/' :: s) := by
    refine splitRoot_append (.inl rfl) ?_
    rw [List.replicate_succ]
    cases List.replicate (Cut.all '/' s).length ['z'] <;> exact nofun
  have hplace : w.place s = (Cut.all '/' s).foldl (step true)
      (List.replicate ((Cut.all '/' s).length + 1) ['z']) := by
    have hpieces : Cut.all '/' (Cut.join '/'
        (List.replicate ((Cut.all '/' s).length + 1) ['z'])) =
        List.replicate ((Cut.all '/' s).length + 1) ['z'] :=
      Cut.all_join (List.cons_ne_nil _ _) fun t ht => (hdeep t ht).1.2
    have habsolute : w.place s = w.place (join w.cwd.toChars s) := by
      rw [place, place, hjoin]
      rfl
    rw [habsolute, hjoin, place_rooted, names, hroot]
    simp only [Cut.all_append_all, hpieces, List.foldl_append, foldl_step_names hdeep,
      List.nil_append]
  rw [hplace, head?_foldl_step (by rw [List.length_replicate]; exact Nat.lt_succ_self _)]
  rfl

def alone (cwd : PosixPath) (path : String) (entry : FileEntry) : World :=
  { bare with cwd := cwd, files := [(path, entry)] }

theorem entry_of_append {w : World} {front rest : List (String × FileEntry)} {path : String}
    {entry : FileEntry} (h : w.files = front ++ (path, entry) :: rest)
    (hpath : path.isEmpty = false)
    (hfront : ∀ f ∈ front, w.place f.1.toList ≠ w.place path.toList) : w.entry path = entry := by
  have hnone : (front.map fun f => (w.place f.1.toList, f.2)).find?
      (fun f => f.1 == w.place path.toList) = none := by
    refine List.find?_eq_none.mpr fun f hf hplace => ?_
    obtain ⟨g, hg, rfl⟩ := List.mem_map.mp hf
    exact hfront g hg (beq_iff_eq.mp hplace)
  have hfound : w.known.find? (fun f => f.1 == w.place path.toList) =
      some (w.place path.toList, entry) := by
    rw [known, h, List.map_append, List.find?_append, hnone]
    simp
  rw [World.entry, hpath, if_neg Bool.false_ne_true, entryAt, hfound]

theorem entry_alone (cwd : PosixPath) {path : String} (h : path.isEmpty = false)
    (entry : FileEntry) : (alone cwd path entry).entry path = entry :=
  @entry_of_append _ [] [] _ _ rfl h nofun

theorem eq_of_entry_alone {cwd : PosixPath} {path other : String} {entry : FileEntry} {bs : Bytes}
    (h : (alone cwd path entry).entry other = .content bs) :
    (alone cwd path entry).place path.toList = (alone cwd path entry).place other.toList := by
  by_contra hne
  have hfind : (alone cwd path entry).known.find?
      (fun f => f.1 == (alone cwd path entry).place other.toList) = none :=
    List.find?_eq_none.2 fun f hf hplace => by
      rw [known, alone, List.map_singleton, List.mem_singleton] at hf
      exact hne ((congrArg Prod.fst hf).symm.trans (beq_iff_eq.1 hplace))
  rw [World.entry, entryAt] at h
  simp only [hfind] at h
  repeat' split at h
  all_goals cases h

end World

end EmitBridge
