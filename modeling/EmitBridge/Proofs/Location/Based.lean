import EmitBridge.Proofs.Location.Joined

/-! Plain paths named from an absolute directory come to the address of the joined path. So only
what a directory is counts, and not how it is spelled or where the program runs. -/

namespace EmitBridge

open HostNames.AsciiOnly

namespace PosixPath

variable {b l s t : List Char}

/-- Two texts spell one directory: the slashes in front make the same root, and the segments that
count are the same. -/
structure SameDirectory (s t : List Char) : Prop where
  root : (splitRoot s).1 = (splitRoot t).1
  segments : (Cut.all '/' s).filter isProper = (Cut.all '/' t).filter isProper

theorem exists_slash_of_root (h : (splitRoot s).1 ≠ []) : ∃ rest, s = '/' :: rest := by
  cases s with
  | nil => exact absurd rfl h
  | cons c rest =>
    by_cases hc : c = '/'
    · exact ⟨rest, by rw [hc]⟩
    · have hstop : (c :: rest).dropWhile (· == '/') = c :: rest :=
        List.dropWhile_cons_of_neg (by simpa using hc)
      have hroot : (splitRoot (c :: rest)).1 = [] := by
        unfold splitRoot
        simp only [hstop, Nat.sub_self]
      exact absurd hroot h

theorem SameDirectory.names_eq (h : SameDirectory s t) : names s = names t := by
  have hcount (s : List Char) :
      names s = ((Cut.all '/' s).filter isProper).foldl (step true) [] := by
    rw [PosixPath.names_eq, foldl_step_filter]
  rw [hcount, hcount, h.segments]

theorem SameDirectory.slash (h : SameDirectory s t) (hs : ∃ rest, s = '/' :: rest) :
    ∃ rest, t = '/' :: rest := by
  obtain ⟨rest, rfl⟩ := hs
  apply exists_slash_of_root
  rw [← h.root]
  rcases isRoot_splitRoot rest with hroot | hroot <;> simp [hroot]

theorem SameDirectory.normal_join (h : SameDirectory s t) (hs : ∃ rest, s = '/' :: rest)
    (l : List Char) : normal (join s l) = normal (join t l) := by
  have ht := h.slash hs
  by_cases hl : l.head? = some '/'
  · rw [join_of_slash hl, join_of_slash hl]
  · have hroot : (splitRoot (join s l)).1 = (splitRoot (join t l)).1 := by
      rw [splitRoot_join hs hl, splitRoot_join ht hl, h.root]
    have hnames : names (join s l) = names (join t l) := by
      rw [names_join hs hl, names_join ht hl, h.names_eq]
    exact normal_congr (exists_join_eq hs) (exists_join_eq ht) hroot hnames

theorem join_eq_append (hl : l.head? ≠ some '/') :
    join b l = (if b.isEmpty || b.getLast? == some '/' then b else b ++ ['/']) ++ l := by
  rw [join, if_neg (mt beq_iff_eq.mp hl)]
  split <;> simp

theorem join_join (hne : l ≠ []) (hl : l.head? ≠ some '/') (t : List Char) :
    join (join b l) t = join b (join l t) := by
  by_cases ht : t.head? = some '/'
  · rw [join_of_slash ht, join_of_slash ht, join_of_slash ht]
  · have hhead : (join l t).head? ≠ some '/' := by
      obtain ⟨c, rest, rfl⟩ := List.exists_cons_of_ne_nil hne
      have hc : (join (c :: rest) t).head? = some c := by
        rw [join_eq_append ht]
        split <;> rfl
      rwa [hc]
    have hlast (front : List Char) : (front ++ l).getLast? = l.getLast? := by
      rw [List.getLast?_append, List.getLast?_eq_some_getLast hne, Option.some_or]
    have hempty (front : List Char) : (front ++ l).isEmpty = l.isEmpty := by
      rw [List.isEmpty_eq_false_iff.mpr hne, List.isEmpty_eq_false_iff.mpr]
      simp [hne]
    rw [join_eq_append ht, join_eq_append hl, join_eq_append hhead, join_eq_append ht]
    rw [hlast, hempty, ← List.append_assoc]
    congr 1
    split <;> simp

theorem null_notMem_join (hb : '\x00' ∉ b) (hl : '\x00' ∉ l) : '\x00' ∉ join b l := by
  intro h
  rcases madeOf_join b l _ h with hmark | hmem
  · exact absurd hmark (by simp [IsPunctuation])
  · exact (List.mem_append.mp hmem).elim hb hl

end PosixPath

namespace Location

open PosixPath

def joined (b l : String) : String := String.ofList (PosixPath.join b.toList l.toList)

theorem toList_joined (b l : String) : (joined b l).toList = PosixPath.join b.toList l.toList :=
  String.toList_ofList

structure IsAbsolutePath (b : String) : Prop where
  slash : ∃ rest, b.toList = '/' :: rest
  noNull : '\x00' ∉ b.toList

/-- How a path is resolved against a directory: as the joined path. So a path from the root does not
depend on the directory, the directory may be spelled in any way and be given as text or as a path,
and directories may be entered one after the other. -/
structure IsResolvedByJoining [HostNames] (b l : String) : Prop where
  found : ∃ u, ∀ cwd, toUrl cwd (some (.string b)) (.string l) = .ok u
  join : ∀ cwd cwd', toUrl cwd (some (.string b)) (.string l) =
    toUrl cwd' none (.string (joined b l))
  rooted : l.toList.head? = some '/' → ∀ cwd cwd' b', IsAbsolutePath b' →
    toUrl cwd' (some (.string b')) (.string l) = toUrl cwd (some (.string b)) (.string l)
  respelled : ∀ cwd cwd' b', SameDirectory b.toList b'.toList →
    toUrl cwd' (some (.string b')) (.string l) = toUrl cwd (some (.string b)) (.string l) ∧
      toUrl cwd' (some (.path (.posix (.ofString b')))) (.string l) =
        toUrl cwd (some (.string b)) (.string l)
  nested : l.toList.head? ≠ some '/' → ∀ l', IsPlainPath l' → IsPlainPath (joined l l') →
    ∀ cwd cwd', toUrl cwd (some (.string (joined b l))) (.string l') =
      toUrl cwd' (some (.string b)) (.string (joined l l'))

variable {b l : String}

theorem isDirectory_of_slash [HostNames] (cwd : PosixPath) (hb : ∃ rest, b.toList = '/' :: rest) :
    IsDirectory cwd (some (.string b)) b.toList := by
  obtain ⟨rest, hrest⟩ := hb
  rw [hrest]
  exact .text hrest

theorem toUrl_of_directory [HostNames] (cwd : PosixPath) (hb : ∃ rest, b.toList = '/' :: rest)
    (hl : IsPlainPath l) : toUrl cwd (some (.string b)) (.string l) =
      .ok (fileUrl (normal (PosixPath.join b.toList l.toList))) :=
  toUrl_below hl (isDirectory_of_slash cwd hb)

theorem toUrl_of_directoryPath [HostNames] (cwd : PosixPath) (hb : ∃ rest, b.toList = '/' :: rest)
    (hl : IsPlainPath l) : toUrl cwd (some (.path (.posix (.ofString b)))) (.string l) =
      .ok (fileUrl (normal (PosixPath.join b.toList l.toList))) := by
  obtain ⟨rest, hrest⟩ := hb
  obtain ⟨⟨tail, htail⟩, -⟩ := directory_again rest
  have hdirectory : IsDirectory cwd (some (.path (.posix (.ofString b)))) ('/' :: tail) := by
    apply IsDirectory.path
    rw [ofString, hrest, htail]
  rw [toUrl_below hl hdirectory, ← htail, normal_join_directory, hrest]

theorem toUrl_joined [HostNames] (cwd : PosixPath) (hb : IsAbsolutePath b) (hl : IsPlainPath l) :
    toUrl cwd none (.string (joined b l)) =
      .ok (fileUrl (normal (PosixPath.join b.toList l.toList))) := by
  obtain ⟨rest, hrest⟩ := exists_join_eq hb.slash (s := l.toList)
  have hnull : '\x00' ∉ (joined b l).toList := by
    rw [toList_joined]
    exact null_notMem_join hb.noNull hl.noNull
  have hrooted := toUrl_rooted cwd ((toList_joined b l).trans hrest) hnull
  rwa [toList_joined] at hrooted

/-- Naming a plain path from an absolute directory is joining the two. -/
theorem isResolvedByJoining [HostNames] (hb : IsAbsolutePath b) (hl : IsPlainPath l) :
    IsResolvedByJoining b l := by
  have hbelow (cwd : PosixPath) := toUrl_of_directory cwd hb.slash hl
  refine ⟨⟨_, hbelow⟩, fun cwd cwd' => ?_, fun hslash cwd cwd' b' hb' => ?_,
    fun cwd cwd' b' hsame => ?_, fun hrelative l' hl' hjoined cwd cwd' => ?_⟩
  · rw [hbelow, toUrl_joined cwd' hb hl]
  · rw [hbelow, toUrl_of_directory cwd' hb'.slash hl, join_of_slash hslash, join_of_slash hslash]
  · have hb' := hsame.slash hb.slash
    have hpath := hsame.normal_join hb.slash l.toList
    rw [hbelow, toUrl_of_directory cwd' hb' hl, toUrl_of_directoryPath cwd' hb' hl, hpath]
    exact ⟨rfl, rfl⟩
  · have hdirectory : ∃ rest, (joined b l).toList = '/' :: rest := by
      rw [toList_joined]
      exact exists_join_eq hb.slash
    have hpath := join_join (b := b.toList) hl.filled hrelative l'.toList
    rw [toUrl_of_directory cwd hdirectory hl', toUrl_of_directory cwd' hb.slash hjoined,
      toList_joined, toList_joined, hpath]

theorem driveName_resolved_below : IsAbsolutePath "/a//./b/" ∧ IsPlainPath "c:é#1/../d" ∧
    toUrl workDirectory (some (.path (.posix (.ofString "/a/b")))) (.string "c:é#1/../d") =
      toUrl ⟨"/", ["tmp"]⟩ none (.string "/a//./b/c:é#1/../d") ∧
    toUrl workDirectory (some (.string "/a//./b/c:é#1/../d")) (.string "../x") =
      toUrl workDirectory (some (.string "/a//./b/")) (.string "c:é#1/../d/../x") := by
  have hb : IsAbsolutePath "/a//./b/" := ⟨⟨_, rfl⟩, by decide⟩
  have hl : IsPlainPath "c:é#1/../d" := ⟨by decide, by decide, by decide, by decide⟩
  have hup : IsPlainPath "../x" := ⟨by decide, by decide, fun _ => by decide +kernel, by decide⟩
  have hboth : IsPlainPath (joined "c:é#1/../d" "../x") :=
    ⟨by decide, by decide, by decide, by decide⟩
  have hsame : SameDirectory "/a//./b/".toList "/a/b".toList := ⟨by decide, by decide⟩
  have hresolved := isResolvedByJoining hb hl
  refine ⟨hb, hl, ?_, ?_⟩
  · rw [(hresolved.respelled workDirectory workDirectory "/a/b" hsame).2]
    exact hresolved.join workDirectory ⟨"/", ["tmp"]⟩
  · exact hresolved.nested (by decide) "../x" hup hboth workDirectory workDirectory

end Location

end EmitBridge
