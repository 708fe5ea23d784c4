import EmitBridge.Proofs.Url.Authority
import EmitBridge.Proofs.Url.Dots
import EmitBridge.Url.Directory

/-! The directory that holds a resource. Its path is that of the resource up to the last slash,
apart from escapes, which are undone on the way. -/

namespace EmitBridge.Url

open Percent (decode)

def directories (segments : List (List Char)) : List Char := segments.flatMap (· ++ ['/'])

theorem directories_cons (s : List Char) (segments : List (List Char)) :
    directories (s :: segments) = s ++ '/' :: directories segments := by
  rw [directories, List.flatMap_cons, List.append_assoc]
  rfl

theorem directories_append (ds es : List (List Char)) :
    directories (ds ++ es) = directories ds ++ directories es := List.flatMap_append

theorem directories_concat (init : List (List Char)) (s : List Char) :
    directories (init.concat s) = directories init ++ s ++ ['/'] := by
  rw [List.concat_eq_append, directories_append, directories_cons, List.append_assoc]
  rfl

theorem join_append_singleton (segments : List (List Char)) (last : List Char) :
    Cut.join '/' (segments ++ [last]) = directories segments ++ last := by
  induction segments with
  | nil => rfl
  | cons s segments ih =>
    rw [List.cons_append, Cut.join, ih, directories_cons, List.append_assoc, List.cons_append]
    exact List.append_ne_nil_of_right_ne_nil _ (List.cons_ne_nil _ _)

theorem join_closed (segments : List (List Char)) :
    Cut.join '/' (segments ++ [[]]) = directories segments := by
  rw [join_append_singleton, List.append_nil]

theorem all_directories (segments : List (List Char)) (rest : List Char) :
    Cut.all '/' (directories segments ++ rest) =
      segments.flatMap (Cut.all '/') ++ Cut.all '/' rest := by
  induction segments with
  | nil => rfl
  | cons s segments ih =>
    rw [directories_cons, List.append_assoc, List.cons_append, Cut.all_append_all, ih,
      List.flatMap_cons, List.append_assoc]

theorem flatMap_all {segments : List (List Char)} (h : ∀ s ∈ segments, '/' ∉ s) :
    segments.flatMap (Cut.all '/') = segments := by
  induction segments with
  | nil => rfl
  | cons s segments ih =>
    rw [List.flatMap_cons, Cut.all_of_notMem (h s List.mem_cons_self),
      ih fun t ht => h t (List.mem_cons_of_mem _ ht)]
    rfl

theorem directories_inj {ds es : List (List Char)} (hd : ∀ s ∈ ds, '/' ∉ s) (he : ∀ s ∈ es, '/' ∉ s)
    (h : directories ds = directories es) : ds = es := by
  have hcut := congrArg (Cut.all '/') h
  rw [← List.append_nil (directories ds), ← List.append_nil (directories es), all_directories,
    all_directories, flatMap_all hd, flatMap_all he] at hcut
  exact List.append_cancel_right hcut

def front (path : List Char) : List (List Char) := (Cut.all '/' path).dropLast

def back (path : List Char) : List Char := (Cut.all '/' path).getLastD []

theorem front_append_back (path : List Char) : front path ++ [back path] = Cut.all '/' path := by
  obtain ⟨init, last, h⟩ := (List.eq_nil_or_concat (Cut.all '/' path)).resolve_left
    (Cut.all_ne_nil '/' path)
  rw [front, back, h, List.concat_eq_append, List.dropLast_concat, List.getLastD_concat]

theorem path_eq (path : List Char) : path = directories (front path) ++ back path := by
  rw [← join_append_singleton, front_append_back, Cut.join_all]

theorem notMem_front {path s : List Char} (h : s ∈ front path) : '/' ∉ s :=
  Cut.notMem_of_mem_all (List.dropLast_subset _ h)

theorem notMem_back (path : List Char) : '/' ∉ back path := by
  apply Cut.notMem_of_mem_all (s := path)
  rw [← front_append_back]
  exact List.mem_append_right _ List.mem_cons_self

theorem front_slash (rest : List Char) : front ('/' :: rest) = [] :: front rest := by
  rw [front, Cut.all_cons_self, List.dropLast_cons_of_ne_nil (Cut.all_ne_nil '/' rest)]
  rfl

theorem back_slash (rest : List Char) : back ('/' :: rest) = back rest := by
  rw [back, back, Cut.all_cons_self]
  cases h : Cut.all '/' rest with
  | nil => exact absurd h (Cut.all_ne_nil '/' rest)
  | cons s segments => rfl

theorem back_eq_nil_iff {path : List Char} (hne : path ≠ []) :
    back path = [] ↔ path.getLast? = some '/' := by
  constructor
  · intro h
    have hpath := path_eq path
    rw [h, List.append_nil] at hpath
    cases hf : (front path).reverse with
    | nil =>
      rw [List.reverse_eq_nil_iff.mp hf] at hpath
      exact absurd hpath hne
    | cons s segments =>
      rw [List.reverse_eq_cons_iff.mp hf, ← List.concat_eq_append, directories_concat] at hpath
      rw [hpath, List.getLast?_concat]
  · intro h
    obtain ⟨init, rfl⟩ := List.getLast?_eq_some_iff.mp h
    rw [back, Cut.all_append_all]
    simp [Cut.all]

section Resolve

theorem resolveSegments_closed (segments : List (List Char)) :
    resolveSegments (segments ++ [[]]) = segments.foldl resolveStep [] ++ [[]] := by
  rw [resolveSegments_eq, List.getLast?_concat, List.foldl_append]
  rfl

theorem normalPath_closed {path : List Char} {segments : List (List Char)}
    (h : Cut.all '/' path = segments ++ [['.'], []]) :
    normalPath ('/' :: path) = '/' :: directories (segments.foldl resolveStep []) := by
  have hcut : segments ++ [['.'], []] = (segments ++ [['.']]) ++ [[]] := by simp
  rw [normalPath, h, hcut, resolveSegments_closed, List.foldl_append, join_closed]
  rfl

theorem notMem_resolved {segments : List (List Char)} (h : ∀ s ∈ segments, '/' ∉ s) :
    ∀ s ∈ segments.foldl resolveStep [], '/' ∉ s := fun s hs =>
  (mem_foldl_of_step mem_resolveStep hs).elim (absurd · List.not_mem_nil) fun hm => h s hm.1

theorem getLast?_directories (segments : List (List Char)) :
    directories segments = [] ∨ (directories segments).getLast? = some '/' := by
  rcases List.eq_nil_or_concat segments with rfl | ⟨init, last, rfl⟩
  · exact .inl rfl
  · right
    rw [List.concat_eq_append, directories, List.flatMap_append]
    simp

theorem getLast?_normalPath {path : List Char} (h : path.getLast? = some '/') :
    normalPath path = [] ∨ (normalPath path).getLast? = some '/' := by
  obtain ⟨init, rfl⟩ := List.getLast?_eq_some_iff.mp h
  have hresolved (init : List Char) :
      Cut.join '/' (resolveSegments (Cut.all '/' (init ++ ['/']))) =
        directories ((Cut.all '/' init).foldl resolveStep []) := by
    rw [Cut.all_append_all, show Cut.all '/' [] = [[]] from rfl, resolveSegments_closed,
      join_closed]
  unfold normalPath
  split
  · next rest hrest =>
    right
    cases init with
    | nil =>
      obtain rfl : [] = rest := (List.cons.inj hrest).2
      rfl
    | cons c init =>
      obtain ⟨rfl, (rfl : init ++ ['/'] = rest)⟩ := List.cons.inj hrest
      rw [hresolved, List.getLast?_cons]
      rcases getLast?_directories ((Cut.all '/' init).foldl resolveStep []) with hd | hd <;>
        rw [hd] <;> rfl
  · rw [hresolved]
    exact getLast?_directories _

end Resolve

section Parent

/-- The segments of the directory, before dot segments are resolved: without escapes, unless nothing
stands behind the last slash. -/
def parentSegments (path : List Char) : List (List Char) :=
  if back path = [] then front path else ((front path).map decode).flatMap (Cut.all '/')

theorem parentPath_eq {path : List Char} (hne : path ≠ []) :
    parentPath path = directories (if back path = [] then front path
      else (front path).map decode) ++ ['.', '/'] := by
  rw [parentPath, if_neg (by simpa using hne)]
  by_cases hb : back path = []
  · have hlast := (back_eq_nil_iff hne).mp hb
    rw [if_pos (by simpa using hlast), if_pos hb]
    conv => lhs; rw [path_eq path, hb, List.append_nil]
  · have hlast := mt (back_eq_nil_iff hne).mpr hb
    rw [if_neg (by simpa using hlast), if_neg hb, decodedSegments, ← front_append_back,
      List.map_append, List.map_singleton, List.dropLast_concat, join_append_singleton]

theorem getLast?_parentPath (path : List Char) : (parentPath path).getLast? = some '/' := by
  by_cases hne : path = []
  · rw [hne]
    rfl
  · rw [parentPath_eq hne]
    simp

theorem getLast?_parent (path : List Char) :
    normalPath (parentPath path) = [] ∨ (normalPath (parentPath path)).getLast? = some '/' :=
  getLast?_normalPath (getLast?_parentPath path)

theorem normalPath_parentPath (rest : List Char) :
    normalPath (parentPath ('/' :: rest)) =
      '/' :: directories ((parentSegments rest).foldl resolveStep []) := by
  have hparent : parentPath ('/' :: rest) = '/' :: (directories (if back rest = [] then front rest
      else (front rest).map decode) ++ ['.', '/']) := by
    rw [parentPath_eq (List.cons_ne_nil _ _), back_slash, front_slash]
    split <;> rfl
  rw [hparent]
  apply normalPath_closed
  rw [all_directories, parentSegments]
  split
  · rw [flatMap_all fun _ hs => notMem_front hs]
    rfl
  · rfl

end Parent

def directoryPath (path : List Char) : List Char :=
  (Cut.last '/' (normalPath path)).1.getD [] ++ ['/']

def directorySegments (path : List Char) : List (List Char) :=
  if back path = ['.', '.'] then Cut.all '/' path else front path

theorem directoryPath_slash (rest : List Char) :
    directoryPath ('/' :: rest) =
      '/' :: directories ((directorySegments rest).foldl resolveStep []) := by
  have hcut (segments : List (List Char)) {last : List Char} (h : '/' ∉ last) :
      (Cut.last '/' ('/' :: (directories segments ++ last))).1.getD [] ++ ['/'] =
        '/' :: directories segments := by
    rcases List.eq_nil_or_concat segments with rfl | ⟨init, s, rfl⟩
    · exact congrArg (fun c => c.1.getD [] ++ ['/']) (Cut.last_append [] h)
    · have htext : '/' :: (directories (init.concat s) ++ last) =
          ('/' :: (directories init ++ s)) ++ '/' :: last := by
        rw [directories_concat, List.append_assoc]
        rfl
      rw [htext, Cut.last_append _ h, directories_concat]
      rfl
  -- the last segment leaves the directory as it is, unless it is `..`
  have hsegments : resolveSegments (Cut.all '/' rest) =
      (directorySegments rest).foldl resolveStep [] ++
        [if back rest = ['.'] ∨ back rest = ['.', '.'] then [] else back rest] := by
    rw [resolveSegments_eq, ← front_append_back, List.getLast?_concat, directorySegments,
      ← front_append_back]
    simp only [Bool.or_eq_true, beq_iff_eq]
    by_cases hup : back rest = ['.', '.']
    · simp only [hup, or_true, if_true]
    · simp only [hup, or_false, if_false, List.foldl_append, List.foldl_cons, List.foldl_nil]
      by_cases hdot : back rest = ['.']
      · rw [if_pos hdot, if_pos hdot, hdot]
        rfl
      · rw [if_neg hdot, if_neg hdot, resolveStep, if_neg (by simpa using hup),
          if_neg (by simpa using hdot)]
  rw [directoryPath, normalPath, hsegments, join_append_singleton]
  apply hcut
  split
  · exact List.not_mem_nil
  · exact notMem_back rest

def KeepsDirectory (path : List Char) : Prop :=
  normalPath (parentPath path) = directoryPath path

/-- No segment before the last slash holds an escape that could be undone, unless the path ends with
that slash. -/
def IsUnescaped (path : List Char) : Prop :=
  path.getLast? = some '/' ∨ ∀ s ∈ front path, decode s = s

theorem keepsDirectory_nil : KeepsDirectory [] := rfl

theorem keepsDirectory_slash (rest : List Char) :
    KeepsDirectory ('/' :: rest) ↔ (parentSegments rest).foldl resolveStep [] =
      (directorySegments rest).foldl resolveStep [] := by
  rw [KeepsDirectory, normalPath_parentPath, directoryPath_slash, List.cons_inj_right]
  refine ⟨directories_inj (notMem_resolved ?_) (notMem_resolved ?_), congrArg directories⟩
  · unfold parentSegments
    split
    · exact fun s hs => notMem_front hs
    · intro s hs
      obtain ⟨t, -, ht⟩ := List.mem_flatMap.mp hs
      exact Cut.notMem_of_mem_all ht
  · unfold directorySegments
    split
    · exact fun s hs => Cut.notMem_of_mem_all hs
    · exact fun s hs => notMem_front hs

theorem isUnescaped_slash (rest : List Char) :
    IsUnescaped ('/' :: rest) ↔ back rest = [] ∨ ∀ s ∈ front rest, decode s = s := by
  rw [IsUnescaped, ← back_eq_nil_iff (List.cons_ne_nil _ _), back_slash, front_slash,
    List.forall_mem_cons, and_iff_right (show decode [] = [] from rfl)]

theorem parentSegments_of_isUnescaped {rest : List Char} (h : IsUnescaped ('/' :: rest)) :
    parentSegments rest = front rest := by
  rw [parentSegments]
  rcases (isUnescaped_slash rest).mp h with hb | hd
  · exact if_pos hb
  · rw [List.map_congr_left hd, List.map_id', flatMap_all fun _ hs => notMem_front hs, ite_self]

theorem keepsDirectory_of_isUnescaped {path : List Char} (hroot : IsRooted path)
    (h : IsUnescaped path) (hup : back path ≠ ['.', '.']) : KeepsDirectory path := by
  obtain rfl | ⟨rest, rfl⟩ := hroot
  · exact keepsDirectory_nil
  · rw [back_slash] at hup
    rw [keepsDirectory_slash, parentSegments_of_isUnescaped h, directorySegments, if_neg hup]

section Weight

theorem directories_flatMap_all (segments : List (List Char)) :
    directories (segments.flatMap (Cut.all '/')) = directories segments := by
  induction segments with
  | nil => rfl
  | cons s segments ih =>
    have hs : directories (Cut.all '/' s) = s ++ ['/'] := by
      rw [← front_append_back, ← List.concat_eq_append, directories_concat, ← path_eq]
    rw [List.flatMap_cons, directories_append, hs, ih, directories_cons, List.append_assoc]
    rfl

theorem length_resolved (segments done : List (List Char)) :
    (directories (segments.foldl resolveStep done)).length ≤
      (directories done).length + (directories segments).length := by
  induction segments generalizing done with
  | nil => exact Nat.le_add_right _ _
  | cons s segments ih =>
    have hstep : (directories (resolveStep done s)).length ≤
        (directories done).length + (s.length + 1) := by
      unfold resolveStep
      split
      · rcases List.eq_nil_or_concat done with rfl | ⟨init, last, rfl⟩
        · exact Nat.zero_le _
        · rw [directories_concat, List.concat_eq_append, List.dropLast_concat]
          simp only [List.length_append]
          omega
      · split
        · omega
        · rw [← List.concat_eq_append, directories_concat]
          simp only [List.length_append, List.length_singleton]
          omega
    have hrest := ih (resolveStep done s)
    rw [List.foldl_cons, directories_cons, List.length_append, List.length_cons]
    omega

theorem length_map_decode (segments : List (List Char)) :
    (directories (segments.map decode)).length ≤ (directories segments).length := by
  induction segments with
  | nil => exact Nat.le_refl _
  | cons s segments ih =>
    have hs := (Percent.isAtMost_decode s).length_le
    rw [List.map_cons, directories_cons, directories_cons]
    simp only [List.length_append, List.length_cons]
    omega

theorem decode_of_length {segments : List (List Char)}
    (h : (directories segments).length ≤ (directories (segments.map decode)).length) :
    ∀ s ∈ segments, decode s = s := by
  induction segments with
  | nil => exact nofun
  | cons s segments ih =>
    have hs := Percent.isAtMost_decode s
    have hle := hs.length_le
    have hrest := length_map_decode segments
    rw [List.map_cons, directories_cons, directories_cons] at h
    simp only [List.length_append, List.length_cons] at h
    exact List.forall_mem_cons.mpr ⟨hs.resolve_right (by omega), ih (by omega)⟩

end Weight

theorem keepsDirectory_iff_of_isUndotted {path : List Char} (hroot : IsRooted path)
    (h : IsUndotted path) : KeepsDirectory path ↔ IsUnescaped path := by
  have hback : back path ≠ ['.', '.'] := fun hup =>
    h (back path) (front_append_back path ▸ List.mem_append_right _ List.mem_cons_self) (.inr hup)
  refine ⟨fun hkeeps => ?_, fun hu => keepsDirectory_of_isUnescaped hroot hu hback⟩
  obtain rfl | ⟨rest, rfl⟩ := hroot
  · exact .inr nofun
  rw [back_slash] at hback
  rw [isUndotted_slash] at h
  have hfront : (front rest).foldl resolveStep [] = front rest :=
    foldl_resolveStep_of_undotted (fun s hs => h s (List.dropLast_subset _ hs)) []
  rw [keepsDirectory_slash, directorySegments, if_neg hback, hfront, parentSegments] at hkeeps
  rw [isUnescaped_slash]
  by_cases hb : back rest = []
  · exact .inl hb
  · right
    rw [if_neg hb] at hkeeps
    apply decode_of_length
    -- the directory would be shorter if an escape were undone
    calc (directories (front rest)).length
        = (directories ((((front rest).map decode).flatMap (Cut.all '/')).foldl
            resolveStep [])).length := by rw [hkeeps]
      _ ≤ (directories []).length + (directories (((front rest).map decode).flatMap
            (Cut.all '/'))).length := length_resolved _ _
      _ = (directories ((front rest).map decode)).length := by
        rw [directories_flatMap_all]
        exact Nat.zero_add _

section Text

theorem isPlainScheme_of_relative {scheme : String} (h : relativeSchemes.contains scheme)
    (hne : scheme ≠ "") : IsPlainScheme scheme.toList := by
  simp only [relativeSchemes, List.contains_eq_mem, List.mem_cons, List.not_mem_nil, or_false,
    decide_eq_true_eq, hne, false_or] at h
  rcases h with rfl | rfl | rfl | rfl | rfl | rfl | rfl | rfl | rfl | rfl | rfl | rfl | rfl | rfl |
    rfl | rfl | rfl | rfl | rfl <;>
    exact ⟨⟨_, _, rfl, by decide⟩, forall_mem_of_all rfl, by decide⟩

theorem render_parentDirectory {u : Url} (hs : relativeSchemes.contains u.scheme) :
    u.parentDirectory.render = (Authority.read u.authority.toList).map fun a =>
      String.ofList (unsplit u.scheme.toList (shownAuthority u.scheme u.authority.toList a)
        (normalPath (parentPath u.path.toList)) [] []) := by
  rw [parentDirectory, if_pos hs, render_of_bare rfl rfl]
  simp only [String.toList_ofList]
  rfl

theorem render_parentDirectory_of_rootless {u : Url} (hs : ¬relativeSchemes.contains u.scheme) :
    u.parentDirectory.render = .ok "./" := by
  rw [parentDirectory, if_neg hs]
  decide +kernel

def directoryText (u : Url) : String :=
  String.ofList (unsplit u.scheme.toList u.authority.toList (directoryPath u.path.toList) [] [])

def ShowsAuthority (u : Url) : Prop :=
  ∃ a, Authority.read u.authority.toList = .ok a ∧
    shownAuthority u.scheme u.authority.toList a = u.authority.toList

theorem getLast?_directoryText (u : Url) : u.directoryText.toList.getLast? = some '/' := by
  rw [directoryText, String.toList_ofList]
  exact getLast?_unsplit _ _ List.getLast?_concat

theorem colon_mem_unsplit {scheme : List Char} (h : scheme ≠ []) (authority path : List Char) :
    ':' ∈ unsplit scheme authority path [] [] := by
  have hne : scheme.isEmpty = false := by simpa using h
  unfold unsplit
  simp only [hne, Bool.false_eq_true, if_false, List.isEmpty_nil, if_true, List.append_nil]
  split <;> simp

theorem exists_parent_eq {path : List Char} (h : IsRooted path) :
    (∃ rest, normalPath (parentPath path) = '/' :: rest) ∧
      ∃ rest, directoryPath path = '/' :: rest := by
  obtain rfl | ⟨rest, rfl⟩ := h
  · exact ⟨⟨[], rfl⟩, ⟨[], rfl⟩⟩
  · exact ⟨⟨_, normalPath_parentPath rest⟩, ⟨_, directoryPath_slash rest⟩⟩

theorem getLast?_parentText_iff {u : Url} {a : Authority} (hrel : relativeSchemes.contains u.scheme)
    (hr : u.authority ≠ "" → IsRooted u.path.toList)
    (ha : Authority.read u.authority.toList = .ok a) :
    (unsplit u.scheme.toList (shownAuthority u.scheme u.authority.toList a)
        (normalPath (parentPath u.path.toList)) [] []).getLast? = some '/' ↔
      (u.scheme = "" → normalPath (parentPath u.path.toList) ≠ []) := by
  rcases getLast?_parent u.path.toList with hnil | hlast
  · -- nothing is left of a path that is relative and has no directory
    have hauthority : u.authority = "" := by
      by_contra h
      obtain ⟨⟨rest, hrest⟩, -⟩ := exists_parent_eq (hr h)
      rw [hrest] at hnil
      cases hnil
    have hshown : shownAuthority u.scheme u.authority.toList a = [] := by
      rw [hauthority] at ha ⊢
      cases ha
      rfl
    rw [hshown, hnil]
    by_cases hs : u.scheme = ""
    · rw [hs]
      exact iff_of_false (by decide) fun h => h rfl rfl
    · rw [(isPlainScheme_of_relative hrel hs).unsplit_eq]
      exact iff_of_true (by simp [rooted_nil]) fun h => absurd h hs
  · refine iff_of_true (getLast?_unsplit _ _ hlast) fun _ h => ?_
    rw [h] at hlast
    cases hlast

/-- The directory is written as the address, cut behind the last slash, exactly below a scheme with
relative addresses, for an authority that is shown as it is and a path that keeps its directory. -/
theorem render_parentDirectory_iff {u : Url} (hs : u.scheme ≠ "") (hu : u.Separated)
    (hr : IsRooted u.path.toList) :
    u.parentDirectory.render = .ok u.directoryText ↔
      relativeSchemes.contains u.scheme ∧ u.ShowsAuthority ∧ KeepsDirectory u.path.toList := by
  by_cases hrel : relativeSchemes.contains u.scheme
  · have hplain := isPlainScheme_of_relative hrel hs
    obtain ⟨⟨parent, hparent⟩, ⟨own, hown⟩⟩ := exists_parent_eq hr
    rw [render_parentDirectory hrel, and_iff_right hrel, ShowsAuthority, KeepsDirectory,
      directoryText, hparent, hown]
    cases ha : Authority.read u.authority.toList with
    | error e => exact iff_of_false nofun fun h => nomatch h.1.choose_spec.1
    | ok a =>
      simp only [Except.map, Except.ok.injEq, String.ofList_inj, hplain.unsplit_eq, rooted_slash,
        List.isEmpty_nil, if_true, List.append_nil, List.append_cancel_left_eq, List.cons.injEq,
        true_and, exists_eq_left']
      refine ⟨fun h => ?_, fun ⟨h, ht⟩ => by rw [h, ht]⟩
      -- no slash stands in either authority
      have hno {s : List Char} (h : StaysInside s) : '/' ∉ s := fun hm => nomatch h '/' hm
      have hshown : '/' ∉ shownAuthority u.scheme u.authority.toList a :=
        hno (staysInside_shownAuthority hu.authority (Authority.staysInside_read hu.authority ha))
      have hcut := congrArg (Cut.first '/') h
      rw [Cut.first_append hshown, Cut.first_append (hno hu.authority), Prod.mk.injEq,
        Option.some.injEq] at hcut
      exact hcut
  · rw [render_parentDirectory_of_rootless hrel]
    refine iff_of_false (fun h => ?_) fun h => hrel h.1
    have hcolon := colon_mem_unsplit (mt String.toList_eq_nil_iff.mp hs) u.authority.toList
      (directoryPath u.path.toList)
    rw [Except.ok.injEq, directoryText] at h
    rw [← String.toList_ofList (l := unsplit _ _ _ _ _), ← h] at hcolon
    exact absurd hcolon (by decide)

end Text

end EmitBridge.Url
