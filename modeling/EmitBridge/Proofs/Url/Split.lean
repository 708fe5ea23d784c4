import EmitBridge.Proofs.Run.Result
import EmitBridge.Proofs.Text.Cut
import EmitBridge.Url.Basic
import Mathlib.Data.List.TakeWhile

/-! An address is split where it was put together, as long as no part holds a character that would
end it. -/

namespace EmitBridge.Url

theorem isEmpty_eq_toList (s : String) : s.isEmpty = s.toList.isEmpty := by
  rw [Bool.eq_iff_iff, String.isEmpty_iff, List.isEmpty_iff, String.toList_eq_nil_iff]

def isBreak (c : Char) : Bool := c == '\t' || c == '\r' || c == '\n'

def leavesAuthority (c : Char) : Bool := endsAuthority c || isBreak c

structure Separated (u : Url) : Prop where
  authority : ∀ c ∈ u.authority.toList, leavesAuthority c = false
  path : ∀ c ∈ u.path.toList, c ≠ '?' ∧ c ≠ '#' ∧ isBreak c = false
  query : ∀ c ∈ u.query.toList, c ≠ '#' ∧ isBreak c = false
  fragment : ∀ c ∈ u.fragment.toList, isBreak c = false

def rooted (path : List Char) : List Char :=
  if path.isEmpty || path.head? == some '/' then path else '/' :: path

def IsRooted (path : List Char) : Prop := path = [] ∨ ∃ rest, path = '/' :: rest

theorem mem_cleaned {s : List Char} {c : Char} (h : c ∈ cleaned s) : c ∈ s ∧ isBreak c = false := by
  obtain ⟨hm, hc⟩ := List.mem_filter.1 h
  refine ⟨(List.dropWhile_sublist _).subset hm, ?_⟩
  simpa [isBreak, and_assoc] using hc

theorem cleaned_eq_self {c : Char} {s : List Char} (hc : 0x20 < c.toNat)
    (h : ∀ d ∈ c :: s, isBreak d = false) : cleaned (c :: s) = c :: s := by
  rw [cleaned, List.dropWhile_cons_of_neg (by simpa using hc), List.filter_eq_self]
  intro d hd
  simpa [isBreak, and_assoc] using h d hd

theorem splitScheme_subset (s : List Char) : (splitScheme s).2 ⊆ s := by
  rw [splitScheme]
  split
  · next h =>
    split
    · exact Cut.first_snd_subset h
    · exact List.Subset.refl s
  · exact List.Subset.refl s

def splitAuthority : List Char → List Char × List Char
  | '/' :: '/' :: rest =>
    let authority := rest.takeWhile fun c => !endsAuthority c
    (authority, rest.drop authority.length)
  | rest => ([], rest)

def withRest (scheme authority rest : List Char) : Url :=
  let (rest, fragment) := Cut.first '#' rest
  let (path, query) := Cut.first '?' rest
  { scheme := String.ofList scheme
    authority := String.ofList authority
    path := String.ofList path
    query := String.ofList (query.getD [])
    fragment := String.ofList (fragment.getD [])
    known := none }

theorem verbatimChars_eq [HostNames] (s : List Char) :
    verbatimChars s =
      (checkAuthority (splitAuthority (splitScheme (cleaned s)).2).1).map fun _ =>
        withRest (splitScheme (cleaned s)).1 (splitAuthority (splitScheme (cleaned s)).2).1
          (splitAuthority (splitScheme (cleaned s)).2).2 := by
  rfl

theorem verbatimChars_eq_ok [HostNames] {s : List Char} {u : Url} (h : verbatimChars s = .ok u) :
    checkAuthority (splitAuthority (splitScheme (cleaned s)).2).1 = .ok () ∧
      u = withRest (splitScheme (cleaned s)).1 (splitAuthority (splitScheme (cleaned s)).2).1
        (splitAuthority (splitScheme (cleaned s)).2).2 := by
  rw [verbatimChars_eq] at h
  obtain ⟨_, hchecked, hu⟩ := Run.exists_of_map_eq_ok h
  exact ⟨hchecked, hu.symm⟩

theorem splitAuthority_subset (s : List Char) :
    (∀ c ∈ (splitAuthority s).1, c ∈ s ∧ endsAuthority c = false) ∧ (splitAuthority s).2 ⊆ s := by
  unfold splitAuthority
  split
  · next rest =>
    have hsub : rest ⊆ '/' :: '/' :: rest := fun c hc =>
      List.mem_cons_of_mem _ (List.mem_cons_of_mem _ hc)
    refine ⟨fun c hc => ⟨hsub ((List.takeWhile_sublist _).subset hc), ?_⟩,
      fun c hc => hsub ((List.drop_sublist _ _).subset hc)⟩
    simpa using List.mem_takeWhile_imp hc
  · exact ⟨fun c hc => absurd hc List.not_mem_nil, List.Subset.refl s⟩

theorem splitAuthority_append {authority : List Char}
    (ha : ∀ c ∈ authority, endsAuthority c = false) {rest : List Char}
    (hr : ∀ c ∈ rest.head?, endsAuthority c) :
    splitAuthority ('/' :: '/' :: (authority ++ rest)) = (authority, rest) := by
  have htake : (authority ++ rest).takeWhile (fun c => !endsAuthority c) = authority := by
    rw [List.takeWhile_append_of_pos (by simpa using ha)]
    cases rest with
    | nil => simp
    | cons c rest =>
      rw [List.takeWhile_cons_of_neg (by simpa using hr c rfl), List.append_nil]
  rw [splitAuthority]
  simp only [htake, List.drop_left]

theorem separated_withRest {scheme authority rest : List Char}
    (ha : ∀ c ∈ authority, leavesAuthority c = false) (hr : ∀ c ∈ rest, isBreak c = false) :
    (withRest scheme authority rest).Separated := by
  -- the fragment is cut off first, and the query from what is before it
  cases hf : Cut.first '#' rest with
  | mk body fragment =>
    cases hq : Cut.first '?' body with
    | mk path query =>
      have hbody : body ⊆ rest := by
        have h := Cut.first_fst_subset '#' rest
        rwa [hf] at h
      have hpath : path ⊆ body := by
        have h := Cut.first_fst_subset '?' body
        rwa [hq] at h
      have hhash : '#' ∉ body := Cut.notMem_of_first hf
      rw [withRest, hf]
      simp only [hq]
      refine ⟨?_, ?_, ?_, ?_⟩ <;> simp only [String.toList_ofList]
      · exact ha
      · refine fun c hc => ⟨?_, ?_, hr c (hbody (hpath hc))⟩
        · rintro rfl
          exact Cut.notMem_of_first hq hc
        · rintro rfl
          exact hhash (hpath hc)
      · intro c hc
        cases query with
        | none => exact absurd hc List.not_mem_nil
        | some query =>
          have hm : c ∈ body := Cut.first_snd_subset hq hc
          refine ⟨?_, hr c (hbody hm)⟩
          rintro rfl
          exact hhash hm
      · intro c hc
        cases fragment with
        | none => exact absurd hc List.not_mem_nil
        | some fragment => exact hr c (Cut.first_snd_subset hf hc)

theorem separated_of_verbatim [HostNames] {s : List Char} {u : Url} (h : verbatimChars s = .ok u) :
    u.Separated := by
  obtain ⟨-, rfl⟩ := verbatimChars_eq_ok h
  have hbreak : ∀ c ∈ (splitScheme (cleaned s)).2, isBreak c = false := fun c hc =>
    (mem_cleaned (splitScheme_subset _ hc)).2
  obtain ⟨hauth, hrest⟩ := splitAuthority_subset (splitScheme (cleaned s)).2
  refine separated_withRest (fun c hc => ?_) fun c hc => hbreak c (hrest hc)
  rw [leavesAuthority, (hauth c hc).2, hbreak c (hauth c hc).1]
  rfl

theorem known_of_verbatim [HostNames] {s : List Char} {u : Url} (h : verbatimChars s = .ok u) :
    u.known = none := by
  obtain ⟨-, rfl⟩ := verbatimChars_eq_ok h
  rfl

theorem checked_of_verbatim [HostNames] {s : List Char} {u : Url} (h : verbatimChars s = .ok u) :
    checkAuthority u.authority.toList = .ok () := by
  obtain ⟨hc, rfl⟩ := verbatimChars_eq_ok h
  rw [withRest]
  simpa using hc

theorem authority_subset_of_verbatim [HostNames] {s : List Char} {u : Url}
    (h : verbatimChars s = .ok u) : u.authority.toList ⊆ s := by
  obtain ⟨-, rfl⟩ := verbatimChars_eq_ok h
  intro c hc
  rw [withRest, String.toList_ofList] at hc
  exact (mem_cleaned (splitScheme_subset _ ((splitAuthority_subset _).1 c hc).1)).1

theorem head?_splitAuthority {s : List Char} (h : (splitAuthority s).1 ≠ []) :
    ∀ c ∈ (splitAuthority s).2.head?, endsAuthority c := by
  revert h
  unfold splitAuthority
  split
  · next rest =>
    intro _ c hc
    have hdrop : rest.drop (rest.takeWhile fun c => !endsAuthority c).length =
        rest.dropWhile fun c => !endsAuthority c := by
      calc _ = (rest.takeWhile (fun c => !endsAuthority c) ++
            rest.dropWhile fun c => !endsAuthority c).drop
              (rest.takeWhile fun c => !endsAuthority c).length := by
            rw [List.takeWhile_append_dropWhile]
        _ = _ := List.drop_left
    have hnot := List.head?_dropWhile_not (fun c => !endsAuthority c) rest
    rw [← hdrop, Option.mem_def.1 hc] at hnot
    simpa using hnot
  · exact fun h => absurd rfl h

theorem isRooted_withRest {scheme authority rest : List Char}
    (h : ∀ c ∈ rest.head?, endsAuthority c) :
    IsRooted (withRest scheme authority rest).path.toList := by
  cases hf : Cut.first '#' rest with
  | mk body fragment =>
    cases hq : Cut.first '?' body with
    | mk path query =>
      rw [withRest, hf]
      simp only [hq, String.toList_ofList]
      cases path with
      | nil => exact .inl rfl
      | cons c path =>
        have hbody := Cut.eq_of_first hq
        have hrest := Cut.eq_of_first hf
        rw [hbody] at hrest
        have hc : endsAuthority c := h c (by rw [hrest]; rfl)
        have hquery : c ≠ '?' := fun he => Cut.notMem_of_first hq (he ▸ List.mem_cons_self)
        have hhash : c ≠ '#' := fun he => Cut.notMem_of_first hf
          (hbody ▸ List.mem_append_left _ (he ▸ List.mem_cons_self))
        refine .inr ⟨path, ?_⟩
        simp only [endsAuthority, Bool.or_eq_true, beq_iff_eq, hquery, hhash, or_false] at hc
        rw [hc]

theorem isRooted_of_verbatim [HostNames] {s : List Char} {u : Url} (h : verbatimChars s = .ok u)
    (ha : u.authority.toList ≠ []) : IsRooted u.path.toList := by
  obtain ⟨-, rfl⟩ := verbatimChars_eq_ok h
  refine isRooted_withRest (head?_splitAuthority ?_)
  rw [withRest] at ha
  simpa using ha

theorem first_marked {mark : Char} {front : List Char} (h : mark ∉ front) (part : List Char) :
    (Cut.first mark (front ++ if part.isEmpty then [] else mark :: part)).1 = front ∧
      (Cut.first mark (front ++ if part.isEmpty then [] else mark :: part)).2.getD [] = part := by
  cases part with
  | nil =>
    have htext : (front ++ if ([] : List Char).isEmpty then [] else [mark]) = front :=
      List.append_nil front
    rw [htext, Cut.first_of_notMem h]
    exact ⟨rfl, rfl⟩
  | cons c part =>
    have htext : (front ++ if (c :: part).isEmpty then [] else mark :: c :: part) =
        front ++ mark :: c :: part := rfl
    rw [htext, Cut.first_append h]
    exact ⟨rfl, rfl⟩

theorem mem_marked {mark c : Char} {part : List Char}
    (h : c ∈ if part.isEmpty then [] else mark :: part) : c = mark ∨ c ∈ part := by
  split at h
  · exact absurd h List.not_mem_nil
  · exact List.mem_cons.1 h

theorem isBreak_of_mem_marked {mark c : Char} {part : List Char} (hmark : isBreak mark = false)
    (hpart : ∀ c ∈ part, isBreak c = false)
    (h : c ∈ if part.isEmpty then [] else mark :: part) : isBreak c = false := by
  rcases mem_marked h with rfl | h
  · exact hmark
  · exact hpart c h

theorem withRest_eq (scheme authority rest : List Char) :
    withRest scheme authority rest =
      ⟨String.ofList scheme, String.ofList authority,
        String.ofList (Cut.first '?' (Cut.first '#' rest).1).1,
        String.ofList ((Cut.first '?' (Cut.first '#' rest).1).2.getD []),
        String.ofList ((Cut.first '#' rest).2.getD []), none⟩ := rfl

theorem withRest_append {scheme authority path query fragment : List Char}
    (hp : ∀ c ∈ path, c ≠ '?' ∧ c ≠ '#') (hq : '#' ∉ query) :
    withRest scheme authority (path ++ (if query.isEmpty then [] else '?' :: query)
        ++ (if fragment.isEmpty then [] else '#' :: fragment)) =
      ⟨String.ofList scheme, String.ofList authority, String.ofList path, String.ofList query,
        String.ofList fragment, none⟩ := by
  have hbody : '#' ∉ path ++ (if query.isEmpty then [] else '?' :: query) := by
    rw [List.mem_append]
    rintro (h | h)
    · exact (hp _ h).2 rfl
    · exact hq ((mem_marked h).resolve_left (by decide))
  obtain ⟨hfront, hfragment⟩ := first_marked hbody fragment
  obtain ⟨hpath, hquery⟩ := first_marked (fun h => (hp '?' h).1 rfl) query
  rw [withRest_eq, hfront, hfragment, hpath, hquery]

/-- A scheme that is told from what follows it, and whose addresses always show an authority. -/
structure IsPlainScheme (scheme : List Char) : Prop where
  head : ∃ c rest, scheme = c :: rest ∧ 0x20 < c.toNat
  chars : ∀ c ∈ scheme, isSchemeChar c ∧ isBreak c = false ∧ c.toLower = c
  shown : authoritySchemes.contains (String.ofList scheme)

namespace IsPlainScheme

variable {scheme : List Char} (h : IsPlainScheme scheme)

include h

theorem isEmpty : scheme.isEmpty = false := by
  obtain ⟨c, rest, rfl, _⟩ := h.head
  rfl

theorem notMem_colon : ':' ∉ scheme := fun hm => absurd (h.chars _ hm).1 (by decide)

theorem splitScheme (rest : List Char) :
    Url.splitScheme (scheme ++ ':' :: rest) = (scheme, rest) := by
  have hall : scheme.all isSchemeChar := List.all_eq_true.2 fun c hc => (h.chars c hc).1
  have hlower : scheme.map Char.toLower = scheme :=
    (List.map_congr_left fun c hc => (h.chars c hc).2.2).trans (List.map_id scheme)
  rw [Url.splitScheme, Cut.first_append h.notMem_colon]
  simp only [h.isEmpty, hall, hlower, Bool.not_false, Bool.and_self, if_true]

theorem cleaned {rest : List Char} (hr : ∀ c ∈ rest, isBreak c = false) :
    Url.cleaned (scheme ++ ':' :: rest) = scheme ++ ':' :: rest := by
  obtain ⟨c, tail, rfl, hc⟩ := h.head
  refine cleaned_eq_self hc fun d hd => ?_
  rcases List.mem_append.1 (show d ∈ (c :: tail) ++ ':' :: rest from hd) with hd | hd
  · exact (h.chars d hd).2.1
  · rcases List.mem_cons.1 hd with rfl | hd
    · decide
    · exact hr d hd

theorem scheme_of_verbatim [HostNames] {rest : List Char} {u : Url}
    (hv : verbatimChars (scheme ++ ':' :: rest) = .ok u) : u.scheme = String.ofList scheme := by
  have hcleaned : ∃ rest', Url.cleaned (scheme ++ ':' :: rest) = scheme ++ ':' :: rest' := by
    obtain ⟨c, tail, rfl, hc⟩ := h.head
    refine ⟨rest.filter fun c => c != '\t' && c != '\r' && c != '\n', ?_⟩
    rw [Url.cleaned, List.cons_append, List.dropWhile_cons_of_neg (by simpa using hc),
      ← List.cons_append, List.filter_append]
    congr 1
    rw [List.filter_eq_self]
    intro d hd
    simpa [isBreak, and_assoc] using (h.chars d hd).2.1
  obtain ⟨rest', hr⟩ := hcleaned
  rw [verbatimChars_eq, hr, h.splitScheme] at hv
  cases hc : checkAuthority (splitAuthority rest').1 with
  | error e =>
    rw [hc] at hv
    cases hv
  | ok _ =>
    rw [hc] at hv
    cases hv
    rfl

theorem unsplit_eq (authority path query fragment : List Char) :
    unsplit scheme authority path query fragment =
      scheme ++ ':' :: '/' :: '/' :: (authority ++
        (rooted path ++ (if query.isEmpty then [] else '?' :: query)
          ++ (if fragment.isEmpty then [] else '#' :: fragment))) := by
  unfold unsplit
  rw [if_pos (by rw [h.shown, Bool.or_true, Bool.true_or]), h.isEmpty, rooted]
  simp only [Bool.false_eq_true, if_false, List.append_assoc, List.cons_append, List.nil_append]

end IsPlainScheme

theorem mem_rooted {path : List Char} {c : Char} (h : c ∈ rooted path) : c = '/' ∨ c ∈ path := by
  rw [rooted] at h
  split at h
  · exact .inr h
  · exact List.mem_cons.1 h

theorem rooted_slash (rest : List Char) : rooted ('/' :: rest) = '/' :: rest := by
  rw [rooted, if_pos (by simp)]

theorem rooted_nil : rooted [] = [] := rfl

theorem rooted_rooted (path : List Char) : rooted (rooted path) = rooted path := by
  rw [rooted]
  split
  · rfl
  · next h =>
    rw [rooted] at h
    split at h
    · next h' => exact absurd h' h
    · simp at h

theorem head?_rest (path query fragment : List Char) :
    ∀ c ∈ (rooted path ++ (if query.isEmpty then [] else '?' :: query)
          ++ (if fragment.isEmpty then [] else '#' :: fragment)).head?, endsAuthority c := by
  have hroot : rooted path = [] ∨ ∃ rest, rooted path = '/' :: rest := by
    rw [rooted]
    cases path with
    | nil => exact .inl rfl
    | cons c rest =>
      by_cases hc : c = '/'
      · exact .inr ⟨rest, by simp [hc]⟩
      · exact .inr ⟨c :: rest, by simp [hc]⟩
  rcases hroot with hr | ⟨rest, hr⟩ <;> rw [hr] <;> cases query <;> cases fragment <;>
    simp [endsAuthority]

theorem verbatimChars_unsplit [HostNames] {scheme authority path query fragment : List Char}
    (hs : IsPlainScheme scheme) (ha : ∀ c ∈ authority, leavesAuthority c = false)
    (hp : ∀ c ∈ path, c ≠ '?' ∧ c ≠ '#' ∧ isBreak c = false)
    (hq : ∀ c ∈ query, c ≠ '#' ∧ isBreak c = false) (hf : ∀ c ∈ fragment, isBreak c = false) :
    verbatimChars (unsplit scheme authority path query fragment) =
      (checkAuthority authority).map fun _ =>
        ⟨String.ofList scheme, String.ofList authority, String.ofList (rooted path),
          String.ofList query, String.ofList fragment, none⟩ := by
  have hauth : ∀ c ∈ authority, endsAuthority c = false ∧ isBreak c = false := fun c hc => by
    simpa [leavesAuthority] using ha c hc
  have hroot : ∀ c ∈ rooted path, c ≠ '?' ∧ c ≠ '#' ∧ isBreak c = false := fun c hc => by
    rcases mem_rooted hc with rfl | hc
    · decide
    · exact hp c hc
  -- no break is left to be taken out of the text before it is split
  have hbreak : ∀ c ∈ '/' :: '/' :: (authority ++ (rooted path ++
      (if query.isEmpty then [] else '?' :: query)
        ++ (if fragment.isEmpty then [] else '#' :: fragment))), isBreak c = false := by
    intro c hc
    simp only [List.mem_cons, List.mem_append] at hc
    rcases hc with rfl | rfl | hc | (hc | hc) | hc
    · decide
    · decide
    · exact (hauth c hc).2
    · exact (hroot c hc).2.2
    · exact isBreak_of_mem_marked (by decide) (fun c hc => (hq c hc).2) hc
    · exact isBreak_of_mem_marked (by decide) hf hc
  rw [hs.unsplit_eq, verbatimChars_eq, hs.cleaned hbreak, hs.splitScheme,
    splitAuthority_append (fun c hc => (hauth c hc).1) (head?_rest path query fragment)]
  rw [withRest_append (fun c hc => ⟨(hroot c hc).1, (hroot c hc).2.1⟩)
    fun hm => (hq _ hm).1 rfl]

def shownAuthority (scheme : String) (authority : List Char) (a : Authority) : List Char :=
  match a.portNumber with
  | some n =>
    if defaultPort? scheme == some n then
      match a.host with
      | some h =>
        Authority.write a.user a.password (if h.contains ':' then '[' :: h ++ [']'] else h) none
      | none => []
    else authority
  | none => authority

def shownPath (u : Url) : List Char :=
  rooted (if u.path.isEmpty && !u.authority.isEmpty && (!u.query.isEmpty || !u.fragment.isEmpty)
    then ['/'] else u.path.toList)

theorem render_eq {u : Url} (hs : IsPlainScheme u.scheme.toList) :
    u.render = u.parts.map fun a => String.ofList
      (unsplit u.scheme.toList (shownAuthority u.scheme u.authority.toList a) u.shownPath
        u.query.toList u.fragment.toList) := by
  have hpath (b : Bool) : rooted (if b then "/" else u.path).toList =
      rooted (rooted (if b then ['/'] else u.path.toList)) := by
    rw [rooted_rooted]
    cases b <;> simp
  unfold render
  cases u.parts with
  | error e => rfl
  | ok a =>
    refine congrArg (fun l => Except.ok (String.ofList l)) ?_
    rw [hs.unsplit_eq, hs.unsplit_eq, shownPath, ← hpath]
    rfl

theorem render_of_bare {u : Url} (hq : u.query = "") (hf : u.fragment = "") :
    u.render = u.parts.map fun a => String.ofList
      (unsplit u.scheme.toList (shownAuthority u.scheme u.authority.toList a) u.path.toList
        [] []) := by
  unfold render
  cases u.parts with
  | error e => rfl
  | ok a =>
    have hempty : (!("" : String).isEmpty) = false := rfl
    simp only [hq, hf, hempty, Bool.or_self, Bool.and_false, Bool.false_eq_true, if_false]
    rfl

theorem getLast?_unsplit (scheme authority : List Char) {path : List Char}
    (h : path.getLast? = some '/') :
    (unsplit scheme authority path [] []).getLast? = some '/' := by
  have hend {path : List Char} (h : path.getLast? = some '/') (front : List Char) :
      (front ++ path).getLast? = some '/' := by
    rw [List.getLast?_append, h]
    rfl
  have hroot : (if path.isEmpty || path.head? == some '/' then path else '/' :: path).getLast? =
      some '/' := by
    split
    · exact h
    · exact hend h ['/']
  unfold unsplit
  simp only [List.isEmpty_nil, if_true, List.append_nil]
  split
  · exact hend hroot _
  · split
    · exact h
    · exact hend (hend h [':']) scheme

theorem mem_shownPath {u : Url} (h : u.Separated) {c : Char} (hc : c ∈ u.shownPath) :
    c ≠ '?' ∧ c ≠ '#' ∧ isBreak c = false := by
  rcases mem_rooted hc with rfl | hc
  · decide
  · split at hc
    · rw [List.mem_singleton.1 hc]
      decide
    · exact h.path c hc

theorem verbatim_render [HostNames] {u : Url} (hs : IsPlainScheme u.scheme.toList) (h : u.Separated)
    {a : Authority} (ha : ∀ c ∈ shownAuthority u.scheme u.authority.toList a,
      leavesAuthority c = false) :
    verbatimChars (unsplit u.scheme.toList (shownAuthority u.scheme u.authority.toList a)
        u.shownPath u.query.toList u.fragment.toList) =
      (checkAuthority (shownAuthority u.scheme u.authority.toList a)).map fun _ =>
        ⟨u.scheme, String.ofList (shownAuthority u.scheme u.authority.toList a),
          String.ofList u.shownPath, u.query, u.fragment, none⟩ := by
  rw [verbatimChars_unsplit hs ha (fun c hc => mem_shownPath h hc) h.query h.fragment]
  simp only [String.ofList_toList, shownPath, rooted_rooted]

end EmitBridge.Url
