import EmitBridge.Proofs.Url.Authority
import EmitBridge.Proofs.Url.Dots

/-! Addresses in normal form. They are the ones whose text is read as an address with the same
text. -/

namespace EmitBridge.Url

open Percent.Part

structure IsNormalAuthority [HostNames] (scheme : String) (authority : List Char) : Prop where
  noNull : '\x00' ∉ authority
  checked : checkAuthority authority = .ok ()
  shown : ∃ written a, normalAuthority scheme authority = .ok (written, a) ∧
    shownAuthority scheme written a = authority

/-- An address that is shown in normal form: its parts hold escapes just where they belong, and
below an authority there are no dot segments. -/
structure IsNormal [HostNames] (u : Url) : Prop where
  path : pathPart.Quoted u.shownPath
  query : queryPart.Quoted u.query.toList
  fragment : fragmentPart.Quoted u.fragment.toList
  authority : ∃ a, u.parts = .ok a ∧
    (shownAuthority u.scheme u.authority.toList a = [] ∨
      IsNormalAuthority u.scheme (shownAuthority u.scheme u.authority.toList a) ∧
        IsUndotted u.shownPath)

structure HasParts (u : Url) (a : Authority) : Prop where
  parts : u.parts = .ok a
  inside : a.StaysInside
  portless : u.authority.toList = [] → a.portNumber = none

def normalized (u : Url) (authority : List Char) (known : Authority) : Url :=
  { scheme := u.scheme
    authority := String.ofList authority
    path := String.ofList (if authority.isEmpty then pathPart.requote u.path.toList
      else normalPathIfDotted (pathPart.requote u.path.toList))
    query := String.ofList (queryPart.requote u.query.toList)
    fragment := String.ofList (fragmentPart.requote u.fragment.toList)
    known := some known }

def normalKnown [HostNames] (u : Url) : Except UrlError (List Char × Authority) :=
  if u.authority.isEmpty then .ok ([], ⟨none, none, some [], none⟩)
  else normalAuthority u.scheme u.authority.toList

theorem parse_eq [HostNames] {s : String} {u : Url} (h : verbatim s = .ok u)
    (hs : u.scheme.isEmpty = false) :
    parse s = u.normalKnown.map fun k => u.normalized k.1 k.2 := by
  have hpath (b : Bool) (p : List Char) :
      (if u.scheme.isEmpty && b then escapeScheme p else p) = p := by
    rw [hs, Bool.false_and, if_neg Bool.false_ne_true]
  unfold parse normalKnown
  rw [h]
  cases hk : u.authority.isEmpty with
  | true =>
    simp only [bind, Except.bind, hk, if_true, hpath, pure, Except.pure, Except.map]
    rfl
  | false =>
    simp only [bind, Except.bind, hk, hpath, pure, Except.pure, Except.map, Bool.false_eq_true,
      if_false]
    cases normalAuthority u.scheme u.authority.toList <;> rfl

theorem mem_normalPath {path : List Char} {c : Char} (h : c ∈ normalPath path) :
    c = '/' ∨ c ∈ path := by
  have hjoin {rest : List Char} (h : c ∈ Cut.join '/' (resolveSegments (Cut.all '/' rest))) :
      c = '/' ∨ c ∈ rest := by
    rcases Cut.mem_join h with rfl | ⟨s, hs, hc⟩
    · exact .inl rfl
    · rcases (mem_resolveSegments hs).1 with hs | rfl
      · exact .inr (Cut.subset_of_mem_all hs hc)
      · exact absurd hc List.not_mem_nil
  unfold normalPath at h
  split at h
  · rcases List.mem_cons.1 h with rfl | h
    · exact .inl rfl
    · exact (hjoin h).imp_right (List.mem_cons_of_mem _)
  · exact hjoin h

theorem mem_normalPathIfDotted {path : List Char} {c : Char} (h : c ∈ normalPathIfDotted path) :
    c = '/' ∨ c ∈ path := by
  rw [normalPathIfDotted] at h
  split at h
  · exact mem_normalPath h
  · exact .inr h

theorem ne_of_mem_requote {p : Percent.Part} (hp : p.IsProper) {s : List Char} {c d : Char}
    (hd : p.plain d = false ∧ d ≠ '%' ∧ d.isAlphanum = false) (hc : c ∈ p.requote s) : c ≠ d := by
  rintro rfl
  exact notMem_requote hp hd s hc

theorem isBreak_of_mem_requote {p : Percent.Part} (hp : p.IsProper)
    (hplain : p.plain '\t' = false ∧ p.plain '\r' = false ∧ p.plain '\n' = false) {s : List Char}
    {c : Char} (hc : c ∈ p.requote s) : isBreak c = false := by
  obtain ⟨htab, hreturn, hline⟩ := hplain
  rw [isBreak, beq_eq_false_iff_ne.mpr (ne_of_mem_requote hp ⟨htab, by decide⟩ hc),
    beq_eq_false_iff_ne.mpr (ne_of_mem_requote hp ⟨hreturn, by decide⟩ hc),
    beq_eq_false_iff_ne.mpr (ne_of_mem_requote hp ⟨hline, by decide⟩ hc)]
  rfl

theorem separated_normalized (u : Url) {authority : List Char} (h : StaysInside authority)
    (known : Authority) : (u.normalized authority known).Separated := by
  have hpath {c : Char} (hc : c ∈ pathPart.requote u.path.toList) :
      c ≠ '?' ∧ c ≠ '#' ∧ isBreak c = false :=
    ⟨ne_of_mem_requote isProper_pathPart (by decide) hc,
      ne_of_mem_requote isProper_pathPart (by decide) hc,
      isBreak_of_mem_requote isProper_pathPart (by decide) hc⟩
  refine ⟨?_, ?_, ?_, ?_⟩ <;> simp only [normalized, String.toList_ofList]
  · exact h
  · intro c hc
    split at hc
    · exact hpath hc
    · rcases mem_normalPathIfDotted hc with rfl | hc
      · decide
      · exact hpath hc
  · exact fun c hc => ⟨ne_of_mem_requote isProper_queryPart (by decide) hc,
      isBreak_of_mem_requote isProper_queryPart (by decide) hc⟩
  · exact fun c hc => isBreak_of_mem_requote isProper_fragmentPart (by decide) hc

theorem normalAuthority_eq_ok [HostNames] {scheme : String} {authority written : List Char}
    {a : Authority} (h : normalAuthority scheme authority = .ok (written, a)) :
    ∃ a₀ host normal, Authority.read authority = .ok a₀ ∧
      (a₀.host = some host ∨ a₀.host = none ∧ host = [] ∧ hostSchemes.contains scheme = false) ∧
      normalHost host = .ok normal ∧
      a = ⟨a₀.user.map userPart.requote, a₀.password.map userPart.requote,
        some (bareHost normal), a₀.portNumber⟩ ∧
      written = Authority.write a.user a.password normal a₀.portNumber := by
  unfold normalAuthority at h
  cases hr : Authority.read authority with
  | error e =>
    rw [hr] at h
    cases h
  | ok a₀ =>
    rw [hr] at h
    simp only [bind, Except.bind] at h
    cases hh : a₀.host with
    | some host =>
      rw [hh] at h
      simp only [pure, Except.pure] at h
      cases hn : normalHost host with
      | error e =>
        rw [hn] at h
        cases h
      | ok normal =>
        rw [hn] at h
        cases h
        exact ⟨a₀, host, normal, rfl, .inl hh, hn, rfl, rfl⟩
    | none =>
      rw [hh] at h
      cases hc : hostSchemes.contains scheme with
      | true =>
        simp only [hc, if_true] at h
        cases h
      | false =>
        simp only [hc, Bool.false_eq_true, if_false] at h
        cases h
        exact ⟨a₀, [], [], rfl, .inr ⟨hh, rfl, rfl⟩, rfl, rfl, rfl⟩

theorem bareHost_of_notMem {host : List Char} (h : '[' ∉ host) : bareHost host = host := by
  rw [bareHost, if_neg (by simpa using h)]

theorem bareHost_brackets (content : List Char) :
    bareHost ('[' :: (content ++ [']'])) = content := by
  rw [bareHost, if_pos (by simp), List.drop_one, List.tail_cons, List.dropLast_concat]

theorem bareHost_subset (host : List Char) : bareHost host ⊆ host := by
  rw [bareHost]
  split
  · exact List.Subset.trans (List.dropLast_subset _) (List.drop_subset _ _)
  · exact List.Subset.refl host

theorem staysInside_normalAuthority [HostNames] {scheme : String} {authority written : List Char}
    {a : Authority} (hc : checkAuthority authority = .ok ()) (hin : StaysInside authority)
    (h : normalAuthority scheme authority = .ok (written, a)) :
    StaysInside written ∧ a.StaysInside := by
  obtain ⟨a₀, host, normal, hr, hh, hn, rfl, rfl⟩ := normalAuthority_eq_ok h
  have ha := Authority.staysInside_read hin hr
  have hhost : StaysInside normal := by
    rcases hh with hh | ⟨_, rfl, _⟩
    · have hkeeps := keepsDividers_of_checked hc hin (Authority.host_subset_of_read hr hh)
      exact staysInside_normalHost hkeeps (ha.host host hh) hn
    · exact staysInside_normalHost (keepsDividers_of_checked hc hin (List.nil_subset _)) .nil hn
  have huser (o : Option (List Char)) : ∀ s ∈ o.map userPart.requote, StaysInside s := by
    rintro s hs
    obtain ⟨t, _, rfl⟩ := Option.map_eq_some_iff.1 hs
    exact staysInside_requote t
  refine ⟨Authority.staysInside_write (huser _) (huser _) hhost _, huser _, huser _, ?_⟩
  rintro s ⟨⟩
  exact hhost.mono (bareHost_subset _)

theorem write_eq_nil {user password : Option (List Char)} {host : List Char} {n : Option Nat}
    (h : Authority.write user password host n = []) : n = none := by
  cases n with
  | none => rfl
  | some n =>
    have haddress : Authority.address host (some n) ≠ [] := by simp [Authority.address]
    cases password with
    | some p =>
      rw [Authority.write_password] at h
      simp at h
    | none =>
      cases user with
      | none =>
        rw [Authority.write_none_none] at h
        exact absurd h haddress
      | some u =>
        rw [Authority.write_user] at h
        split at h
        · exact absurd h haddress
        · simp at h

theorem hasParts_of_read {u : Url} (hu : u.Separated) (hk : u.known = none) {a : Authority}
    (h : u.parts = .ok a) : u.HasParts a := by
  have hread : Authority.read u.authority.toList = .ok a := by
    rw [parts, hk] at h
    exact h
  refine ⟨h, Authority.staysInside_read hu.authority hread, fun he => ?_⟩
  rw [he] at hread
  cases hread
  rfl

theorem hasParts_normalized [HostNames] {u : Url} (hc : checkAuthority u.authority.toList = .ok ())
    (hu : u.Separated) {k : List Char × Authority} (h : u.normalKnown = .ok k) :
    (u.normalized k.1 k.2).Separated ∧ (u.normalized k.1 k.2).HasParts k.2 := by
  rw [normalKnown] at h
  split at h
  · cases h
    have hnil : ∀ s ∈ some ([] : List Char), StaysInside s := by
      rintro s ⟨⟩
      exact .nil
    exact ⟨separated_normalized u .nil _, rfl,
      ⟨nofun, nofun, hnil⟩, fun _ => rfl⟩
  · obtain ⟨written, a⟩ := k
    obtain ⟨hw, ha⟩ := staysInside_normalAuthority hc hu.authority h
    refine ⟨separated_normalized u hw a, rfl, ha, fun he => ?_⟩
    obtain ⟨a₀, host, _, _, _, _, rfl, rfl⟩ := normalAuthority_eq_ok h
    simp only [normalized, String.toList_ofList] at he
    exact write_eq_nil he

def spelled (u : Url) (a : Authority) : List Char :=
  unsplit u.scheme.toList (shownAuthority u.scheme u.authority.toList a) u.shownPath
    u.query.toList u.fragment.toList

theorem staysInside_spelled {u : Url} (hu : u.Separated) {a : Authority} (ha : u.HasParts a) :
    StaysInside (shownAuthority u.scheme u.authority.toList a) :=
  staysInside_shownAuthority hu.authority ha.inside

theorem render_of_parts {u : Url} (hs : IsPlainScheme u.scheme.toList) {a : Authority}
    (ha : u.HasParts a) : u.render = .ok (String.ofList (u.spelled a)) := by
  rw [render_eq hs, ha.parts]
  rfl

theorem spelled_injective [HostNames] {u v : Url} {a b : Authority}
    (hs : IsPlainScheme u.scheme.toList) (hv : IsPlainScheme v.scheme.toList) (hu : u.Separated)
    (hv' : v.Separated) (ha : u.HasParts a) (hb : v.HasParts b)
    (hc : checkAuthority (shownAuthority u.scheme u.authority.toList a) = .ok ())
    (h : u.spelled a = v.spelled b) :
    shownAuthority u.scheme u.authority.toList a = shownAuthority v.scheme v.authority.toList b ∧
      u.shownPath = v.shownPath ∧ u.query = v.query ∧ u.fragment = v.fragment := by
  have hleft := verbatim_render hs hu (staysInside_spelled hu ha)
  have hright := verbatim_render hv hv' (staysInside_spelled hv' hb)
  rw [← spelled, h, spelled, hright, hc] at hleft
  cases hcv : checkAuthority (shownAuthority v.scheme v.authority.toList b) with
  | error e =>
    rw [hcv] at hleft
    cases hleft
  | ok _ =>
    rw [hcv] at hleft
    simp only [Except.map, Except.ok.injEq, Url.mk.injEq, String.ofList_inj, and_true] at hleft
    obtain ⟨-, h1, h2, h3, h4⟩ := hleft
    exact ⟨h1.symm, h2.symm, h3.symm, h4.symm⟩

def respelled (u : Url) (a : Authority) : Url :=
  ⟨u.scheme, String.ofList (shownAuthority u.scheme u.authority.toList a),
    String.ofList u.shownPath, u.query, u.fragment, none⟩

theorem parse_spelled [HostNames] {u : Url} (hs : IsPlainScheme u.scheme.toList) (hu : u.Separated)
    {a : Authority} (ha : u.HasParts a) :
    parse (String.ofList (u.spelled a)) =
      checkAuthority (shownAuthority u.scheme u.authority.toList a) >>= fun _ =>
        (u.respelled a).normalKnown.map fun k => (u.respelled a).normalized k.1 k.2 := by
  have hv : verbatim (String.ofList (u.spelled a)) =
      (checkAuthority (shownAuthority u.scheme u.authority.toList a)).map fun _ =>
        u.respelled a := by
    rw [verbatim, String.toList_ofList]
    exact verbatim_render hs hu (staysInside_spelled hu ha)
  cases hc : checkAuthority (shownAuthority u.scheme u.authority.toList a) with
  | error e =>
    rw [hc] at hv
    unfold parse
    rw [hv]
    rfl
  | ok _ =>
    rw [hc] at hv
    have hscheme : (u.respelled a).scheme.isEmpty = false := by
      obtain ⟨c, rest, he, _⟩ := hs.head
      simp [respelled, ← String.toList_eq_nil_iff, he]
    exact parse_eq hv hscheme

theorem parse_spelled_eq_ok [HostNames] {u v : Url} (hs : IsPlainScheme u.scheme.toList)
    (hu : u.Separated) {a : Authority} (ha : u.HasParts a)
    (h : parse (String.ofList (u.spelled a)) = .ok v) :
    checkAuthority (shownAuthority u.scheme u.authority.toList a) = .ok () ∧
      ∃ k, (u.respelled a).normalKnown = .ok k ∧ v = (u.respelled a).normalized k.1 k.2 := by
  rw [parse_spelled hs hu ha] at h
  obtain ⟨_, hchecked, h⟩ := Run.exists_of_bind_eq_ok h
  obtain ⟨k, hk, hv⟩ := Run.exists_of_map_eq_ok h
  exact ⟨hchecked, k, hk, hv.symm⟩

theorem normalized_of_hostless [HostNames] {u : Url} {a : Authority}
    (h : shownAuthority u.scheme u.authority.toList a = []) :
    (u.respelled a).normalKnown = .ok ([], ⟨none, none, some [], none⟩) := by
  rw [normalKnown, respelled, h]
  rfl

theorem shownPath_of_slash {u : Url} {rest : List Char} (h : u.path.toList = '/' :: rest) :
    u.shownPath = '/' :: rest := by
  rw [shownPath, isEmpty_eq_toList, h, List.isEmpty_cons, Bool.false_and, Bool.false_and,
    if_neg Bool.false_ne_true, rooted_slash]

theorem shownPath_of_nil {u : Url} (h : u.path.toList = [])
    (hq : u.authority.toList = [] ∨ u.query.toList = [] ∧ u.fragment.toList = []) :
    u.shownPath = [] := by
  rw [shownPath, if_neg, h, rooted_nil]
  simp only [isEmpty_eq_toList, h]
  rcases hq with hq | ⟨hq, hf⟩
  · simp [hq]
  · simp [hq, hf]

theorem shownPath_cases (u : Url) :
    u.shownPath = [] ∧ (u.authority.toList = [] ∨ u.query.toList = [] ∧ u.fragment.toList = []) ∨
      ∃ rest, u.shownPath = '/' :: rest := by
  rw [shownPath]
  split
  · exact .inr ⟨[], rfl⟩
  · next hc =>
    cases hp : u.path.toList with
    | nil =>
      refine .inl ⟨rfl, ?_⟩
      simp only [isEmpty_eq_toList, hp] at hc
      simpa [or_iff_not_imp_left] using hc
    | cons c rest =>
      by_cases hslash : c = '/'
      · exact .inr ⟨rest, by rw [hslash, rooted_slash]⟩
      · exact .inr ⟨c :: rest, by simp [rooted, hslash]⟩

variable {u : Url} {a : Authority}

theorem requote_slash (rest : List Char) :
    pathPart.requote ('/' :: rest) = '/' :: pathPart.requote rest := by
  rw [requote_cons (by decide)]
  rfl

theorem shownPath_normalized_of_hostless (known : Authority) :
    ((u.respelled a).normalized [] known).shownPath = pathPart.requote u.shownPath := by
  have hpath : ((u.respelled a).normalized [] known).path.toList =
      pathPart.requote u.shownPath := by
    simp only [normalized, respelled, String.toList_ofList, List.isEmpty_nil, if_true]
  rcases u.shownPath_cases with ⟨h, _⟩ | ⟨rest, h⟩
  · rw [h] at hpath ⊢
    exact shownPath_of_nil hpath (.inl rfl)
  · rw [h, requote_slash] at hpath ⊢
    exact shownPath_of_slash hpath

theorem normalPathIfDotted_slash (rest : List Char) :
    ∃ rest', normalPathIfDotted ('/' :: rest) = '/' :: rest' := by
  rw [normalPathIfDotted]
  split
  · exact ⟨_, rfl⟩
  · exact ⟨rest, rfl⟩

theorem shownPath_normalized {written : List Char} (hw : written ≠ [])
    (hq : u.shownPath = [] → u.query.toList = [] ∧ u.fragment.toList = []) (known : Authority) :
    ((u.respelled a).normalized written known).shownPath =
      normalPathIfDotted (pathPart.requote u.shownPath) := by
  have hpath : ((u.respelled a).normalized written known).path.toList =
      normalPathIfDotted (pathPart.requote u.shownPath) := by
    simp only [normalized, respelled, String.toList_ofList, List.isEmpty_iff, if_neg hw]
  rcases u.shownPath_cases with ⟨h, _⟩ | ⟨rest, h⟩
  · obtain ⟨hqn, hfn⟩ := hq h
    rw [h] at hpath ⊢
    refine shownPath_of_nil hpath (.inr ?_)
    simp only [normalized, respelled, hqn, hfn]
    exact ⟨rfl, rfl⟩
  · rw [h, requote_slash] at hpath ⊢
    obtain ⟨rest', hr⟩ := normalPathIfDotted_slash (pathPart.requote rest)
    rw [hr] at hpath ⊢
    exact shownPath_of_slash hpath

def IsShownAgain [HostNames] (s : String) : Prop := ∃ v, parse s = .ok v ∧ v.render = .ok s

theorem separated_respelled (hu : u.Separated) (ha : u.HasParts a) :
    (u.respelled a).Separated := by
  refine ⟨?_, ?_, hu.query, hu.fragment⟩ <;> simp only [respelled, String.toList_ofList]
  · exact staysInside_spelled hu ha
  · exact fun c hc => mem_shownPath hu hc

theorem checked_respelled [HostNames]
    (hc : checkAuthority (shownAuthority u.scheme u.authority.toList a) = .ok ()) :
    checkAuthority (u.respelled a).authority.toList = .ok () := by
  rwa [respelled, String.toList_ofList]

theorem query_normalized_respelled (k : List Char × Authority) :
    ((u.respelled a).normalized k.1 k.2).query.toList = queryPart.requote u.query.toList := by
  rw [normalized, respelled, String.toList_ofList]

theorem fragment_normalized_respelled (k : List Char × Authority) :
    ((u.respelled a).normalized k.1 k.2).fragment.toList =
      fragmentPart.requote u.fragment.toList := by
  rw [normalized, respelled, String.toList_ofList]

theorem spelled_normalized_respelled {k : List Char × Authority}
    (hauthority : shownAuthority u.scheme k.1 k.2 = shownAuthority u.scheme u.authority.toList a)
    (hpath : ((u.respelled a).normalized k.1 k.2).shownPath = u.shownPath)
    (hquery : queryPart.Quoted u.query.toList) (hfragment : fragmentPart.Quoted u.fragment.toList) :
    ((u.respelled a).normalized k.1 k.2).spelled k.2 = u.spelled a := by
  rw [spelled, hpath, query_normalized_respelled, fragment_normalized_respelled, spelled,
    ← hauthority, requote_of_quoted isProper_queryPart hquery,
    requote_of_quoted isProper_fragmentPart hfragment]
  simp only [normalized, respelled, String.toList_ofList]

/-- An address is shown again exactly if its authority can be read, and authority, path, query and
fragment stay as they are when they are brought to normal form. -/
theorem isShownAgain_iff [HostNames] (hs : IsPlainScheme u.scheme.toList) (hu : u.Separated)
    (ha : u.HasParts a) :
    IsShownAgain (String.ofList (u.spelled a)) ↔
      checkAuthority (shownAuthority u.scheme u.authority.toList a) = .ok () ∧
        ∃ k, (u.respelled a).normalKnown = .ok k ∧
          shownAuthority u.scheme k.1 k.2 = shownAuthority u.scheme u.authority.toList a ∧
          ((u.respelled a).normalized k.1 k.2).shownPath = u.shownPath ∧
          queryPart.Quoted u.query.toList ∧ fragmentPart.Quoted u.fragment.toList := by
  have hsep := separated_respelled hu ha
  have hplain (k : List Char × Authority) :
      IsPlainScheme ((u.respelled a).normalized k.1 k.2).scheme.toList := hs
  have hshown (hc : checkAuthority (shownAuthority u.scheme u.authority.toList a) = .ok ())
      {k : List Char × Authority} (hk : (u.respelled a).normalKnown = .ok k) :
      ((u.respelled a).normalized k.1 k.2).render =
        .ok (String.ofList (((u.respelled a).normalized k.1 k.2).spelled k.2)) :=
    render_of_parts (hplain k) (hasParts_normalized (checked_respelled hc) hsep hk).2
  constructor
  · rintro ⟨v, hv, hr⟩
    obtain ⟨hc, k, hk, rfl⟩ := parse_spelled_eq_ok hs hu ha hv
    rw [hshown hc hk, Except.ok.injEq, String.ofList_inj] at hr
    obtain ⟨hsep', hparts⟩ := hasParts_normalized (checked_respelled hc) hsep hk
    -- both texts are the same, and so are the parts that they show
    obtain ⟨h1, h2, h3, h4⟩ := spelled_injective hs (hplain k) hu hsep' ha hparts hc hr.symm
    refine ⟨hc, k, hk, ?_, h2.symm, ?_, ?_⟩
    · rw [h1]
      simp only [normalized, respelled, String.toList_ofList]
    · rw [← requote_eq_self_iff isProper_queryPart, ← query_normalized_respelled k, ← h3]
    · rw [← requote_eq_self_iff isProper_fragmentPart, ← fragment_normalized_respelled k, ← h4]
  · rintro ⟨hc, k, hk, h1, h2, h3, h4⟩
    refine ⟨(u.respelled a).normalized k.1 k.2, ?_, ?_⟩
    · rw [parse_spelled hs hu ha, hc, hk]
      rfl
    · rw [hshown hc hk, spelled_normalized_respelled h1 h2 h3 h4]

theorem again_of_hostless [HostNames] (hs : IsPlainScheme u.scheme.toList) (hu : u.Separated)
    (ha : u.HasParts a) (h : shownAuthority u.scheme u.authority.toList a = []) :
    IsShownAgain (String.ofList (u.spelled a)) ↔
      pathPart.Quoted u.shownPath ∧ queryPart.Quoted u.query.toList ∧
        fragmentPart.Quoted u.fragment.toList := by
  rw [isShownAgain_iff hs hu ha, normalized_of_hostless h, h]
  constructor
  · rintro ⟨-, _, ⟨⟩, -, hp, hq, hf⟩
    rw [shownPath_normalized_of_hostless, requote_eq_self_iff isProper_pathPart] at hp
    exact ⟨hp, hq, hf⟩
  · rintro ⟨hp, hq, hf⟩
    refine ⟨rfl, _, rfl, rfl, ?_, hq, hf⟩
    rw [shownPath_normalized_of_hostless, requote_of_quoted isProper_pathPart hp]

theorem normalPath_requote_iff {path : List Char} (h : path = [] ∨ ∃ rest, path = '/' :: rest) :
    normalPathIfDotted (pathPart.requote path) = path ↔
      pathPart.Quoted path ∧ IsUndotted path := by
  rcases h with rfl | ⟨rest, rfl⟩
  · refine iff_of_true rfl ⟨.nil, fun s hs => ?_⟩
    rw [List.mem_singleton.1 hs]
    exact not_isDots_nil
  · constructor
    · intro h
      have hq : pathPart.Quoted ('/' :: rest) := by
        rw [← h, requote_slash]
        refine quoted_normalPathIfDotted isProper_pathPart rfl ?_
        rw [← requote_slash]
        exact quoted_requote isProper_pathPart _
      rw [requote_of_quoted isProper_pathPart hq, normalPathIfDotted_eq_self_iff] at h
      exact ⟨hq, h⟩
    · rintro ⟨hq, hd⟩
      rw [requote_of_quoted isProper_pathPart hq]
      exact (normalPathIfDotted_eq_self_iff rest).2 hd

/-- An authority that is written as nothing is not shown. -/
theorem ne_nil_of_shown [HostNames] (hu : u.Separated) (ha : u.HasParts a)
    (h : shownAuthority u.scheme u.authority.toList a ≠ [])
    (hc : checkAuthority (shownAuthority u.scheme u.authority.toList a) = .ok ())
    {k : List Char × Authority} (hk : (u.respelled a).normalKnown = .ok k)
    (hsame : shownAuthority u.scheme k.1 k.2 = shownAuthority u.scheme u.authority.toList a) :
    k.1 ≠ [] := by
  intro he
  have hparts := (hasParts_normalized (checked_respelled hc) (separated_respelled hu ha) hk).2
  have hport := hparts.portless (by simp only [normalized, he, String.toList_ofList])
  rw [shownAuthority, hport, he] at hsame
  exact h hsame.symm

theorem again_of_host [HostNames] (hs : IsPlainScheme u.scheme.toList) (hu : u.Separated)
    (ha : u.HasParts a) (h : shownAuthority u.scheme u.authority.toList a ≠ []) :
    IsShownAgain (String.ofList (u.spelled a)) ↔
      (pathPart.Quoted u.shownPath ∧ queryPart.Quoted u.query.toList ∧
        fragmentPart.Quoted u.fragment.toList) ∧
      checkAuthority (shownAuthority u.scheme u.authority.toList a) = .ok () ∧
      (∃ written k,
        normalAuthority u.scheme (shownAuthority u.scheme u.authority.toList a) = .ok (written, k) ∧
        shownAuthority u.scheme written k = shownAuthority u.scheme u.authority.toList a) ∧
      IsUndotted u.shownPath := by
  have hauth : u.authority.toList ≠ [] := by
    intro he
    rw [shownAuthority, ha.portless he, he] at h
    exact h rfl
  have hempty : u.shownPath = [] → u.query.toList = [] ∧ u.fragment.toList = [] := by
    intro hp
    rcases u.shownPath_cases with ⟨_, hq⟩ | ⟨rest, hr⟩
    · exact hq.resolve_left hauth
    · rw [hp] at hr
      cases hr
  have hrooted : u.shownPath = [] ∨ ∃ rest, u.shownPath = '/' :: rest :=
    u.shownPath_cases.imp_left And.left
  have hknown : (u.respelled a).normalKnown =
      normalAuthority u.scheme (shownAuthority u.scheme u.authority.toList a) := by
    rw [normalKnown, respelled, isEmpty_eq_toList, String.toList_ofList]
    exact if_neg (by simpa using h)
  rw [isShownAgain_iff hs hu ha]
  constructor
  · rintro ⟨hc, k, hk, hsame, hp, hq, hf⟩
    have hwritten := ne_nil_of_shown hu ha h hc hk hsame
    rw [shownPath_normalized hwritten hempty, normalPath_requote_iff hrooted] at hp
    rw [hknown] at hk
    exact ⟨⟨hp.1, hq, hf⟩, hc, ⟨k.1, k.2, hk, hsame⟩, hp.2⟩
  · rintro ⟨⟨hp, hq, hf⟩, hc, ⟨written, k, hk, hsame⟩, hd⟩
    rw [← hknown] at hk
    refine ⟨hc, (written, k), hk, hsame, ?_, hq, hf⟩
    have hwritten := ne_nil_of_shown hu ha h hc hk hsame
    rw [shownPath_normalized hwritten hempty, normalPath_requote_iff hrooted]
    exact ⟨hp, hd⟩

end EmitBridge.Url
