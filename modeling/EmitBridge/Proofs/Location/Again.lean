import EmitBridge.Proofs.Location.Route

/-! Canonical addresses as locations. An address that a location comes to names itself exactly if
it is in normal form. -/

namespace EmitBridge.Location

open HostNames.AsciiOnly

open Url Percent.Part

def NamesItself [HostNames] (cwd : PosixPath) (u : Url) : Prop :=
  ∃ s v, u.render = .ok s ∧ toUrl cwd none (.string s) = .ok v ∧ v.render = .ok s

theorem namedPath_posix [HostNames] {cwd p : PosixPath} {base : Option Value} {s : List Char}
    (h : namedPath cwd base s = .ok (.posix p)) : ∃ t, p = .ofChars t := by
  obtain ⟨t, ht | ht⟩ := isRead_of_namedPath h
  · exact ⟨t, FilePath.posix.inj ht⟩
  · cases ht

theorem fileUrl_of_path [HostNames] {cwd p : PosixPath} {base : Option Value} {s : List Char}
    {u : Url} (hp : namedPath cwd base s = .ok (.posix p)) (h : pathToUrl cwd base s = .ok u) :
    u = PosixPath.fileUrl p.toChars ∧ ∃ rest, p.toChars = '/' :: rest := by
  obtain ⟨q, uri, hq, huri, hv⟩ := pathToUrl_eq_ok h
  cases hp.symm.trans hq
  obtain ⟨t, rfl⟩ := namedPath_posix hp
  obtain ⟨hslash, rfl⟩ := PosixPath.toUri?_ofChars huri
  rw [PosixPath.verbatimChars_file hslash] at hv
  exact ⟨(Except.ok.inj hv).symm, hslash⟩

theorem spelled_eq {u : Url} (hu : IsCanonical u) (a : Authority) :
    ∃ rest, u.spelled a = u.scheme.toList ++ rest :=
  ⟨_, (isPlainScheme_of_supported hu.scheme).unsplit_eq _ _ _ _⟩

theorem not_path_of_host [HostNames] {cwd : PosixPath} {u v : Url} (hu : IsCanonical u)
    {a : Authority} (ha : u.HasParts a) (hhost : shownAuthority u.scheme u.authority.toList a ≠ [])
    (hv : pathToUrl cwd none (u.spelled a) = .ok v) :
    v.render ≠ .ok (String.ofList (u.spelled a)) := by
  intro hr
  obtain ⟨rest, hrest⟩ := spelled_eq hu a
  have hwin : Win32Path.isAbsoluteText (u.spelled a) = false := by
    rw [hrest]
    exact (not_drive_of_supported hu.scheme rest).2.1
  have hp : namedPath cwd none (u.spelled a) =
      .ok (.posix (.ofChars (PosixPath.normal (PosixPath.join cwd.toChars (u.spelled a))))) := by
    rw [namedPath, hwin, if_neg Bool.false_ne_true]
    rfl
  obtain ⟨rfl, _⟩ := fileUrl_of_path hp hv
  have hcan := isCanonical_of_path hv
  have hparts (path : List Char) : (PosixPath.fileUrl path).parts = .ok ⟨none, none, none, none⟩ :=
    rfl
  rw [render_of_parts isPlainScheme_file (hcan.hasParts _ (hparts _)), Except.ok.injEq,
    String.ofList_inj] at hr
  have hsame := (spelled_injective isPlainScheme_file (isPlainScheme_of_supported hu.scheme)
    hcan.separated hu.separated (hcan.hasParts _ (hparts _)) ha rfl hr).1
  exact hhost hsame.symm

theorem scheme_ne_empty {u : Url} (hu : IsCanonical u) : u.scheme.isEmpty = false := by
  rw [isEmpty_eq_toList]
  exact (isPlainScheme_of_supported hu.scheme).isEmpty

theorem schemedUrl?_spelled [HostNames] {u v : Url} (hu : IsCanonical u) {a : Authority}
    (ha : u.HasParts a) (h : parse (String.ofList (u.spelled a)) = .ok v) :
    schemedUrl? (String.ofList (u.spelled a)) = some v ∧ v.scheme = u.scheme := by
  have hscheme : v.scheme = u.scheme := by
    obtain ⟨-, k, -, rfl⟩ :=
      parse_spelled_eq_ok (isPlainScheme_of_supported hu.scheme) hu.separated ha h
    rfl
  refine ⟨?_, hscheme⟩
  rw [schemedUrl?, h]
  exact if_neg (by rw [hscheme, scheme_ne_empty hu]; exact Bool.false_ne_true)

theorem parse_of_hostless [HostNames] {u : Url} (hu : IsCanonical u) {a : Authority}
    (ha : u.HasParts a) (h : shownAuthority u.scheme u.authority.toList a = []) :
    ∃ v, parse (String.ofList (u.spelled a)) = .ok v := by
  rw [parse_spelled (isPlainScheme_of_supported hu.scheme) hu.separated ha,
    normalized_of_hostless h, h]
  exact ⟨_, rfl⟩

/-- A text that spells no address is taken for a path, and no path has an address with a host. -/
theorem not_path_of_unparsed [HostNames] {u : Url} (hu : IsCanonical u) {a : Authority}
    (ha : u.HasParts a) {e : UrlError} (h : parse (String.ofList (u.spelled a)) = .error e)
    {cwd : PosixPath} {v : Url} (hv : pathToUrl cwd none (u.spelled a) = .ok v) :
    v.render ≠ .ok (String.ofList (u.spelled a)) := by
  have hhost : shownAuthority u.scheme u.authority.toList a ≠ [] := by
    intro hnil
    obtain ⟨v, hv⟩ := parse_of_hostless hu ha hnil
    cases h.symm.trans hv
  exact not_path_of_host hu ha hhost hv

theorem textToUrl_spelled_iff [HostNames] {u : Url} (hu : IsCanonical u) {a : Authority}
    (ha : u.HasParts a) (cwd : PosixPath) :
    (∃ v, textToUrl cwd none (String.ofList (u.spelled a)) = .ok v ∧
        v.render = .ok (String.ofList (u.spelled a))) ↔
      '\x00' ∉ u.spelled a ∧ IsShownAgain (String.ofList (u.spelled a)) := by
  obtain ⟨rest, hrest⟩ := spelled_eq hu a
  have hne : u.spelled a ≠ [] := by
    obtain ⟨c, tail, hc, _⟩ := (isPlainScheme_of_supported hu.scheme).head
    rw [hrest, hc]
    exact List.cons_ne_nil _ _
  have hdrive : hasDrive (u.spelled a) = false := by
    rw [hrest]
    exact (not_drive_of_supported hu.scheme rest).1
  simp only [textToUrl_eq, String.toList_ofList, hne, false_or, hdrive]
  by_cases hnull : '\x00' ∈ u.spelled a
  · rw [if_pos hnull]
    constructor
    · rintro ⟨v, hv, _⟩
      cases hv
    · rintro ⟨hno, _⟩
      exact absurd hnull hno
  rw [if_neg hnull, if_neg Bool.false_ne_true, and_iff_right hnull]
  cases hp : parse (String.ofList (u.spelled a)) with
  | ok v =>
    obtain ⟨hsome, hscheme⟩ := schemedUrl?_spelled hu ha hp
    have hcheck : checkScheme v (.string (String.ofList (u.spelled a))) = .ok v := by
      rw [checkScheme, hscheme, if_pos hu.scheme]
    simp only [hsome, hcheck, IsShownAgain, hp, Except.ok.injEq]
  | error e =>
    have hnone : schemedUrl? (String.ofList (u.spelled a)) = none := by
      rw [schemedUrl?, hp]
    simp only [hnone, IsShownAgain, hp]
    constructor
    · rintro ⟨v, hv, hr⟩
      exact absurd hr (not_path_of_unparsed hu ha hp hv)
    · rintro ⟨v, hv, _⟩
      cases hv

theorem null_mem_spelled {u : Url} (hu : IsCanonical u) (a : Authority) :
    '\x00' ∈ u.spelled a ↔ '\x00' ∈ shownAuthority u.scheme u.authority.toList a ∨
      '\x00' ∈ u.shownPath ∨ '\x00' ∈ u.query.toList ∨ '\x00' ∈ u.fragment.toList := by
  have hscheme : '\x00' ∉ u.scheme.toList := fun h =>
    absurd ((isPlainScheme_of_supported hu.scheme).chars _ h).1 (by decide)
  have hroot : rooted u.shownPath = u.shownPath := by
    rw [shownPath, rooted_rooted]
  rw [spelled, (isPlainScheme_of_supported hu.scheme).unsplit_eq, hroot]
  simp only [List.mem_append, List.mem_cons, hscheme, false_or]
  cases u.query.toList <;> cases u.fragment.toList <;> simp [or_assoc]

theorem isNormal_iff [HostNames] {u : Url} (hu : IsCanonical u) {a : Authority}
    (ha : u.HasParts a) :
    u.IsNormal ↔ '\x00' ∉ u.spelled a ∧ IsShownAgain (String.ofList (u.spelled a)) := by
  have hs := isPlainScheme_of_supported hu.scheme
  have hnone (p : Percent.Part) (hp : p.plain '\x00' = false) {s : List Char} (h : p.Quoted s) :
      '\x00' ∉ s := notMem_of_quoted ⟨hp, by decide, by decide⟩ h
  have hnull : pathPart.Quoted u.shownPath ∧ queryPart.Quoted u.query.toList ∧
      fragmentPart.Quoted u.fragment.toList →
        ('\x00' ∉ u.spelled a ↔ '\x00' ∉ shownAuthority u.scheme u.authority.toList a) := by
    rintro ⟨hp, hq, hf⟩
    rw [null_mem_spelled hu]
    simp only [hnone _ rfl hp, hnone _ rfl hq, hnone _ rfl hf, or_false]
  have hparts {P : Authority → Prop} : (∃ b, u.parts = .ok b ∧ P b) ↔ P a := by
    simp only [ha.parts, Except.ok.injEq, exists_eq_left']
  rw [show u.IsNormal ↔ (pathPart.Quoted u.shownPath ∧ queryPart.Quoted u.query.toList ∧
      fragmentPart.Quoted u.fragment.toList) ∧ _ from
      ⟨fun h => ⟨⟨h.path, h.query, h.fragment⟩, h.authority⟩,
        fun h => ⟨h.1.1, h.1.2.1, h.1.2.2, h.2⟩⟩, hparts]
  -- without an authority only the quoting of the other parts counts
  by_cases h : shownAuthority u.scheme u.authority.toList a = []
  · rw [again_of_hostless hs hu.separated ha h]
    constructor
    · rintro ⟨hq, _⟩
      refine ⟨(hnull hq).2 ?_, hq⟩
      rw [h]
      exact List.not_mem_nil
    · exact fun hq => ⟨hq.2, .inl h⟩
  · rw [again_of_host hs hu.separated ha h]
    constructor
    · rintro ⟨hq, hauth⟩
      obtain ⟨hn, hd⟩ := hauth.resolve_left h
      exact ⟨(hnull hq).2 hn.noNull, hq, hn.checked, hn.shown, hd⟩
    · rintro ⟨hno, hq, hc, hshown, hd⟩
      exact ⟨hq, .inr ⟨⟨(hnull hq).1 hno, hc, hshown⟩, hd⟩⟩

theorem namesItself_iff [HostNames] {u : Url} (hu : IsCanonical u) (cwd : PosixPath) :
    NamesItself cwd u ↔ u.IsNormal := by
  cases hp : u.parts with
  | error e =>
    constructor
    · rintro ⟨s, _, hr, _⟩
      rw [render_eq (isPlainScheme_of_supported hu.scheme), hp] at hr
      cases hr
    · rintro ⟨_, _, _, a, ha, _⟩
      rw [hp] at ha
      cases ha
  | ok a =>
    have ha := hu.hasParts a hp
    have hr := render_of_parts (isPlainScheme_of_supported hu.scheme) ha
    rw [isNormal_iff hu ha, ← textToUrl_spelled_iff hu ha cwd]
    simp only [NamesItself, hr, Except.ok.injEq, exists_and_left, exists_eq_left', toUrl_string]

/-- Characters that the address of a file escapes, and that a requoted path holds plainly. -/
def overescaped : List Char := "!$&'()*,:;=@".toList

theorem plain_of_isUriPlain {c : Char} (h : PosixPath.isUriPlain c) : pathPart.plain c := by
  simp only [PosixPath.isUriPlain, Bool.or_eq_true, List.contains_eq_mem, decide_eq_true_eq] at h
  rcases h with h | h
  · simp only [pathPart, partOf, isAlwaysPlain, h, Bool.true_or]
  · have hplain : ∀ d ∈ "_.-~/".toList, pathPart.plain d := forall_mem_of_all rfl
    exact hplain c h

theorem stays_escaped_iff (c : Char) :
    (PosixPath.isUriPlain c ∨ ¬(c.toNat < 0x80 ∧ pathPart.plain c ∧ pathPart.kept c = false)) ↔
      c ∉ overescaped := by
  constructor
  · intro h hc
    have hplain : ∀ d ∈ overescaped, ¬(PosixPath.isUriPlain d ∨
        ¬(d.toNat < 0x80 ∧ pathPart.plain d ∧ pathPart.kept d = false)) := forall_mem_of_all rfl
    exact hplain c hc h
  · intro h
    rw [or_iff_not_imp_left]
    rintro hplain ⟨_, hp, hk⟩
    have hplainList : ∀ d ∈ "-._~!$'()*,".toList, PosixPath.isUriPlain d ∨ d ∈ overescaped :=
      forall_mem_of_all rfl
    have hpathList : ∀ d ∈ "+&=;@:/".toList,
        PosixPath.isUriPlain d ∨ pathPart.kept d ∨ d ∈ overescaped := forall_mem_of_all rfl
    simp only [pathPart, partOf, isAlwaysPlain, Bool.or_eq_true, List.contains_eq_mem,
      decide_eq_true_eq] at hp
    rcases hp with (hp | hp) | hp
    · exact hplain (by rw [PosixPath.isUriPlain, hp, Bool.true_or])
    · exact (hplainList c hp).elim hplain h
    · rcases hpathList c hp with hc | hc | hc
      · exact hplain hc
      · rw [hk] at hc
        cases hc
      · exact h hc

theorem isNormal_fileUrl [HostNames] {path : List Char} (h : ∃ rest, path = '/' :: rest) :
    (PosixPath.fileUrl path).IsNormal ↔ ∀ c ∈ path, c ∉ overescaped := by
  have hshown : (PosixPath.fileUrl path).shownPath = Percent.encode PosixPath.isUriPlain path :=
    shownPath_fileUrl h
  have hquoted : pathPart.Quoted (Percent.encode PosixPath.isUriPlain path) ↔
      ∀ c ∈ path, c ∉ overescaped := by
    rw [quoted_encode_iff isProper_pathPart fun _ => plain_of_isUriPlain]
    exact forall₂_congr fun c _ => stays_escaped_iff c
  rw [← hquoted]
  constructor
  · intro hn
    rw [← hshown]
    exact hn.path
  · intro hq
    exact ⟨hshown ▸ hq, .nil, .nil, _, rfl, .inl rfl⟩

/-- A location and the text of its address come to one address exactly if that address is in normal
form. For the address of a path this is the case exactly if the path holds none of the characters
that files escape needlessly. -/
theorem namesItself_iff_isNormal [HostNames] {cwd : PosixPath} {base : Option Value}
    {location : Value} {u : Url} (h : toUrl cwd base location = .ok u) :
    (∀ cwd', NamesItself cwd' u ↔ u.IsNormal) ∧
      ∀ s p, namedPath cwd base s = .ok (.posix p) → pathToUrl cwd base s = .ok u →
        (u.IsNormal ↔ ∀ c ∈ p.toChars, c ∉ overescaped) := by
  refine ⟨namesItself_iff (isCanonical_of_toUrl h), fun s p hp hu => ?_⟩
  obtain ⟨rfl, hslash⟩ := fileUrl_of_path hp hu
  exact isNormal_fileUrl hslash

theorem namesItself_plain_path : ∃ u p,
    toUrl workDirectory none (.string "lib/mod.ts") = .ok u ∧
      namedPath workDirectory none "lib/mod.ts".toList = .ok (.posix p) ∧
      pathToUrl workDirectory none "lib/mod.ts".toList = .ok u ∧
      (∀ c ∈ p.toChars, c ∉ overescaped) ∧ ∀ cwd, NamesItself cwd u := by
  have h : toUrl workDirectory none (.string "lib/mod.ts") =
      .ok ⟨"file", "", "/work/lib/mod.ts", "", "", none⟩ := by
    rw [toUrl_string, textToUrl_eq]
    apply ok_of_toOption
    decide +kernel
  have hp : namedPath workDirectory none "lib/mod.ts".toList =
      .ok (.posix ⟨"/", ["work", "lib", "mod.ts"]⟩) := ok_of_toOption (by decide +kernel)
  have hu : pathToUrl workDirectory none "lib/mod.ts".toList =
      .ok ⟨"file", "", "/work/lib/mod.ts", "", "", none⟩ := ok_of_toOption (by decide +kernel)
  have hplain : ∀ c ∈ PosixPath.toChars ⟨"/", ["work", "lib", "mod.ts"]⟩, c ∉ overescaped :=
    forall_mem_of_all (by decide +kernel)
  obtain ⟨hiff, hpath⟩ := namesItself_iff_isNormal h
  exact ⟨_, _, h, hp, hu, hplain, fun cwd => (hiff cwd).2 ((hpath _ _ hp hu).2 hplain)⟩

theorem comma_path_has_two_addresses : ∃ u v,
    toUrl workDirectory none (.string "/work/a,b.ts") = .ok u ∧
      u.render = .ok "file:///work/a%2Cb.ts" ∧
      toUrl workDirectory none (.string "file:///work/a%2Cb.ts") = .ok v ∧
      v.render = .ok "file:///work/a,b.ts" := by
  refine ⟨⟨"file", "", "/work/a%2Cb.ts", "", "", none⟩,
    ⟨"file", "", "/work/a,b.ts", "", "", some ⟨none, none, some [], none⟩⟩, ?_, ?_, ?_, ?_⟩
  · rw [toUrl_string, textToUrl_eq]
    apply ok_of_toOption
    decide +kernel
  · decide +kernel
  · rw [toUrl_string, textToUrl_eq]
    apply ok_of_toOption
    decide +kernel
  · decide +kernel

end EmitBridge.Location
