import EmitBridge.Proofs.Http.Written
import EmitBridge.Proofs.Run.Result

/-! Reading an address of a request brings its parts into normal form. What is read is told apart in
its text, so that a text is given back just if it is the text of an address in normal form. -/

namespace EmitBridge.Target

open Url (endsAuthority IsRooted IsUndotted)

/-- An address in normal form: scheme and host are in lower case, a service number is not the one
that the scheme has anyway, and no segment of the path is a step. Groups of digits stand for
themselves in either case. -/
structure IsNormal (t : Target) : Prop extends IsWritten t where
  lowerScheme : ∀ c ∈ t.scheme, c.toLower = c
  lowerHost : ':' ∉ t.host → ∀ c ∈ t.host, c.toLower = c
  portNumber : ∀ d, Url.defaultPort? (String.ofList t.scheme) = some d →
    t.portNumber ≠ some (d : Int)
  undotted : IsUndotted t.path

structure Normalises [HostNames] (r : Raw) (t : Target) : Prop where
  scheme : t.scheme = r.scheme.map Char.toLower
  userinfo : t.userinfo = quote isUserinfoChar r.userinfo
  host : normalHost r.host = .ok t.host
  portNumber : normalPort r.scheme r.portNumber = .ok t.portNumber
  rooted : IsRooted r.path
  path : t.path = quote isPathChar (normalPath r.path)
  query : t.query = r.query.map (quote isQueryChar)
  fragment : t.fragment = r.fragment.map (quote isFragmentChar)

variable {r : Raw} {t : Target}

theorem normalises_of_ok [HostNames] (h : normalise r = .ok t) (hhost : t.host ≠ []) :
    Normalises r t := by
  obtain ⟨host, hread, h⟩ := Run.exists_of_bind_eq_ok h
  obtain ⟨portNumber, hport, h⟩ := Run.exists_of_bind_eq_ok h
  obtain ⟨_, hcheck, h⟩ := Run.exists_of_bind_eq_ok h
  cases h
  have hfilled : host.isEmpty = false := List.isEmpty_eq_false_iff.mpr hhost
  simp only [hfilled, Bool.not_false, Bool.or_true, Bool.true_or] at hcheck
  refine ⟨rfl, rfl, hread, hport, ?_, ?_, rfl, rfl⟩
  · unfold checkPath at hcheck
    rw [if_pos rfl] at hcheck
    split at hcheck
    · next hpath =>
      rw [Bool.or_eq_true, List.isEmpty_iff, beq_iff_eq] at hpath
      exact hpath.imp_right fun hhead => List.head?_eq_some_iff.mp hhead
    · cases hcheck
  · simp only [hfilled, Bool.not_false, Bool.or_true, Bool.true_or, if_true]

section host

variable {s host : List Char}

theorem bracketed?_eq_some {inner : List Char} (h : bracketed? s = some inner) :
    s = '[' :: inner ++ [']'] := by
  unfold bracketed? at h
  split at h
  · next rest =>
    split at h
    · next hlast =>
      rw [← Option.some.inj h, List.cons_append,
        List.dropLast_append_getLast? _ (beq_iff_eq.mp hlast)]
    · cases h
  · cases h

theorem bracketed?_brackets (inner : List Char) :
    bracketed? ('[' :: inner ++ [']']) = some inner := by
  rw [List.cons_append, bracketed?]
  simp

theorem colon_mem_of_isGroups (h : isGroups s) : ':' ∈ s := by
  by_contra hno
  have hnone : Ip.groups? (Cut.first '%' s).1 = none :=
    Ip.groups?_of_notMem fun hm => hno (Cut.first_fst_subset '%' s hm)
  unfold isGroups at h
  split at h <;> next hcut => simp [hcut] at hnone; simp [hnone] at h

/-- A host is four numbers, groups in brackets, a name in lower case, or the name in ASCII for one
in other letters. -/
inductive ReadsHost [HostNames] : List Char → List Char → Prop
  | numbers {s : List Char} (h : (Ip.quad? s).isSome) : ReadsHost s s
  | groups {inner : List Char} (h : isGroups inner) : ReadsHost ('[' :: inner ++ [']']) inner
  | name (s : List Char) (h : bracketed? s = none) :
      ReadsHost s (quote isHostChar (s.map Char.toLower))
  | registered {s name : List Char} (hnone : bracketed? s = none)
      (hforeign : ∃ c ∈ s, isAsciiChar c = false) (h : HostNames.register? s = some name) :
      ReadsHost s name

theorem readsHost_of_ok [HostNames] (h : normalHost s = .ok host) (hne : s ≠ []) :
    ReadsHost s host := by
  unfold normalHost at h
  rw [if_neg (by simpa using hne)] at h
  split at h
  · split at h
    · next hquad =>
      cases h
      exact .numbers hquad
    · cases h
  · split at h
    · next inner hinner =>
      split at h
      · next hgroups =>
        cases h
        rw [bracketed?_eq_some hinner]
        exact .groups hgroups
      · cases h
    · next hnone =>
      split at h
      · cases h
        exact .name s hnone
      · next hforeign =>
        split at h
        · next name hname =>
          cases h
          exact .registered hnone (by simpa using hforeign) hname
        · cases h

theorem IsHost.of_reads [HostNames] (h : ReadsHost s host) (hne : host ≠ [])
    (hchars : ∀ c ∈ s, endsAuthority c = false ∧ c ≠ '@') : IsHost host := by
  cases h with
  | numbers hquad =>
    refine .name hne fun c hc => ?_
    rcases Ip.mem_of_quad? hquad hc with rfl | hdigit
    · decide
    · exact of_isDigit (p := fun c => isHostChar c = true) (by decide) hdigit
  | groups hgroups =>
    exact .groups (colon_mem_of_isGroups hgroups) fun c hc =>
      hchars c (List.mem_append_left _ (List.mem_cons_of_mem _ hc))
  | name => exact .name hne fun c hc => plain_of_mem_quote takesEscapes_host hc
  | registered _ _ hname =>
    refine .name hne fun c hc => ?_
    rcases (HostNames.register?_plain hname).2 c hc with halphanum | rfl | rfl
    · exact takesEscapes_host.alphanum _ halphanum
    · decide
    · decide

theorem map_toLower_eq_self_iff (s : List Char) :
    s.map Char.toLower = s ↔ ∀ c ∈ s, c.toLower = c := by
  constructor
  · intro h
    exact List.map_inj_left.mp (h.trans (List.map_id s).symm)
  · intro h
    exact (List.map_inj_left.mpr h).trans (List.map_id s)

theorem isAsciiChar_of_isHostChar {c : Char} (h : isHostChar c) : isAsciiChar c = true := by
  simp only [isHostChar, isUnreserved, Bool.or_eq_true, List.contains_eq_mem,
    decide_eq_true_eq] at h
  rcases h with (halphanum | hm) | hm
  · exact Url.isAsciiChar_of_isAlphanum halphanum
  · exact forall_mem_of_all (p := fun c => isAsciiChar c = true) (by decide) c hm
  · exact forall_mem_of_all (p := fun c => isAsciiChar c = true) (by decide) c hm

theorem isHostChar_toLower {c : Char} (h : isHostChar c) : isHostChar c.toLower := by
  rcases Url.toLower_eq_or_isAlphanum c with he | halphanum
  · rwa [he]
  · exact takesEscapes_host.alphanum _ halphanum

theorem toLower_of_mem_quad? (h : (Ip.quad? s).isSome) : ∀ c ∈ s, c.toLower = c := by
  intro c hc
  rcases Ip.mem_of_quad? h hc with rfl | hdigit
  · rfl
  · exact of_isDigit (p := fun c => c.toLower = c) (by decide) hdigit

/-- In brackets only groups are read, since neither numbers nor names hold a bracket. -/
theorem host_eq_of_brackets [HostNames] (h : ReadsHost ('[' :: s ++ [']']) host) : host = s := by
  generalize htext : '[' :: s ++ [']'] = text at h
  cases h with
  | numbers hquad =>
    have hopen : '[' ∈ host := by
      rw [← htext]
      exact List.mem_cons_self
    exact absurd (Ip.mem_of_quad? hquad hopen) (by decide)
  | groups hgroups => exact (List.cons.inj (List.append_cancel_right htext)).2.symm
  | name text hnone =>
    rw [← htext, bracketed?_brackets] at hnone
    cases hnone
  | registered hnone =>
    rw [← htext, bracketed?_brackets] at hnone
    cases hnone

theorem host_eq_iff [HostNames] (hs : IsHost s) (h : ReadsHost (enclosed s) host) :
    host = s ↔ (':' ∉ s → ∀ c ∈ s, c.toLower = c) := by
  by_cases hcolon : ':' ∈ s
  · rw [enclosed_of_mem hcolon] at h
    exact iff_of_true (host_eq_of_brackets h) fun hno => absurd hcolon hno
  · rw [enclosed_of_notMem hcolon] at h
    have hplain : ∀ c ∈ s, isHostChar c := by
      cases hs with
      | name _ hchars => exact hchars
      | groups hmem _ => exact absurd hmem hcolon
    cases h with
    | numbers hquad => exact iff_of_true rfl fun _ => toLower_of_mem_quad? hquad
    | groups =>
      exact absurd (isHostChar_ne (hplain '[' List.mem_cons_self)).2.2 (by decide)
    | name =>
      have hlower : ∀ c ∈ s.map Char.toLower, isHostChar c := by
        intro c hc
        obtain ⟨d, hd, rfl⟩ := List.mem_map.mp hc
        exact isHostChar_toLower (hplain d hd)
      rw [quote_of_plain hlower, map_toLower_eq_self_iff]
      exact ⟨fun h _ => h, fun h => h hcolon⟩
    | registered _ hforeign =>
      obtain ⟨c, hc, hforeign⟩ := hforeign
      rw [isAsciiChar_of_isHostChar (hplain c hc)] at hforeign
      cases hforeign

end host

section split

variable {s : List Char}

theorem isScheme_of_splitScheme (h : (splitScheme s).1 ≠ []) : IsScheme (splitScheme s).1 := by
  revert h
  unfold splitScheme
  split
  · next scheme rest hcut =>
    split
    · next hscheme =>
      rw [Bool.and_eq_true, Bool.not_eq_true'] at hscheme
      intro hne
      obtain ⟨c, more, rfl⟩ := List.exists_cons_of_ne_nil hne
      exact ⟨⟨c, more, rfl, by simpa using hscheme.2⟩, List.all_eq_true.mp hscheme.1⟩
    · exact fun h => absurd rfl h
  · exact fun h => absurd rfl h

theorem isAlpha_toLower {c : Char} (h : c.isAlpha) : c.toLower.isAlpha := by
  rcases Url.toLower_cases c with he | ⟨hlow, hhigh⟩
  · rwa [he]
  · have hlower : c.toLower.isLower = true := by
      have hdef : c.toLower.isLower =
          (decide (c.toLower.val ≥ 'a'.val) && decide (c.toLower.val ≤ 'z'.val)) := rfl
      rw [hdef, Bool.and_eq_true, decide_eq_true_eq, decide_eq_true_eq]
      exact ⟨UInt32.le_iff_toNat_le.mpr hlow, UInt32.le_iff_toNat_le.mpr hhigh⟩
    have hdef : c.toLower.isAlpha = (c.toLower.isUpper || c.toLower.isLower) := rfl
    rw [hdef, hlower, Bool.or_true]

theorem IsScheme.map_toLower (h : IsScheme s) : IsScheme (s.map Char.toLower) := by
  obtain ⟨c, rest, rfl, halpha⟩ := h.head
  refine ⟨⟨c.toLower, rest.map Char.toLower, rfl, isAlpha_toLower halpha⟩, fun d hd => ?_⟩
  obtain ⟨e, he, rfl⟩ := List.mem_map.mp hd
  rcases Url.toLower_eq_or_isAlphanum e with hsame | halphanum
  · rw [hsame]
    exact h.chars e he
  · rw [Url.isSchemeChar, halphanum]
    rfl

theorem mem_host_splitAuthority {c : Char} (h : c ∈ (splitAuthority s).2.1) : c ∈ s ∧ c ≠ '@' := by
  cases hcut : Cut.last '@' s with
  | mk userinfo rest =>
    rw [splitAuthority_eq hcut] at h
    have hrest : c ∈ rest := leadingHost_subset rest h
    refine ⟨?_, ?_⟩
    · rw [Cut.eq_of_last hcut]
      exact List.mem_append_right _ hrest
    · rintro rfl
      exact Cut.notMem_of_last hcut hrest

theorem mem_host_split {c : Char} (h : c ∈ (split s).host) :
    endsAuthority c = false ∧ c ≠ '@' := by
  have hhost : c ∈ (splitAuthority (Url.splitAuthority (splitScheme s).2).1).2.1 := h
  obtain ⟨hauthority, hat⟩ := mem_host_splitAuthority hhost
  exact ⟨((Url.splitAuthority_subset (splitScheme s).2).1 c hauthority).2, hat⟩

end split

theorem normalise_of_parse [HostNames] {s : List Char} (h : parse s = .ok t) : normalise
    (split s) = .ok t := by
  unfold parse at h
  split at h
  · cases h
  · split at h
    · cases h
    · exact h

theorem isWritten_of_parse [HostNames] {s : List Char} (h : parse s = .ok t)
    (habsolute : t.isAbsolute) :
    t.IsWritten := by
  obtain ⟨hscheme, hhost⟩ : t.scheme ≠ [] ∧ t.host ≠ [] := by
    simpa [isAbsolute] using habsolute
  have hreads := normalises_of_ok (normalise_of_parse h) hhost
  have hhostText : (split s).host ≠ [] := by
    intro hnil
    have hread := hreads.host
    rw [hnil] at hread
    exact hhost (Except.ok.inj hread).symm
  refine ⟨?_, ?_, ?_, ?_, ?_, ?_, ?_⟩
  · rw [hreads.scheme] at hscheme ⊢
    exact (isScheme_of_splitScheme fun hnil => hscheme (congrArg _ hnil)).map_toLower
  · rw [hreads.userinfo]
    exact fun c hc => plain_of_mem_quote takesEscapes_userinfo hc
  · exact .of_reads (readsHost_of_ok hreads.host hhostText) hhost fun c hc => mem_host_split hc
  · rw [hreads.path]
    exact isRooted_quote_normalPath hreads.rooted
  · rw [hreads.path]
    exact fun c hc => plain_of_mem_quote takesEscapes_path hc
  · rw [hreads.query]
    intro q hq c hc
    obtain ⟨p, -, rfl⟩ := Option.map_eq_some_iff.mp hq
    exact plain_of_mem_quote takesEscapes_query hc
  · rw [hreads.fragment]
    intro f hf c hc
    obtain ⟨p, -, rfl⟩ := Option.map_eq_some_iff.mp hf
    exact plain_of_mem_quote takesEscapes_fragment hc

theorem map_quote_of_plain {plain : Char → Bool} {part : Option (List Char)}
    (h : ∀ p ∈ part, ∀ c ∈ p, plain c) : part.map (quote plain) = part := by
  cases part with
  | none => rfl
  | some p => exact congrArg some (quote_of_plain (h p rfl))

theorem portNumber_eq_iff {scheme : List Char} {portNumber port : Option Int}
    (h : normalPort scheme (portDigits portNumber) = .ok port) :
    port = portNumber ↔
      ∀ d, Url.defaultPort? (String.ofList scheme) = some d → portNumber ≠ some (d : Int) := by
  cases portNumber with
  | none =>
    cases h
    exact iff_of_true rfl fun _ _ => nofun
  | some n =>
    have hne : (portDigits (some n)).isEmpty = false := by
      rw [List.isEmpty_eq_false_iff]
      exact WholeNumber.toString_ne_nil n
    unfold normalPort at h
    rw [hne, if_neg Bool.false_ne_true] at h
    cases hread : WholeNumber.read? ((portDigits (some n)).map CodePoint.ofChar) with
    | none =>
      rw [hread] at h
      cases h
    | some m =>
      obtain rfl : m = n := WholeNumber.read?_toString hread
      rw [hread] at h
      cases hdefault : Url.defaultPort? (String.ofList scheme) with
      | none =>
        rw [hdefault] at h
        cases h
        exact iff_of_true rfl fun _ => nofun
      | some d =>
        rw [hdefault] at h
        have hport : (if (d : Int) == m then none else some m) = port := Except.ok.inj h
        rw [← hport]
        split
        · next heq => exact iff_of_false nofun fun hno => hno d rfl (by rw [beq_iff_eq.mp heq])
        · next hne =>
          refine iff_of_true rfl ?_
          rintro e ⟨⟩ ⟨⟩
          exact hne (beq_self_eq_true _)

theorem eq_iff_isNormal [HostNames] {u : Target} (hw : t.IsWritten) (h : Normalises t.written u) :
    u = t ↔ t.IsNormal := by
  have hhost := host_eq_iff hw.host
    (readsHost_of_ok h.host (enclosed_ne_nil hw.host.ne_nil))
  have hport := portNumber_eq_iff h.portNumber
  have hpath := quote_normalPath_eq_self_iff hw.rooted
  constructor
  · rintro rfl
    exact { hw with
      lowerScheme := (map_toLower_eq_self_iff _).mp h.scheme.symm
      lowerHost := hhost.mp rfl
      portNumber := hport.mp rfl
      undotted := (hpath.mp h.path.symm).2 }
  · intro hn
    have hscheme : u.scheme = t.scheme :=
      h.scheme.trans ((map_toLower_eq_self_iff _).mpr hn.lowerScheme)
    have huser : u.userinfo = t.userinfo := h.userinfo.trans (quote_of_plain hw.userinfo)
    have hhost' : u.host = t.host := hhost.mpr hn.lowerHost
    have hport' : u.portNumber = t.portNumber := hport.mpr hn.portNumber
    have hpath' : u.path = t.path := h.path.trans (hpath.mpr ⟨hw.path, hn.undotted⟩)
    have hquery : u.query = t.query := h.query.trans (map_quote_of_plain hw.query)
    have hfragment : u.fragment = t.fragment := h.fragment.trans (map_quote_of_plain hw.fragment)
    cases u
    cases t
    simp only [mk.injEq]
    exact ⟨hscheme, huser, hhost', hport', hpath', hquery, hfragment⟩

theorem eq_of_parse_toChars [HostNames] {n : Target} (hn : n.IsNormal) (h : parse n.toChars = .ok t)
    (hhost : t.host ≠ []) : t = n := by
  have hread := normalise_of_parse h
  rw [split_toChars hn.toIsWritten] at hread
  exact (eq_iff_isNormal hn.toIsWritten (normalises_of_ok hread hhost)).mpr hn

theorem toString_eq_iff [HostNames] {s : String} (h : parse s.toList = .ok t)
    (habsolute : t.isAbsolute) :
    t.toString = s ↔ ∃ n : Target, n.IsNormal ∧ s = n.toString := by
  have hw := isWritten_of_parse h habsolute
  constructor
  · rintro rfl
    rw [toString, String.toList_ofList] at h
    have hread := normalise_of_parse h
    rw [split_toChars hw] at hread
    exact ⟨t, (eq_iff_isNormal hw (normalises_of_ok hread hw.host.ne_nil)).mp rfl, rfl⟩
  · rintro ⟨n, hn, rfl⟩
    rw [toString, String.toList_ofList] at h
    rw [eq_of_parse_toChars hn h hw.host.ne_nil]

end EmitBridge.Target
