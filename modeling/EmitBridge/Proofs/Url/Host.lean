import EmitBridge.Proofs.Text.Decimal
import EmitBridge.Proofs.Url.Normal

/-! Hosts that are not empty. An address in normal form has one exactly if it has an authority,
where its scheme asks for a host. -/

namespace EmitBridge

theorem Authority.host_of_read {s host : List Char} {a : Authority} (h : read s = .ok a)
    (hh : a.host = some host) : host = (splitHost (Cut.last '@' s).2).1 ∧ host ≠ [] := by
  obtain ⟨n, -, rfl⟩ := read_eq_ok h
  obtain ⟨he, hne⟩ := mem_nonEmpty hh
  exact ⟨he, he ▸ hne⟩

namespace Url

theorem splitHost_enclosed {rest content after : List Char}
    (h : Cut.first ']' rest = (content, some after)) :
    (Authority.splitHost ('[' :: rest)).1 = content := by
  unfold Authority.splitHost
  rw [if_pos (by simp), show Cut.first '[' ('[' :: rest) = ([], some rest) from rfl]
  simp only [Option.getD_some, h]

theorem notMem_splitHost {s : List Char} (h : checkBrackets s = .ok ()) :
    '[' ∉ (Authority.splitHost (Cut.last '@' s).2).1 ∧
      ']' ∉ (Authority.splitHost (Cut.last '@' s).2).1 := by
  have hlast : s = ((Cut.last '@' s).1.map (· ++ ['@'])).getD [] ++ (Cut.last '@' s).2 :=
    Cut.eq_of_last rfl
  have hsub : (Authority.splitHost (Cut.last '@' s).2).1 ⊆ s := fun c hc => by
    rw [hlast]
    exact List.mem_append_right _ (Authority.splitHost_subset _ hc)
  unfold checkBrackets at h
  split at h
  · cases h
  split at h
  · cases h
  next hboth =>
  split at h
  · next hopen =>
    -- without an opening bracket there is no closing one, and the host is a part of the text
    have hclose : s.contains ']' = false := by
      rw [bne_iff_ne, not_not] at hboth
      rwa [← hboth, ← Bool.not_eq_true']
    exact ⟨fun hm => by simp [hsub hm] at hopen, fun hm => by simp [hsub hm] at hclose⟩
  split at h
  · next rest hrest =>
    split at h
    · next content after hcut =>
      split at h
      · cases h
      · next hcontent =>
        rw [hrest, splitHost_enclosed hcut]
        refine ⟨fun hm => ?_, Cut.notMem_of_first hcut⟩
        simp [hm] at hcontent
    · cases h
  · cases h

theorem notMem_toLower {host : List Char} {c : Char} (hc : c.isAlphanum = false) (h : c ∉ host) :
    c ∉ host.map Char.toLower := by
  intro hm
  obtain ⟨d, hd, he⟩ := List.mem_map.1 hm
  rcases toLower_eq_or_isAlphanum d with hl | hl
  · rw [← he, hl] at h
    exact h hd
  · rw [he, hc] at hl
    cases hl

theorem normalHost_cases [HostNames] {host normal : List Char} (h : normalHost host = .ok normal) :
    normal = host ∨ normal = host.map Char.toLower ∨
      host.all isAsciiChar = false ∧ HostNames.encode host = .ok normal ∨
      ∃ gs, Ip.AreGroups gs ∧
        normal = '[' :: (Ip.showGroups gs ++ Ip.zoneText (Cut.first '%' host).2 ++ [']']) := by
  rcases normalHost_eq_ok h with ⟨-, hn⟩ | ⟨-, rfl⟩ | he
  · rw [Ip.normal?_eq] at hn
    split at hn
    · rw [← Option.some.inj hn, ← Ip.eq_append_zoneText]
      exact .inl rfl
    · obtain ⟨gs, hgs, rfl⟩ := Option.map_eq_some_iff.1 hn
      exact .inr (.inr (.inr ⟨gs, Ip.areGroups_of_groups? hgs, by simp⟩))
  · exact .inr (.inl rfl)
  · exact .inr (.inr (.inl he))

theorem normalHost_ne_nil [HostNames] {host normal : List Char} (h : normalHost host = .ok normal)
    (hne : host ≠ []) : normal ≠ [] := by
  rcases normalHost_cases h with rfl | rfl | ⟨-, he⟩ | ⟨gs, -, rfl⟩
  · exact hne
  · simpa using hne
  · exact (HostNames.encode_plain he).1
  · exact List.cons_ne_nil _ _

theorem bareHost_normalHost_ne_nil [HostNames] {host normal : List Char}
    (h : normalHost host = .ok normal) (hne : host ≠ []) (hno : '[' ∉ host)
    (hascii : host.all isAsciiChar) : bareHost normal ≠ [] := by
  rcases normalHost_cases h with rfl | rfl | ⟨hforeign, -⟩ | ⟨gs, hgs, rfl⟩
  · rw [bareHost_of_notMem hno]
    exact hne
  · rw [bareHost_of_notMem (notMem_toLower (by decide) hno)]
    simpa using hne
  · rw [hforeign] at hascii
    cases hascii
  · rw [bareHost_brackets]
    exact List.append_ne_nil_of_left_ne_nil (List.ne_nil_of_mem (Ip.colon_mem_showGroups hgs)) _

def HasHost (u : Url) : Prop := ∃ h, u.rawHost = .ok (some h) ∧ h ≠ []

theorem hasHost_iff (u : Url) :
    u.HasHost ↔ ∃ a h, u.parts = .ok a ∧ a.host = some h ∧ h ≠ [] := by
  constructor
  · rintro ⟨h, hh, hne⟩
    obtain ⟨a, ha, hhost⟩ := Run.exists_of_map_eq_ok hh
    exact ⟨a, h, ha, hhost, hne⟩
  · rintro ⟨a, h, hp, hh, hne⟩
    exact ⟨h, by rw [rawHost, hp, Except.map, hh], hne⟩

theorem write_ne_nil {user password : Option (List Char)} {host : List Char} (h : host ≠ [])
    (n : Option Nat) : Authority.write user password host n ≠ [] := by
  have haddress : Authority.address host n ≠ [] := by
    cases n with
    | none => exact h
    | some n => exact List.append_ne_nil_of_left_ne_nil h _
  cases password with
  | some p =>
    rw [Authority.write_password]
    simp
  | none =>
    cases user with
    | none =>
      rw [Authority.write_none_none]
      exact haddress
    | some u =>
      rw [Authority.write_user]
      split
      · exact haddress
      · simp

theorem hasHost_normalized_iff [HostNames] {u : Url}
    (hc : checkAuthority u.authority.toList = .ok ())
    (hascii : ∀ c ∈ u.authority.toList, isAsciiChar c = true) (hs : hostSchemes.contains u.scheme)
    {k : List Char × Authority} (h : u.normalKnown = .ok k) :
    (u.normalized k.1 k.2).HasHost ↔ k.1 ≠ [] := by
  rw [hasHost_iff, normalKnown] at *
  split at h
  · cases h
    refine ⟨?_, fun h => absurd rfl h⟩
    rintro ⟨a, host, ha, hh, hne⟩
    cases ha
    cases hh
    exact absurd rfl hne
  · obtain ⟨written, a⟩ := k
    obtain ⟨a₀, host, normal, hr, hh, hn, rfl, rfl⟩ := normalAuthority_eq_ok h
    rcases hh with hh | ⟨_, _, hno⟩
    · obtain ⟨hhost, hne⟩ := Authority.host_of_read hr hh
      have hno := (notMem_splitHost (checkBrackets_of_checked hc)).1
      have hall : host.all isAsciiChar :=
        List.all_eq_true.2 fun c hm => hascii c (Authority.host_subset_of_read hr hh hm)
      have hbare := bareHost_normalHost_ne_nil hn hne (hhost ▸ hno) hall
      refine ⟨fun _ => write_ne_nil ?_ _, fun _ => ⟨_, _, rfl, rfl, hbare⟩⟩
      intro he
      rw [he] at hbare
      exact hbare rfl
    · rw [hno] at hs
      cases hs

theorem isRooted_normalized [HostNames] {u : Url}
    (hr : u.authority.toList ≠ [] → IsRooted u.path.toList) {k : List Char × Authority}
    (h : u.normalKnown = .ok k) (hk : k.1 ≠ []) :
    IsRooted (u.normalized k.1 k.2).path.toList := by
  have ha : u.authority.toList ≠ [] := by
    intro he
    rw [normalKnown, isEmpty_eq_toList, he] at h
    cases h
    exact hk rfl
  have hpath : (u.normalized k.1 k.2).path.toList =
      normalPathIfDotted (pathPart.requote u.path.toList) := by
    simp only [normalized, String.toList_ofList, List.isEmpty_iff, if_neg hk]
  rw [hpath]
  rcases hr ha with hnil | ⟨rest, hslash⟩
  · rw [hnil]
    exact .inl rfl
  · rw [hslash, requote_slash]
    exact .inr (normalPathIfDotted_slash _)

def shownName (host : List Char) : List Char :=
  if isNumberLike host then host
  else if isRegularHost host && host.length ≤ hostLimit then host.map Char.toLower
  else host

theorem shownHost_cases [HostNames] {host : List Char} (hascii : ∀ c ∈ host, isAsciiChar c = true)
    (hmark : hasMarkedLabel host = false) :
    shownHost host = .ok (shownName host) ∨
      shownHost host = .error .longLabel ∧
        ∃ label ∈ Cut.all '.' host, labelLimit < label.length := by
  have hall : (!host.all isAsciiChar) = false := by
    rw [List.all_eq_true.2 hascii]
    rfl
  rw [shownHost, shownName, hall, hmark]
  simp only [Bool.false_eq_true, if_false]
  split
  · exact .inl rfl
  · split
    · exact .inl rfl
    · split
      · next hlong =>
        obtain ⟨label, hm, hlong⟩ := List.any_eq_true.1 (Bool.and_eq_true_iff.1 hlong).2
        exact .inr ⟨rfl, label, hm, of_decide_eq_true hlong⟩
      · exact .inl rfl

theorem shownName_cases (host : List Char) :
    shownName host = host ∨ shownName host = host.map Char.toLower := by
  unfold shownName
  split
  · exact .inl rfl
  · split
    · exact .inr rfl
    · exact .inl rfl

theorem notMem_shownName {host : List Char} {c : Char} (hc : c.isAlphanum = false) (h : c ∉ host) :
    c ∉ shownName host := by
  rcases shownName_cases host with hs | hs <;> rw [hs]
  · exact h
  · exact notMem_toLower hc h

theorem isAlpha_of_toLower {c : Char} (h : c.toLower.isAlpha = true) : c.isAlpha = true := by
  by_cases hupper : c.val ≥ 'A'.val ∧ c.val ≤ 'Z'.val
  · have hdef : c.isAlpha = (c.isUpper || c.isLower) := rfl
    have hcapital : c.isUpper = true := decide_eq_true hupper
    rw [hdef, hcapital, Bool.true_or]
  · have hsame : c.toLower = c := dif_neg hupper
    rwa [hsame] at h

theorem isDigit_of_isAlpha {c : Char} (h : c.isAlpha = true) :
    (CodePoint.ofChar c).isDigit = false := by
  have hupper : ∀ k < 26, (CodePoint.ofChar (Char.ofNat (0x41 + k))).isDigit = false := by
    decide +kernel
  have hlower : ∀ k < 26, (CodePoint.ofChar (Char.ofNat (0x61 + k))).isDigit = false := by
    decide +kernel
  have hdef : c.isAlpha = (decide (c.val ≥ 'A'.val ∧ c.val ≤ 'Z'.val) ||
      (decide (c.val ≥ 'a'.val) && decide (c.val ≤ 'z'.val))) := rfl
  rw [hdef, Bool.or_eq_true, decide_eq_true_eq, Bool.and_eq_true, decide_eq_true_eq,
    decide_eq_true_eq] at h
  rcases h with ⟨hlow, hhigh⟩ | ⟨hlow, hhigh⟩
  · have hlow : 65 ≤ c.toNat := UInt32.le_iff_toNat_le.1 hlow
    have hhigh : c.toNat ≤ 90 := UInt32.le_iff_toNat_le.1 hhigh
    exact of_toNat_range (p := fun c => (CodePoint.ofChar c).isDigit = false) hupper hlow (by omega)
  · have hlow : 97 ≤ c.toNat := UInt32.le_iff_toNat_le.1 hlow
    have hhigh : c.toNat ≤ 122 := UInt32.le_iff_toNat_le.1 hhigh
    exact of_toNat_range (p := fun c => (CodePoint.ofChar c).isDigit = false) hlower hlow (by omega)

section Letters

variable {host : List Char}

theorem notMem_of_letters (h : ∀ c ∈ host, c.isAlpha = true) {d : Char}
    (hd : d.isAlpha = false) : d ∉ host := by
  intro hm
  rw [h d hm] at hd
  cases hd

theorem isRegularLabel_of_letters (hne : host ≠ []) (h : ∀ c ∈ host, c.isAlpha = true) :
    isRegularLabel host = true := by
  have hhyphen : '-' ∉ host := notMem_of_letters h (by decide)
  have hall : host.all (fun c => c.isAlphanum || c == '-') = true := by
    refine List.all_eq_true.mpr fun c hc => ?_
    have hdef : c.isAlphanum = (c.isAlpha || c.isDigit) := rfl
    rw [hdef, h c hc]
    rfl
  have hhead : host.head? ≠ some '-' := fun h => hhyphen (List.mem_of_head? h)
  have hlast : host.getLast? ≠ some '-' := fun h => hhyphen (List.mem_of_getLast? h)
  have hmiddle : (host.drop 2).take 2 ≠ ['-', '-'] := fun h =>
    hhyphen (List.mem_of_mem_drop (List.mem_of_mem_take (h ▸ List.mem_cons_self)))
  simp [isRegularLabel, hne, hall, hhead, hlast, hmiddle]

theorem isRegularHost_of_letters (hne : host ≠ []) (h : ∀ c ∈ host, c.isAlpha = true) :
    isRegularHost host = true := by
  have hlabel := isRegularLabel_of_letters hne h
  -- without a dot the host is its only label
  rw [isRegularHost, Cut.all_of_notMem (notMem_of_letters h (by decide))]
  cases host with
  | nil => exact absurd rfl hne
  | cons c host => simp [hlabel]

theorem shownName_of_letters (hne : host ≠ []) (h : ∀ c ∈ host, c.isAlpha = true)
    (hlength : host.length ≤ hostLimit) : shownName host = host.map Char.toLower := by
  have hdigit : (host.getLast?.any fun c => (CodePoint.ofChar c).isDigit) = false := by
    cases hlast : host.getLast? with
    | none => rfl
    | some c => exact isDigit_of_isAlpha (h c (List.mem_of_getLast? hlast))
  have hcolon : ':' ∉ host := notMem_of_letters h (by decide)
  rw [shownName, isNumberLike, hdigit, isRegularHost_of_letters hne h]
  simp [hcolon, hlength]

theorem shownName_of_local (h : host.map Char.toLower = "localhost".toList) :
    shownName host = "localhost".toList := by
  have hletters : ∀ c ∈ "localhost".toList, c.isAlpha = true := forall_mem_of_all (by decide)
  have halpha : ∀ c ∈ host, c.isAlpha = true := fun c hc =>
    isAlpha_of_toLower (hletters _ (h ▸ List.mem_map_of_mem hc))
  have hne : host ≠ [] := by
    rintro rfl
    exact absurd h (by decide)
  have hlength : host.length ≤ hostLimit := by
    rw [← List.length_map Char.toLower, h]
    decide
  rw [shownName_of_letters hne halpha hlength, h]

end Letters

end Url

end EmitBridge
