import EmitBridge.Proofs.Text.Decimal
import EmitBridge.Proofs.Url.Host

/-! Reading what was written. An authority in normal form is read as the parts that it was written
from, and stays in normal form. -/

namespace EmitBridge

namespace Authority

def writtenInfo (user password : Option (List Char)) : Option (List Char) :=
  match password with
  | some p => some (user.getD [] ++ ':' :: p)
  | none => user.bind nonEmpty

theorem write_eq (user password : Option (List Char)) (host : List Char) (n : Option Nat) :
    write user password host n =
      ((writtenInfo user password).map (· ++ ['@'])).getD [] ++ address host n := by
  cases password with
  | some p =>
    rw [write_password, writtenInfo]
    simp
  | none =>
    cases user with
    | none =>
      rw [write_none_none]
      rfl
    | some u =>
      rw [write_user, writtenInfo, Option.bind_some, nonEmpty]
      split
      · rfl
      · rw [Option.map_some, Option.getD_some, List.append_assoc]
        rfl

theorem infoParts_writtenInfo {user password : Option (List Char)} (hne : user ≠ some [])
    (hcolon : ∀ u ∈ user, ':' ∉ u) : infoParts (writtenInfo user password) = (user, password) := by
  have hnonEmpty : nonEmpty (user.getD []) = user := by
    rcases user with _ | _ | ⟨c, u⟩
    · rfl
    · exact absurd rfl hne
    · rfl
  have hno : ':' ∉ user.getD [] := by
    cases user with
    | none => exact List.not_mem_nil
    | some u => exact hcolon u rfl
  cases password with
  | some p =>
    rw [writtenInfo, infoParts, Cut.first_append hno, hnonEmpty]
  | none =>
    rcases user with _ | _ | ⟨c, u⟩
    · rfl
    · exact absurd rfl hne
    · have hcut : Cut.first ':' (c :: u) = (c :: u, none) := Cut.first_of_notMem hno
      rw [writtenInfo, Option.bind_some, nonEmpty, List.isEmpty_cons, if_neg Bool.false_ne_true,
        infoParts, hcut]
      rfl

def portText (n : Option Nat) : List Char := (n.map natText).getD []

theorem readPort_portText {n : Option Nat} (h : ∀ k ∈ n, k ≤ 65535) :
    readPort (portText n) = .ok n := by
  cases n with
  | none => rfl
  | some k =>
    have hk := h k rfl
    have hdigits : natText k = Nat.toDigits 10 k := by
      rw [natText, Nat.toString_eq_ofList_toDigits, String.toList_ofList]
    have hread : WholeNumber.read? ((natText k).map CodePoint.ofChar) = some (Int.ofNat k) := by
      rw [hdigits]
      refine WholeNumber.read?_toDigits (Nat.lt_of_le_of_lt hk ?_)
      exact Nat.lt_of_lt_of_le (by decide) (Nat.pow_le_pow_right (by decide) (by decide) :
        10 ^ 5 ≤ 10 ^ digitLimit)
    have hne : (natText k).isEmpty = false := by
      rw [hdigits, List.isEmpty_eq_false_iff]
      exact Nat.toDigits_ne_nil
    rw [portText, Option.map_some, Option.getD_some, readPort, hne, if_neg Bool.false_ne_true,
      hread]
    exact if_pos ⟨Int.natCast_nonneg k, Int.ofNat_le.2 hk⟩

theorem readPort_le {s : List Char} {n : Option Nat} (h : readPort s = .ok n) :
    ∀ k ∈ n, k ≤ 65535 := by
  rintro k rfl
  rw [readPort] at h
  split at h
  · cases h
  · split at h
    · cases h
    · split at h
      · next hk =>
        have hn := Option.some.inj (Except.ok.inj h)
        omega
      · cases h

theorem user_of_read {s user : List Char} {a : Authority} (h : read s = .ok a)
    (hu : a.user = some user) : user ≠ [] := by
  obtain ⟨n, -, rfl⟩ := read_eq_ok h
  cases hi : (Cut.last '@' s).1 with
  | none =>
    rw [hi] at hu
    cases hu
  | some info =>
    rw [hi] at hu
    obtain ⟨he, hne⟩ := mem_nonEmpty hu
    exact he ▸ hne

theorem portNumber_of_read {s : List Char} {a : Authority} (h : read s = .ok a) :
    ∀ k ∈ a.portNumber, k ≤ 65535 := by
  obtain ⟨n, hread, rfl⟩ := read_eq_ok h
  exact readPort_le hread

inductive IsShownHost : List Char → Prop
  | plain {host : List Char} : '[' ∉ host → ':' ∉ host → IsShownHost host
  | bracketed {content : List Char} : ']' ∉ content → IsShownHost ('[' :: (content ++ [']']))

theorem address_eq (host : List Char) (n : Option Nat) :
    address host n = host ++ (n.map (':' :: natText ·)).getD [] := by
  cases n with
  | none => exact (List.append_nil host).symm
  | some n => rfl

theorem isAlphanum_natText {n : Nat} {c : Char} (h : c ∈ natText n) : c.isAlphanum := by
  rw [Char.isAlphanum, isDigit_natText n h, Bool.or_true]

theorem notMem_natText {c : Char} (hc : c.isAlphanum = false) (n : Nat) :
    c ∉ natText n := fun h => by
  rw [isAlphanum_natText h] at hc
  cases hc

theorem notMem_portTail {c : Char} (hc : c.isAlphanum = false) (hcolon : c ≠ ':') (n : Option Nat) :
    c ∉ (n.map (':' :: natText ·)).getD [] := by
  cases n with
  | none => exact List.not_mem_nil
  | some n => exact List.not_mem_cons_of_ne_of_not_mem hcolon (notMem_natText hc n)

theorem first_portTail (n : Option Nat) :
    ((Cut.first ':' ((n.map (':' :: natText ·)).getD [])).2).getD [] = portText n := by
  cases n with
  | none => rfl
  | some n => rfl

theorem splitHost_address {host : List Char} (h : IsShownHost host) (n : Option Nat) :
    splitHost (address host n) = (Url.bareHost host, portText n) := by
  rw [address_eq]
  cases h with
  | plain hopen hcolon =>
    have hno : (host ++ (n.map (':' :: natText ·)).getD []).contains '[' = false := by
      rw [List.contains_eq_mem, decide_eq_false_iff_not, List.mem_append, not_or]
      exact ⟨hopen, notMem_portTail (by decide) (by decide) n⟩
    rw [splitHost, hno, if_neg Bool.false_ne_true, Url.bareHost_of_notMem hopen]
    cases n with
    | none =>
      rw [Option.map_none, Option.getD_none, List.append_nil, Cut.first_of_notMem hcolon]
      rfl
    | some n =>
      rw [Option.map_some, Option.getD_some, Cut.first_append hcolon]
      rfl
  | @bracketed content hclose =>
    have htext : ('[' :: (content ++ [']'])) ++ (n.map (':' :: natText ·)).getD [] =
        '[' :: (content ++ ']' :: (n.map (':' :: natText ·)).getD []) := by simp
    have hcut : Cut.first '[' ('[' :: (content ++ ']' :: (n.map (':' :: natText ·)).getD [])) =
        ([], some (content ++ ']' :: (n.map (':' :: natText ·)).getD [])) :=
      Cut.first_append List.not_mem_nil _
    rw [htext, splitHost, if_pos (by simp), hcut, Url.bareHost_brackets]
    simp only [Option.getD_some, Cut.first_append hclose, first_portTail]

theorem notMem_address {c : Char} {host : List Char} (hc : c.isAlphanum = false) (hcolon : c ≠ ':')
    (hh : c ∉ host) (n : Option Nat) : c ∉ address host n := by
  rw [address_eq, List.mem_append, not_or]
  exact ⟨hh, notMem_portTail hc hcolon n⟩

theorem last_write {user password : Option (List Char)} {host : List Char} (hh : '@' ∉ host)
    (n : Option Nat) :
    Cut.last '@' (write user password host n) = (writtenInfo user password, address host n) := by
  have hno : '@' ∉ address host n := notMem_address (by decide) (by decide) hh n
  rw [write_eq]
  cases writtenInfo user password with
  | none => exact Cut.last_of_notMem hno
  | some info =>
    rw [Option.map_some, Option.getD_some, List.append_assoc]
    exact Cut.last_append info hno

theorem read_write {user password : Option (List Char)} {host : List Char} {n : Option Nat}
    (hne : user ≠ some []) (hcolon : ∀ u ∈ user, ':' ∉ u) (hh : IsShownHost host) (hat : '@' ∉ host)
    (hn : ∀ k ∈ n, k ≤ 65535) :
    read (write user password host n) =
      .ok ⟨user, password, nonEmpty (Url.bareHost host), n⟩ := by
  rw [read_eq, last_write hat, splitHost_address hh, readPort_portText hn,
    infoParts_writtenInfo hne hcolon]
  rfl

end Authority

namespace Url

def IsBracketedIn (host s : List Char) : Prop :=
  host ≠ [] ∧ ']' ∉ host ∧
    ∃ before after, '[' ∉ before ∧ s = before ++ '[' :: (host ++ ']' :: after)

theorem length_bareHost {host : List Char} (h : '[' ∈ host) :
    (bareHost host).length = host.length - 2 := by
  rw [bareHost, if_pos (by simpa using h), List.length_dropLast, List.length_drop]
  rfl

theorem eq_brackets_of_isBracketedIn {host info tail : List Char} (hopen : '[' ∈ host)
    (hinfo : '[' ∉ info) (htail : ']' ∉ tail)
    (h : IsBracketedIn (bareHost host) (info ++ (host ++ tail))) :
    host = '[' :: (bareHost host ++ [']']) := by
  obtain ⟨hne, -, before, after, hbefore, he⟩ := h
  obtain ⟨front, back, hhost, hfront⟩ := List.eq_append_cons_of_mem hopen
  have hlength : (bareHost host).length = front.length + 1 + back.length - 2 := by
    rw [length_bareHost hopen, hhost, List.length_append, List.length_cons]
    omega
  have hpos := List.length_pos_iff.2 hne
  -- the first bracket of the text is the first one of the host
  have hcut : Cut.first '[' (info ++ (host ++ tail)) = (info ++ front, some (back ++ tail)) := by
    have hno : '[' ∉ info ++ front := fun hm => (List.mem_append.1 hm).elim hinfo hfront
    rw [hhost, ← Cut.first_append hno]
    simp
  rw [he, Cut.first_append hbefore, Prod.mk.injEq, Option.some.injEq] at hcut
  rcases List.append_eq_append_iff.1 hcut.2 with ⟨rest, hback, hrest⟩ | ⟨rest, -, hrest⟩
  · cases rest with
    | nil => exact absurd ((List.nil_append tail ▸ hrest) ▸ List.mem_cons_self) htail
    | cons c rest =>
      obtain ⟨rfl, -⟩ := List.cons.inj hrest
      rw [hback, List.length_append, List.length_cons] at hlength
      have hnil : front = [] ∧ rest = [] :=
        ⟨List.length_eq_zero_iff.1 (by omega), List.length_eq_zero_iff.1 (by omega)⟩
      calc host = front ++ '[' :: back := hhost
        _ = '[' :: (bareHost host ++ [']']) := by rw [hback, hnil.1, hnil.2, List.nil_append]
  · exact absurd (hrest ▸ List.mem_append_right _ List.mem_cons_self) htail

theorem notMem_writtenInfo {user password : Option (List Char)} (hu : ∀ u ∈ user, userPart.Quoted u)
    (hp : ∀ p ∈ password, userPart.Quoted p) {c : Char}
    (hc : userPart.plain c = false ∧ c ≠ '%' ∧ c.isAlphanum = false ∧ c ≠ ':' ∧ c ≠ '@') :
    c ∉ ((Authority.writtenInfo user password).map (· ++ ['@'])).getD [] := by
  have hquoted {s : List Char} (hs : userPart.Quoted s) : c ∉ s :=
    notMem_of_quoted ⟨hc.1, hc.2.1, hc.2.2.1⟩ hs
  have hinfo : ∀ i ∈ Authority.writtenInfo user password, c ∉ i := by
    intro i hi
    cases password with
    | some p =>
      cases hi
      rw [List.mem_append, List.mem_cons, not_or, not_or]
      refine ⟨?_, hc.2.2.2.1, hquoted (hp p rfl)⟩
      cases user with
      | none => exact List.not_mem_nil
      | some u => exact hquoted (hu u rfl)
    | none =>
      obtain ⟨u, hu', hi⟩ := Option.bind_eq_some_iff.1 hi
      rw [(Authority.mem_nonEmpty hi).1]
      exact hquoted (hu u hu')
  cases hi : Authority.writtenInfo user password with
  | none => exact List.not_mem_nil
  | some i =>
    rw [Option.map_some, Option.getD_some, List.mem_append, List.mem_singleton, not_or]
    exact ⟨hinfo i hi, hc.2.2.2.2⟩

theorem isShownHost_of_isBracketedIn {user password : Option (List Char)}
    (hu : ∀ u ∈ user, userPart.Quoted u) (hp : ∀ p ∈ password, userPart.Quoted p) {host : List Char}
    {n : Option Nat} (h : ':' ∈ bareHost host ∨ '[' ∈ Authority.write user password host n →
      IsBracketedIn (bareHost host) (Authority.write user password host n)) :
    Authority.IsShownHost host := by
  have hinfo := notMem_writtenInfo hu hp (c := '[') (by decide)
  rw [Authority.write_eq, Authority.address_eq] at h
  by_cases hopen : '[' ∈ host
  · have hbracketed := h (.inr (List.mem_append_right _ (List.mem_append_left _ hopen)))
    have htail := Authority.notMem_portTail (c := ']') (by decide) (by decide) n
    rw [eq_brackets_of_isBracketedIn hopen hinfo htail hbracketed]
    exact .bracketed hbracketed.2.1
  · refine .plain hopen fun hcolon => ?_
    have hbare : ':' ∈ bareHost host := by rwa [bareHost_of_notMem hopen]
    obtain ⟨-, -, before, after, -, he⟩ := h (.inl hbare)
    have hno : '[' ∉ host ++ (n.map (':' :: Authority.natText ·)).getD [] := fun hm =>
      (List.mem_append.1 hm).elim hopen (Authority.notMem_portTail (by decide) (by decide) n)
    exact (List.mem_append.1 (he ▸ List.mem_append_right _ List.mem_cons_self)).elim hinfo hno

theorem notMem_normalHost [HostNames] {c : Char} {host normal : List Char}
    (hkeeps : KeepsDividers host) (h : normalHost host = .ok normal)
    (hc : c ≠ '[' ∧ c ≠ ']' ∧ c ≠ ':' ∧ isNameChar c = false) (hno : c ∉ host) : c ∉ normal := by
  intro hm
  rcases mem_normalHost hkeeps h hm with hm | hm | hm | hm | hm
  · exact hno hm
  · exact hc.1 hm
  · exact hc.2.1 hm
  · exact hc.2.2.1 hm
  · rw [hc.2.2.2] at hm
    cases hm

theorem quoted_map_requote (o : Option (List Char)) :
    ∀ s ∈ o.map userPart.requote, userPart.Quoted s := by
  intro s hs
  obtain ⟨t, _, rfl⟩ := Option.map_eq_some_iff.1 hs
  exact Percent.Part.quoted_requote isProper_userPart t

structure IsSpelling (scheme : String) (user password : Option (List Char)) (host : List Char)
    (n : Option Nat) : Prop where
  quotedUser : ∀ u ∈ user, userPart.Quoted u
  namedUser : user ≠ some []
  shown : Authority.IsShownHost host
  bare : Authority.nonEmpty (bareHost host) = some (bareHost host) ∨
    hostSchemes.contains scheme = false
  noAt : '@' ∉ host
  port : ∀ k ∈ n, k ≤ 65535

theorem isSpelling_of_normalAuthority [HostNames] {scheme : String} {authority written : List Char}
    {a : Authority} (hc : checkAuthority authority = .ok ()) (hin : StaysInside authority)
    (h : normalAuthority scheme authority = .ok (written, a))
    (hhost : ∀ host ∈ a.host, ':' ∈ host ∨ '[' ∈ written → IsBracketedIn host written) :
    ∃ user password host n, written = Authority.write user password host n ∧
      a = ⟨user, password, some (bareHost host), n⟩ ∧ IsSpelling scheme user password host n := by
  obtain ⟨a₀, host, normal, hr, hh, hn, rfl, rfl⟩ := normalAuthority_eq_ok h
  have hu := quoted_map_requote a₀.user
  have hp := quoted_map_requote a₀.password
  have hbehind : host ⊆ (Cut.last '@' authority).2 := by
    rcases hh with hh | ⟨-, rfl, -⟩
    · exact Authority.host_subset_last hr hh
    · exact List.nil_subset _
  have hsub : host ⊆ authority := by
    rw [Cut.eq_of_last (rfl : Cut.last '@' authority = _)]
    exact List.Subset.trans hbehind (List.subset_append_right _ _)
  have hat : '@' ∉ normal :=
    notMem_normalHost (keepsDividers_of_checked hc hin hsub) hn (by decide)
      fun hm => Cut.notMem_of_last rfl (hbehind hm)
  have huser : a₀.user.map userPart.requote ≠ some [] := by
    intro he
    obtain ⟨user, hs, hrequote⟩ := Option.map_eq_some_iff.1 he
    exact Percent.Part.requote_ne_nil (Authority.user_of_read hr hs) hrequote
  have hbare : Authority.nonEmpty (bareHost normal) = some (bareHost normal) ∨
      hostSchemes.contains scheme = false := by
    rcases hh with hh | ⟨-, -, hs⟩
    · left
      have hne := normalHost_ne_nil hn (Authority.host_of_read hr hh).2
      have hbare : bareHost normal ≠ [] := by
        by_cases hopen : '[' ∈ normal
        · refine (hhost _ rfl (.inr ?_)).1
          rw [Authority.write_eq, Authority.address_eq]
          exact List.mem_append_right _ (List.mem_append_left _ hopen)
        · rwa [bareHost_of_notMem hopen]
      exact if_neg (by simpa using hbare)
    · exact .inr hs
  exact ⟨_, _, _, _, rfl, rfl, hu, huser, isShownHost_of_isBracketedIn hu hp (hhost _ rfl), hbare,
    hat, Authority.portNumber_of_read hr⟩

theorem shown_of_reread [HostNames] {scheme : String} {authority written : List Char}
    {a : Authority} (hc : checkAuthority authority = .ok ()) (hin : StaysInside authority)
    (h : normalAuthority scheme authority = .ok (written, a))
    (hhost : ∀ host ∈ a.host, ':' ∈ host ∨ '[' ∈ written → IsBracketedIn host written) :
    ∃ b, Authority.read written = .ok b ∧
      shownAuthority scheme written b = shownAuthority scheme written a := by
  obtain ⟨user, password, host, n, rfl, rfl, hs⟩ := isSpelling_of_normalAuthority hc hin h hhost
  refine ⟨_, Authority.read_write hs.namedUser
    (fun u hm => notMem_of_quoted (by decide) (hs.quotedUser u hm)) hs.shown hs.noAt hs.port, ?_⟩
  rcases hs.bare with hbare | hscheme
  · rw [hbare]
  · -- a scheme without hosts has no service number of its own
    have hport : defaultPort? scheme = none := by
      rw [defaultPort?, List.lookup_eq_none_iff]
      intro e he
      have hname : e.1 ∈ hostSchemes := by
        revert e
        decide
      rw [bne_iff_ne]
      rintro rfl
      rw [List.contains_eq_mem, decide_eq_false_iff_not] at hscheme
      exact hscheme hname
    unfold shownAuthority
    cases n with
    | none => rfl
    | some k => simp [hport]

end Url

end EmitBridge
