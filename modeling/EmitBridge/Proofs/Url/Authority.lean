import EmitBridge.Proofs.Text.Percent
import EmitBridge.Proofs.Url.Ip
import EmitBridge.Proofs.Url.Split

/-! The characters of an authority. Reading it, bringing it to normal form and writing it puts no
character into it that would end it. -/

namespace EmitBridge

namespace Url

theorem toLower_cases (c : Char) :
    c.toLower = c ∨ 0x61 ≤ c.toLower.toNat ∧ c.toLower.toNat ≤ 0x7A := by
  by_cases h : c.val ≥ 'A'.val ∧ c.val ≤ 'Z'.val
  · have hlower : c.toLower.val = c.val + ('a'.val - 'A'.val) := congrArg Char.val (dif_pos h)
    have hlow : 65 ≤ c.val.toNat := UInt32.le_iff_toNat_le.1 h.1
    have hhigh : c.val.toNat ≤ 90 := UInt32.le_iff_toNat_le.1 h.2
    have hval : c.toLower.toNat = c.val.toNat + 32 := by
      show c.toLower.val.toNat = _
      rw [hlower, UInt32.toNat_add]
      exact Nat.mod_eq_of_lt (Nat.lt_of_le_of_lt (Nat.add_le_add_right hhigh _) (by decide))
    rw [hval]
    omega
  · exact .inl (dif_neg h)

theorem toLower_eq_or_isAlphanum (c : Char) : c.toLower = c ∨ c.toLower.isAlphanum := by
  rw [isAlphanum_iff]
  exact (toLower_cases c).imp_right fun h => .inl (.inr h)

theorem leavesAuthority_of_isAlphanum {c : Char} (h : c.isAlphanum) :
    leavesAuthority c = false := by
  rw [Bool.eq_false_iff]
  intro hc
  simp only [leavesAuthority, endsAuthority, isBreak, Bool.or_eq_true, beq_iff_eq] at hc
  rcases hc with ((rfl | rfl) | rfl) | (rfl | rfl) | rfl <;> exact absurd h (by decide)

theorem isAsciiChar_of_isAlphanum {c : Char} (h : c.isAlphanum) : isAsciiChar c = true := by
  have hrange := (isAlphanum_iff c).1 h
  exact decide_eq_true (by omega)

theorem isNameChar_iff (c : Char) :
    isNameChar c = true ↔ isAsciiChar c = true ∧ leavesAuthority c = false ∧ c ∉ ['@', ':'] := by
  simp only [isNameChar, isDivider, leavesAuthority, endsAuthority, isBreak, Bool.and_eq_true,
    Bool.not_eq_true', List.contains_eq_mem, decide_eq_false_iff_not, Bool.or_eq_false_iff,
    beq_eq_false_iff_ne]
  simp
  tauto

theorem isNameChar_of_isAlphanum {c : Char} (h : c.isAlphanum) : isNameChar c = true := by
  have hframe : ∀ d ∈ ['@', ':'], d.isAlphanum = false :=
    forall_mem_of_all (by decide)
  refine (isNameChar_iff c).2 ⟨isAsciiChar_of_isAlphanum h, leavesAuthority_of_isAlphanum h, ?_⟩
  exact fun hm => absurd h (ne_true_of_eq_false (hframe c hm))

def StaysInside (s : List Char) : Prop := ∀ c ∈ s, leavesAuthority c = false

namespace StaysInside

theorem nil : StaysInside [] := fun _ h => absurd h List.not_mem_nil

theorem cons {c : Char} {s : List Char} (hc : leavesAuthority c = false) (hs : StaysInside s) :
    StaysInside (c :: s) := List.forall_mem_cons.2 ⟨hc, hs⟩

theorem append {s t : List Char} (hs : StaysInside s) (ht : StaysInside t) :
    StaysInside (s ++ t) := List.forall_mem_append.2 ⟨hs, ht⟩

theorem mono {s t : List Char} (h : StaysInside t) (hs : s ⊆ t) : StaysInside s :=
  fun c hc => h c (hs hc)

theorem of_isAlphanum {s : List Char} (h : ∀ c ∈ s, c.isAlphanum) : StaysInside s :=
  fun c hc => leavesAuthority_of_isAlphanum (h c hc)

end StaysInside

theorem isProper_userPart : userPart.IsProper := ⟨rfl, rfl, rfl⟩

theorem isProper_pathPart : pathPart.IsProper := ⟨rfl, rfl, rfl⟩

theorem isProper_queryPart : queryPart.IsProper := ⟨rfl, rfl, rfl⟩

theorem isProper_fragmentPart : fragmentPart.IsProper := ⟨rfl, rfl, rfl⟩

theorem notMem_of_quoted {p : Percent.Part} {c : Char}
    (hc : p.plain c = false ∧ c ≠ '%' ∧ c.isAlphanum = false) {s : List Char} (h : p.Quoted s) :
    c ∉ s := by
  intro hm
  rcases Percent.Part.mem_quoted h hm with h | h | h
  · rw [hc.1] at h
    cases h
  · exact hc.2.1 h
  · rw [hc.2.2] at h
    cases h

theorem notMem_requote {p : Percent.Part} (hp : p.IsProper) {c : Char}
    (hc : p.plain c = false ∧ c ≠ '%' ∧ c.isAlphanum = false) (s : List Char) :
    c ∉ p.requote s := notMem_of_quoted hc (Percent.Part.quoted_requote hp s)

theorem staysInside_requote (s : List Char) : StaysInside (userPart.requote s) := by
  intro c hc
  rw [Bool.eq_false_iff]
  intro h
  simp only [leavesAuthority, endsAuthority, isBreak, Bool.or_eq_true, beq_iff_eq] at h
  rcases h with ((rfl | rfl) | rfl) | (rfl | rfl) | rfl <;>
    exact notMem_requote isProper_userPart (by decide) s hc

end Url

namespace Authority

open Url

structure StaysInside (a : Authority) : Prop where
  user : ∀ s ∈ a.user, Url.StaysInside s
  password : ∀ s ∈ a.password, Url.StaysInside s
  host : ∀ s ∈ a.host, Url.StaysInside s

theorem isDigit_natText (n : Nat) {c : Char} (h : c ∈ natText n) : c.isDigit := by
  rw [natText, Nat.toString_eq_ofList_toDigits, String.toList_ofList] at h
  exact Nat.isDigit_of_mem_toDigits (by decide) (by decide) h

theorem staysInside_natText (n : Nat) : Url.StaysInside (natText n) :=
  .of_isAlphanum fun c hc => by
    rw [Char.isAlphanum, isDigit_natText n hc, Bool.or_true]

def address (host : List Char) : Option Nat → List Char
  | some n => host ++ ':' :: natText n
  | none => host

def infoParts : Option (List Char) → Option (List Char) × Option (List Char)
  | some info => (nonEmpty (Cut.first ':' info).1, (Cut.first ':' info).2)
  | none => (none, none)

theorem write_none_none (host : List Char) (n : Option Nat) :
    write none none host n = address host n := by cases n <;> rfl

theorem write_password (user : Option (List Char)) (p host : List Char) (n : Option Nat) :
    write user (some p) host n = user.getD [] ++ ':' :: p ++ '@' :: address host n := by
  cases n <;> cases user <;> rfl

theorem write_user (u host : List Char) (n : Option Nat) :
    write (some u) none host n =
      if u.isEmpty then address host n else u ++ '@' :: address host n := by
  cases n <;> rfl

theorem read_eq (s : List Char) :
    read s = (readPort (splitHost (Cut.last '@' s).2).2).map fun n =>
      ⟨(infoParts (Cut.last '@' s).1).1, (infoParts (Cut.last '@' s).1).2,
        nonEmpty (splitHost (Cut.last '@' s).2).1, n⟩ := by
  unfold read
  cases Cut.last '@' s with
  | mk info hostInfo => cases info <;> rfl

theorem read_eq_ok {s : List Char} {a : Authority} (h : read s = .ok a) :
    ∃ n, readPort (splitHost (Cut.last '@' s).2).2 = .ok n ∧
      a = ⟨(infoParts (Cut.last '@' s).1).1, (infoParts (Cut.last '@' s).1).2,
        nonEmpty (splitHost (Cut.last '@' s).2).1, n⟩ := by
  rw [read_eq] at h
  obtain ⟨n, hn, ha⟩ := Run.exists_of_map_eq_ok h
  exact ⟨n, hn, ha.symm⟩

theorem staysInside_write {user password : Option (List Char)} {host : List Char}
    (hu : ∀ s ∈ user, Url.StaysInside s) (hp : ∀ s ∈ password, Url.StaysInside s)
    (hh : Url.StaysInside host) (portNumber : Option Nat) :
    Url.StaysInside (write user password host portNumber) := by
  have haddress : Url.StaysInside (address host portNumber) := by
    cases portNumber with
    | none => exact hh
    | some n => exact hh.append ((staysInside_natText n).cons rfl)
  have huser : Url.StaysInside (user.getD []) := by
    cases user with
    | none => exact .nil
    | some u => exact hu u rfl
  cases password with
  | some p =>
    rw [write_password]
    exact (huser.append ((hp p rfl).cons rfl)).append (haddress.cons rfl)
  | none =>
    cases user with
    | none =>
      rw [write_none_none]
      exact haddress
    | some u =>
      rw [write_user]
      split
      · exact haddress
      · exact (hu u rfl).append (haddress.cons rfl)

theorem mem_nonEmpty {s t : List Char} (h : t ∈ nonEmpty s) : t = s ∧ s ≠ [] := by
  rw [nonEmpty] at h
  split at h
  · cases h
  · next hs =>
    cases h
    exact ⟨rfl, by simpa using hs⟩

theorem splitHost_subset (s : List Char) : (splitHost s).1 ⊆ s := by
  unfold splitHost
  split
  · refine List.Subset.trans (Cut.first_fst_subset _ _) ?_
    cases h : Cut.first '[' s with
    | mk before after =>
      cases after with
      | none => exact List.nil_subset s
      | some after => exact Cut.first_snd_subset h
  · exact Cut.first_fst_subset _ _

theorem staysInside_infoParts {info : Option (List Char)} (h : ∀ i ∈ info, Url.StaysInside i) :
    (∀ u ∈ (infoParts info).1, Url.StaysInside u) ∧
      ∀ p ∈ (infoParts info).2, Url.StaysInside p := by
  cases info with
  | none => simp [infoParts]
  | some info =>
    have hi := h info rfl
    refine ⟨fun u hu => ?_, fun p hp => ?_⟩
    · rw [(mem_nonEmpty hu).1]
      exact hi.mono (Cut.first_fst_subset ':' info)
    · exact hi.mono (Cut.first_snd_subset (Prod.ext rfl hp))

theorem staysInside_read {s : List Char} (h : Url.StaysInside s) {a : Authority}
    (ha : read s = .ok a) : a.StaysInside := by
  have he : s = ((Cut.last '@' s).1.map (· ++ ['@'])).getD [] ++ (Cut.last '@' s).2 :=
    Cut.eq_of_last rfl
  have hinfo : ∀ i ∈ (Cut.last '@' s).1, Url.StaysInside i := fun i hi => by
    refine h.mono fun c hc => ?_
    rw [he, show (Cut.last '@' s).1 = some i from hi]
    exact List.mem_append_left _ (List.mem_append_left _ hc)
  have hhost : Url.StaysInside (Cut.last '@' s).2 := h.mono fun c hc => by
    rw [he]
    exact List.mem_append_right _ hc
  obtain ⟨n, -, rfl⟩ := read_eq_ok ha
  refine ⟨(staysInside_infoParts hinfo).1, (staysInside_infoParts hinfo).2, fun t ht => ?_⟩
  rw [(mem_nonEmpty ht).1]
  exact hhost.mono (splitHost_subset _)

theorem host_subset_last {s host : List Char} {a : Authority} (h : read s = .ok a)
    (hh : a.host = some host) : host ⊆ (Cut.last '@' s).2 := by
  obtain ⟨n, -, rfl⟩ := read_eq_ok h
  rw [(mem_nonEmpty hh).1]
  exact splitHost_subset _

theorem host_subset_of_read {s host : List Char} {a : Authority} (h : read s = .ok a)
    (hh : a.host = some host) : host ⊆ s := by
  intro c hc
  rw [Cut.eq_of_last (rfl : Cut.last '@' s = _)]
  exact List.mem_append_right _ (host_subset_last h hh hc)

end Authority

namespace Url

theorem checkCompatible_of_ascii [HostNames] {s : List Char}
    (h : ∀ c ∈ s, isAsciiChar c = true) : checkCompatible s = .ok () := by
  rw [checkCompatible, List.all_eq_true.2 h, Bool.true_or, Bool.true_or]
  rfl

theorem checkBrackets_of_checked [HostNames] {s : List Char} (h : checkAuthority s = .ok ()) :
    checkBrackets s = .ok () := by
  obtain ⟨_, hb, -⟩ := Run.exists_of_bind_eq_ok h
  exact hb

theorem normalHost_eq_ok [HostNames] {host normal : List Char} (h : normalHost host = .ok normal) :
    isNumberLike host = true ∧ Ip.normal? host = some normal ∨
      (∀ c ∈ host, isAsciiChar c = true) ∧ normal = host.map Char.toLower ∨
      host.all isAsciiChar = false ∧ HostNames.encode host = .ok normal := by
  unfold normalHost at h
  split at h
  · next n hn =>
    split at hn
    · next hnumber => exact .inl ⟨hnumber, Except.ok.inj h ▸ hn⟩
    · cases hn
  · split at h
    · next hascii => exact .inr (.inl ⟨List.all_eq_true.1 hascii, (Except.ok.inj h).symm⟩)
    · next hforeign =>
      refine .inr (.inr ⟨Bool.eq_false_iff.2 hforeign, ?_⟩)
      cases he : HostNames.encode host with
      | error e =>
        rw [he] at h
        cases h
      | ok name =>
        rw [he] at h
        exact congrArg Except.ok (Except.ok.inj h)

/-- What ends or divides an authority is in a host's name in ASCII only if it is in the host. -/
def KeepsDividers [HostNames] (host : List Char) : Prop :=
  ∀ ascii, HostNames.encode host = .ok ascii → ∀ c ∈ ascii, c ∈ host ∨ isNameChar c = true

theorem mem_withoutFrame_of_foreign {s : List Char} {x : Char} (hx : x ∈ s)
    (hforeign : isAsciiChar x = false) : x ∈ withoutFrame s := by
  refine List.mem_filter.2 ⟨hx, ?_⟩
  rw [Bool.not_eq_true', List.contains_eq_mem, decide_eq_false_iff_not]
  intro hframe
  have hascii : ∀ d ∈ "@:#?".toList, isAsciiChar d = true := List.all_eq_true.1 (by decide)
  rw [hascii x hframe] at hforeign
  cases hforeign

theorem divider_mem_of_checked [HostNames] {s : List Char} (h : checkCompatible s = .ok ())
    {x : Char} (hx : x ∈ s) (hforeign : isAsciiChar x = false) {c : Char} (hc : isDivider c = true)
    (hm : c ∈ HostNames.compatible (withoutFrame s)) :
    c ∈ withoutFrame s := by
  by_contra hno
  have hall : s.all isAsciiChar = false := by
    rw [List.all_eq_false]
    exact ⟨x, hx, by rw [hforeign]; decide⟩
  have hsame : (withoutFrame s == HostNames.compatible (withoutFrame s)) = false := by
    rw [beq_eq_false_iff_ne]
    exact fun he => hno (he ▸ hm)
  have hany : (HostNames.compatible (withoutFrame s)).any isDivider = true :=
    List.any_eq_true.2 ⟨c, hm, hc⟩
  simp only [checkCompatible, hall, hsame, hany] at h
  cases h

/-- The check of an authority finds every character that stands for a divider. -/
theorem keepsDividers_of_checked [HostNames] {authority host : List Char}
    (hc : checkAuthority authority = .ok ()) (hin : StaysInside authority)
    (hsub : host ⊆ authority) : KeepsDividers host := by
  intro ascii he c hm
  rcases (HostNames.encode_plain he).2 c hm with h | h | ⟨hdivider, x, hx, hforeign, hstands⟩
  · exact .inr h
  · exact .inl h
  obtain ⟨_, -, hcompatible⟩ := Run.exists_of_bind_eq_ok hc
  obtain ⟨before, after, hsplit⟩ :=
    List.append_of_mem (mem_withoutFrame_of_foreign (hsub hx) hforeign)
  have hmem := divider_mem_of_checked hcompatible (hsub hx) hforeign hdivider
    (hsplit ▸ hstands before after)
  -- the only divider that is checked is the slash, and that would have ended the authority
  obtain ⟨hauthority, hkept⟩ := List.mem_filter.1 hmem
  have hslash : c = '/' := by
    simp [isDivider] at hdivider hkept
    tauto
  exact absurd (hin c hauthority) (by rw [hslash]; decide)

theorem mem_normalHost [HostNames] {host normal : List Char} (hkeeps : KeepsDividers host)
    (h : normalHost host = .ok normal) {c : Char} (hc : c ∈ normal) :
    c ∈ host ∨ c = '[' ∨ c = ']' ∨ c = ':' ∨ isNameChar c = true := by
  rcases normalHost_eq_ok h with ⟨-, hn⟩ | ⟨-, rfl⟩ | ⟨-, he⟩
  · rcases Ip.mem_normal hn hc with hc | hc | hc | hc | hc
    · exact .inl hc
    · exact .inr (.inl hc)
    · exact .inr (.inr (.inl hc))
    · exact .inr (.inr (.inr (.inl hc)))
    · exact .inr (.inr (.inr (.inr (isNameChar_of_isAlphanum hc))))
  · obtain ⟨d, hd, rfl⟩ := List.mem_map.1 hc
    rcases toLower_eq_or_isAlphanum d with he | he
    · rw [he]
      exact .inl hd
    · exact .inr (.inr (.inr (.inr (isNameChar_of_isAlphanum he))))
  · exact (hkeeps normal he c hc).imp_right fun h => .inr (.inr (.inr h))

theorem staysInside_normalHost [HostNames] {host normal : List Char} (hkeeps : KeepsDividers host)
    (h : StaysInside host) (hn : normalHost host = .ok normal) : StaysInside normal := by
  intro c hc
  rcases mem_normalHost hkeeps hn hc with hc | rfl | rfl | rfl | hc
  · exact h c hc
  · rfl
  · rfl
  · rfl
  · exact ((isNameChar_iff c).1 hc).2.1

theorem staysInside_shownAuthority {scheme : String} {authority : List Char}
    (h : StaysInside authority) {a : Authority} (ha : a.StaysInside) :
    StaysInside (shownAuthority scheme authority a) := by
  unfold shownAuthority
  split
  · split
    · split
      · next host hh =>
        refine Authority.staysInside_write ha.user ha.password ?_ none
        have hhost := ha.host host hh
        split
        · exact (hhost.cons rfl).append (.cons rfl .nil)
        · exact hhost
      · exact .nil
    · exact h
  · exact h

end Url

end EmitBridge
