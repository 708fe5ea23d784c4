import EmitBridge.Proofs.Http.Quote
import EmitBridge.Proofs.Text.Decimal
import EmitBridge.Proofs.Url.Authority

/-! Addresses of requests as text. An address is split where it was put together, as long as no part
holds a character that would end it. -/

namespace EmitBridge.Target

open Url (endsAuthority IsRooted)

structure IsScheme (s : List Char) : Prop where
  head : ∃ c rest, s = c :: rest ∧ c.isAlpha
  chars : ∀ c ∈ s, Url.isSchemeChar c

inductive IsHost : List Char → Prop
  | name {s : List Char} (hne : s ≠ []) (hchars : ∀ c ∈ s, isHostChar c) : IsHost s
  | groups {s : List Char} (hcolon : ':' ∈ s)
      (hchars : ∀ c ∈ s, endsAuthority c = false ∧ c ≠ '@') : IsHost s

structure IsWritten (t : Target) : Prop where
  scheme : IsScheme t.scheme
  userinfo : ∀ c ∈ t.userinfo, isUserinfoChar c
  host : IsHost t.host
  rooted : IsRooted t.path
  path : ∀ c ∈ t.path, isPathChar c
  query : ∀ q ∈ t.query, ∀ c ∈ q, isQueryChar c
  fragment : ∀ f ∈ t.fragment, ∀ c ∈ f, isFragmentChar c

section characters

variable {c : Char}

theorem endsAuthority_eq_false {plain : Char → Bool} (h : ∀ d ∈ ['/', '?', '#'], plain d = false)
    (hc : plain c) : endsAuthority c = false := by
  rw [Bool.eq_false_iff]
  intro hends
  have hmem : c ∈ ['/', '?', '#'] := by simpa [endsAuthority, or_assoc] using hends
  rw [h c hmem] at hc
  cases hc

theorem isUserinfoChar_ne (h : isUserinfoChar c) : endsAuthority c = false ∧ c ≠ '@' := by
  refine ⟨endsAuthority_eq_false (forall_mem_of_all (by decide)) h, ?_⟩
  rintro rfl
  exact absurd h (by decide)

theorem isHostChar_ne (h : isHostChar c) :
    (endsAuthority c = false ∧ c ≠ '@') ∧ c ≠ ':' ∧ c ≠ '[' := by
  refine ⟨⟨endsAuthority_eq_false (forall_mem_of_all (by decide)) h, ?_⟩, ?_, ?_⟩
  all_goals
    rintro rfl
    exact absurd h (by decide)

theorem isPathChar_ne (h : isPathChar c) : c ≠ '?' ∧ c ≠ '#' := by
  constructor <;> rintro rfl <;> exact absurd h (by decide)

theorem isQueryChar_ne (h : isQueryChar c) : c ≠ '#' := by
  rintro rfl
  exact absurd h (by decide)

end characters

section host

variable {s : List Char}

theorem IsHost.chars (h : IsHost s) : ∀ c ∈ s, endsAuthority c = false ∧ c ≠ '@' := by
  cases h with
  | name _ hchars => exact fun c hc => (isHostChar_ne (hchars c hc)).1
  | groups _ hchars => exact hchars

theorem IsHost.ne_nil (h : IsHost s) : s ≠ [] := by
  cases h with
  | name hne _ => exact hne
  | groups hcolon _ => exact List.ne_nil_of_mem hcolon

theorem enclosed_of_mem (h : ':' ∈ s) : enclosed s = '[' :: s ++ [']'] := by
  rw [enclosed, if_pos (List.contains_iff_mem.mpr h)]

theorem enclosed_of_notMem (h : ':' ∉ s) : enclosed s = s := by
  rw [enclosed, if_neg (by rwa [List.contains_iff_mem])]

theorem mem_enclosed {c : Char} (h : c ∈ enclosed s) : c ∈ s ∨ c = '[' ∨ c = ']' := by
  unfold enclosed at h
  split at h
  · simp only [List.cons_append, List.mem_cons, List.mem_append, List.not_mem_nil, or_false] at h
    tauto
  · exact .inl h

theorem enclosed_ne_nil (h : s ≠ []) : enclosed s ≠ [] := by
  unfold enclosed
  split
  · exact List.cons_ne_nil _ _
  · exact h

end host

def portDigits (portNumber : Option Int) : List Char :=
  match portNumber with
  | some n => (ToString.toString n).toList
  | none => []

theorem mem_portText {portNumber : Option Int} {c : Char} (h : c ∈ portText portNumber) :
    c = ':' ∨ c = '-' ∨ c.isDigit := by
  cases portNumber with
  | none => exact absurd h List.not_mem_nil
  | some n =>
    rcases List.mem_cons.mp h with rfl | h
    · exact .inl rfl
    · exact .inr (WholeNumber.mem_toString h)

theorem portText_ne {portNumber : Option Int} {c : Char} (h : c ∈ portText portNumber) :
    endsAuthority c = false ∧ c ≠ '@' ∧ c ≠ ']' := by
  rcases mem_portText h with rfl | rfl | hdigit
  · decide
  · decide
  · exact of_isDigit (p := fun c => endsAuthority c = false ∧ c ≠ '@' ∧ c ≠ ']') (by decide) hdigit

/-- The host that a text begins with: all of it up to the last closing bracket after an opening one,
and else up to the first colon. -/
def leadingHost (s : List Char) : List Char :=
  match s with
  | '[' :: inner =>
    match Cut.last ']' inner with
    | (some before, _) => '[' :: before ++ [']']
    | (none, _) => s.takeWhile fun c => c != ':' && c != '@'
  | s => s.takeWhile fun c => c != ':' && c != '@'

theorem splitAuthority_eq {s rest : List Char} {userinfo : Option (List Char)}
    (h : Cut.last '@' s = (userinfo, rest)) :
    splitAuthority s =
      let after := rest.drop (leadingHost rest).length
      (userinfo.getD [], leadingHost rest,
        if after.head? == some ':' then after.drop 1 else after) := by
  rw [splitAuthority, h]
  rfl

theorem leadingHost_subset (s : List Char) : leadingHost s ⊆ s := by
  have htake (s : List Char) : (s.takeWhile fun c => c != ':' && c != '@') ⊆ s :=
    (List.takeWhile_sublist _).subset
  unfold leadingHost
  split
  · next inner =>
    split
    · next before after hcut =>
      have hinner := Cut.eq_of_last hcut
      rw [hinner]
      intro c hc
      simp only [List.cons_append, List.mem_cons, List.mem_append, List.not_mem_nil, or_false,
        Option.map_some, Option.getD_some] at hc ⊢
      tauto
    · exact htake _
  · exact htake _

theorem leadingHost_append {host : List Char} (h : IsHost host) (portNumber : Option Int) :
    leadingHost (enclosed host ++ portText portNumber) = enclosed host := by
  cases h with
  | name hne hchars =>
    have hcolon : ':' ∉ host := fun hm => (isHostChar_ne (hchars _ hm)).2.1 rfl
    have htake : (host ++ portText portNumber).takeWhile (fun c => c != ':' && c != '@') =
        host := by
      rw [List.takeWhile_append_of_pos fun c hc => ?_]
      · cases portNumber <;> simp [portText]
      · obtain ⟨⟨-, hat⟩, hne, -⟩ := isHostChar_ne (hchars c hc)
        simp [hat, hne]
    obtain ⟨c, rest, rfl⟩ := List.exists_cons_of_ne_nil hne
    have hbracket := (isHostChar_ne (hchars c List.mem_cons_self)).2.2
    rw [enclosed_of_notMem hcolon, leadingHost]
    · exact htake
    · rintro inner ⟨⟩
      exact hbracket rfl
  | groups hcolon _ =>
    have hcut : Cut.last ']' (host ++ ']' :: portText portNumber) =
        (some host, portText portNumber) :=
      Cut.last_append host fun hm => (portText_ne hm).2.2 rfl
    have henclosed : enclosed host ++ portText portNumber =
        '[' :: (host ++ ']' :: portText portNumber) := by
      rw [enclosed_of_mem hcolon]
      simp
    rw [henclosed, leadingHost, hcut, enclosed_of_mem hcolon]

theorem splitAuthority_authority {t : Target} (h : t.IsWritten) :
    splitAuthority t.authority = (t.userinfo, enclosed t.host, portDigits t.portNumber) := by
  have hat : '@' ∉ enclosed t.host ++ portText t.portNumber := by
    rw [List.mem_append]
    rintro (hm | hm)
    · rcases mem_enclosed hm with hm | hm | hm
      · exact (h.host.chars _ hm).2 rfl
      · exact absurd hm (by decide)
      · exact absurd hm (by decide)
    · exact (portText_ne hm).2.1 rfl
  have hlast : ∃ userinfo, Cut.last '@' t.authority =
      (userinfo, enclosed t.host ++ portText t.portNumber) ∧ userinfo.getD [] = t.userinfo := by
    unfold authority
    cases huser : t.userinfo with
    | nil => exact ⟨none, Cut.last_of_notMem hat, rfl⟩
    | cons c rest =>
      refine ⟨some (c :: rest), ?_, rfl⟩
      rw [List.isEmpty_cons, if_neg Bool.false_ne_true, List.append_assoc, List.append_assoc]
      exact Cut.last_append _ hat
  obtain ⟨userinfo, hcut, huser⟩ := hlast
  rw [splitAuthority_eq hcut, leadingHost_append h.host, List.drop_left, huser]
  cases t.portNumber <;> rfl

def marked (mark : Char) (part : Option (List Char)) : List Char :=
  match part with
  | some p => mark :: p
  | none => []

theorem first_marked {mark : Char} {s : List Char} (h : mark ∉ s) (part : Option (List Char)) :
    Cut.first mark (s ++ marked mark part) = (s, part) := by
  cases part with
  | none => rw [marked, List.append_nil, Cut.first_of_notMem h]
  | some p => exact Cut.first_append h p

def rest (t : Target) : List Char := t.path ++ marked '?' t.query ++ marked '#' t.fragment

theorem authority_ne_nil {t : Target} (h : t.host ≠ []) : t.authority ≠ [] := by
  unfold authority
  exact List.append_ne_nil_of_left_ne_nil
    (List.append_ne_nil_of_right_ne_nil _ (enclosed_ne_nil h)) _

theorem toChars_eq {t : Target} (h : t.IsWritten) :
    t.toChars = t.scheme ++ ':' :: '/' :: '/' :: (t.authority ++ t.rest) := by
  obtain ⟨c, scheme, hscheme, -⟩ := h.scheme.head
  have hauthority : t.authority.isEmpty = false :=
    List.isEmpty_eq_false_iff.mpr (authority_ne_nil h.host.ne_nil)
  have hdef : t.toChars = (if t.scheme.isEmpty then [] else t.scheme ++ [':']) ++
      (if t.authority.isEmpty then [] else '/' :: '/' :: t.authority) ++ t.path ++
        marked '?' t.query ++ marked '#' t.fragment := rfl
  rw [hdef, rest, hauthority, hscheme]
  simp only [List.isEmpty_cons, Bool.false_eq_true, if_false, List.append_assoc, List.cons_append,
    List.nil_append]

theorem endsAuthority_of_mem_authority {t : Target} (h : t.IsWritten) :
    ∀ c ∈ t.authority, endsAuthority c = false := by
  intro c hc
  unfold authority at hc
  rcases List.mem_append.mp hc with hc | hc
  · rcases List.mem_append.mp hc with hc | hc
    · split at hc
      · exact absurd hc List.not_mem_nil
      · rcases List.mem_append.mp hc with hc | hc
        · exact (isUserinfoChar_ne (h.userinfo c hc)).1
        · rw [List.mem_singleton.mp hc]
          decide
    · rcases mem_enclosed hc with hc | rfl | rfl
      · exact (h.host.chars c hc).1
      · decide
      · decide
  · exact (portText_ne hc).1

theorem head?_rest {t : Target} (h : t.IsWritten) : ∀ c ∈ t.rest.head?, endsAuthority c := by
  unfold rest
  rcases h.rooted with hpath | ⟨path, hpath⟩
  · rw [hpath]
    cases t.query <;> cases t.fragment <;> simp [marked, endsAuthority]
  · rw [hpath]
    rintro c ⟨⟩
    rfl

theorem splitScheme_of_isScheme {scheme : List Char} (h : IsScheme scheme) (rest : List Char) :
    splitScheme (scheme ++ ':' :: rest) = (scheme, rest) := by
  have hcolon : ':' ∉ scheme := fun hm => absurd (h.chars _ hm) (by decide)
  obtain ⟨c, more, hhead, halpha⟩ := h.head
  rw [splitScheme, Cut.first_append hcolon]
  have hall : scheme.all Url.isSchemeChar = true := List.all_eq_true.mpr h.chars
  have hfirst : scheme.head?.any (!·.isAlpha) = false := by
    rw [hhead]
    simp [halpha]
  simp only [hall, hfirst, Bool.not_false, Bool.and_self, if_true]

def written (t : Target) : Raw :=
  ⟨t.scheme, t.userinfo, enclosed t.host, portDigits t.portNumber, t.path, t.query, t.fragment⟩

theorem split_eq (s : List Char) :
    split s =
      let (authority, rest) := Url.splitAuthority (splitScheme s).2
      let (rest, fragment) := Cut.first '#' rest
      let (path, query) := Cut.first '?' rest
      let (userinfo, host, portNumber) := splitAuthority authority
      ⟨(splitScheme s).1, userinfo, host, portNumber, path, query, fragment⟩ := by
  rfl

theorem split_toChars {t : Target} (h : t.IsWritten) : split t.toChars = t.written := by
  have hmark : '#' ∉ t.path ++ marked '?' t.query := by
    rw [List.mem_append]
    rintro (hm | hm)
    · exact (isPathChar_ne (h.path _ hm)).2 rfl
    · cases hquery : t.query with
      | none =>
        rw [hquery] at hm
        exact absurd hm List.not_mem_nil
      | some q =>
        rw [hquery] at hm
        exact isQueryChar_ne (h.query q hquery _ (List.mem_of_ne_of_mem (by decide) hm)) rfl
  have hquestion : '?' ∉ t.path := fun hm => (isPathChar_ne (h.path _ hm)).1 rfl
  rw [toChars_eq h, split_eq, splitScheme_of_isScheme h.scheme]
  simp only [Url.splitAuthority_append (endsAuthority_of_mem_authority h) (head?_rest h)]
  rw [rest, first_marked hmark]
  simp only [first_marked hquestion, splitAuthority_authority h]
  rfl

end EmitBridge.Target
