import EmitBridge.Proofs.Text.Cut
import EmitBridge.Proofs.Text.Hex
import EmitBridge.Url.Ip
import Mathlib.Data.List.GetD
import Mathlib.Data.List.Nodup

/-! Numeric hosts in normal form: the characters that they are made of, and the groups that are read
from them. -/

namespace EmitBridge

theorem of_mapM_eq_some {α β : Type} {f : α → Option β} {items : List α} {values : List β}
    (h : items.mapM f = some values) :
    values.length = items.length ∧ ∀ b ∈ values, ∃ a, f a = some b := by
  induction items generalizing values with
  | nil =>
    cases h
    exact ⟨rfl, fun b hb => absurd hb List.not_mem_nil⟩
  | cons a items ih =>
    rw [List.mapM_cons] at h
    obtain ⟨b, hb, h⟩ := Option.bind_eq_some_iff.1 h
    obtain ⟨values', hv, h⟩ := Option.bind_eq_some_iff.1 h
    obtain ⟨hlen, hread⟩ := ih hv
    rw [← Option.some.inj h]
    exact ⟨congrArg (· + 1) hlen, List.forall_mem_cons.2 ⟨⟨a, hb⟩, hread⟩⟩

theorem isSome_of_mem_mapM {α β : Type} {f : α → Option β} {items : List α} {values : List β}
    (h : items.mapM f = some values) {a : α} (ha : a ∈ items) : (f a).isSome := by
  induction items generalizing values with
  | nil => exact absurd ha List.not_mem_nil
  | cons b items ih =>
    rw [List.mapM_cons] at h
    obtain ⟨c, hc, h⟩ := Option.bind_eq_some_iff.mp h
    obtain ⟨rest, hrest, -⟩ := Option.bind_eq_some_iff.mp h
    rcases List.mem_cons.mp ha with rfl | ha
    · exact Option.isSome_of_eq_some hc
    · exact ih hrest ha

theorem mapM_map_eq_some {α β : Type} {f : α → Option β} {g : β → α} {values : List β}
    (h : ∀ b ∈ values, f (g b) = some b) : (values.map g).mapM f = some values := by
  induction values with
  | nil => rfl
  | cons b values ih =>
    obtain ⟨hb, hrest⟩ := List.forall_mem_cons.1 h
    rw [List.map_cons, List.mapM_cons, hb, ih hrest]
    rfl

namespace Ip

theorem isSome_value?_showGroup {n : Nat} {c : Char} (h : c ∈ showGroup n) :
    (Hex.value? c).isSome := by
  rw [showGroup] at h
  split at h
  · rw [List.mem_singleton.1 h]
    rfl
  · exact Hex.isSome_value?_lowerDigits ((List.dropWhile_sublist _).subset h)

theorem mem_join_showGroup {gs : List Nat} {c : Char}
    (h : c ∈ Cut.join ':' (gs.map showGroup)) : c = ':' ∨ (Hex.value? c).isSome := by
  rcases Cut.mem_join h with rfl | ⟨piece, hp, hc⟩
  · exact .inl rfl
  · obtain ⟨n, _, rfl⟩ := List.mem_map.1 hp
    exact .inr (isSome_value?_showGroup hc)

theorem mem_showGroups {gs : List Nat} {c : Char} (h : c ∈ showGroups gs) :
    c = ':' ∨ (Hex.value? c).isSome := by
  unfold showGroups at h
  simp only at h
  split at h
  · exact mem_join_showGroup h
  · simp only [List.mem_append, List.mem_cons, List.not_mem_nil, or_false, or_self] at h
    rcases h with (h | h) | h
    · exact mem_join_showGroup h
    · exact .inl h
    · exact mem_join_showGroup h

theorem notMem_showGroups {gs : List Nat} {c : Char} (hc : c ≠ ':' ∧ Hex.value? c = none) :
    c ∉ showGroups gs := by
  intro hm
  rcases mem_showGroups hm with rfl | hm
  · exact hc.1 rfl
  · rw [hc.2] at hm
    cases hm

structure AreGroups (gs : List Nat) : Prop where
  length : gs.length = 8
  bound : ∀ g ∈ gs, g < 0x10000

theorem group?_eq (s : List Char) :
    group? s = (s.mapM Hex.value?).bind fun ds =>
      if ds.isEmpty || 4 < ds.length then none else some (Hex.ofValues ds) := rfl

theorem group?_lt {s : List Char} {n : Nat} (h : group? s = some n) : n < 0x10000 := by
  rw [group?_eq] at h
  obtain ⟨ds, hds, h⟩ := Option.bind_eq_some_iff.1 h
  obtain ⟨_, hread⟩ := of_mapM_eq_some hds
  split at h
  · cases h
  · next hlen =>
    have hlt : ∀ d ∈ ds, d < 16 := by
      intro d hd
      obtain ⟨c, hc⟩ := hread d hd
      exact (Hex.of_value? hc).2
    have hshort : ds.length ≤ 4 := by
      simp only [Bool.or_eq_true, decide_eq_true_eq, not_or] at hlen
      omega
    rw [← Option.some.inj h]
    exact Nat.lt_of_lt_of_le (Hex.ofValues_lt hlt) (Nat.pow_le_pow_right (by decide) hshort)

theorem mapM_group?_lt {parts : List (List Char)} {gs : List Nat}
    (h : parts.mapM group? = some gs) : ∀ g ∈ gs, g < 0x10000 := by
  intro g hg
  obtain ⟨s, hs⟩ := (of_mapM_eq_some h).2 g hg
  exact group?_lt hs

theorem group?_showGroup {n : Nat} (h : n < 0x10000) : group? (showGroup n) = some n := by
  obtain ⟨ds, hds, hn⟩ := Hex.mapM_value?_lowerDigits 4 n
  obtain ⟨ds', hds', hn'⟩ := Hex.mapM_value?_dropWhile hds
  have hvalue : Hex.ofValues ds' = n := by
    rw [hn', hn]
    exact Nat.mod_eq_of_lt h
  have hlen : ds'.length ≤ 4 := by
    rw [(of_mapM_eq_some hds').1]
    exact (List.dropWhile_sublist _).length_le
  rw [showGroup]
  split
  · next hempty =>
    rw [List.isEmpty_iff] at hempty
    rw [hempty] at hds'
    cases hds'
    rw [← hvalue]
    rfl
  · next hne =>
    have hsome : ds'.isEmpty = false := by
      rw [List.isEmpty_eq_false_iff, ← List.length_pos_iff, (of_mapM_eq_some hds').1,
        List.length_pos_iff]
      exact fun he => hne (List.isEmpty_iff.2 he)
    rw [group?_eq, hds', Option.bind_some, hsome, Bool.false_or,
      if_neg (by simpa using hlen), hvalue]

theorem mapM_showGroup {gs : List Nat} (h : ∀ g ∈ gs, g < 0x10000) :
    (gs.map showGroup).mapM group? = some gs :=
  mapM_map_eq_some fun g hg => group?_showGroup (h g hg)

def side? (parts : List (List Char)) : Option (List Nat) :=
  if parts == [[]] then some [] else parts.mapM group?

def fill? (high low : List Nat) : Option (List Nat) :=
  if high.length + low.length < 8 then
    some (high ++ List.replicate (8 - high.length - low.length) 0 ++ low)
  else none

theorem groups?_of_gap {s : List Char} {parts : List (List Char)} {gap : Nat}
    (hp : pieces? s = some parts) (hlen : parts.length ≤ 9) (hgap : gaps parts = [gap]) :
    groups? s =
      (side? (parts.take gap)).bind fun high =>
        (side? (parts.drop (gap + 1))).bind (fill? high) := by
  rw [groups?, hp, Option.bind_eq_bind, Option.bind_some, if_neg (by omega), hgap]
  simp only [side?]
  split
  · split <;> rfl
  · split <;> rfl

theorem groups?_of_no_gap {s : List Char} {parts : List (List Char)} (hp : pieces? s = some parts)
    (hlen : parts.length = 8) (hgap : gaps parts = []) :
    groups? s = parts.mapM group? := by
  rw [groups?, hp, Option.bind_eq_bind, Option.bind_some, if_neg (by omega), hgap]
  exact if_pos (beq_iff_eq.2 hlen)

theorem groups?_eq_some {s : List Char} {gs : List Nat} (h : groups? s = some gs) :
    ∃ parts : List (List Char), (parts.length = 8 ∧ parts.mapM group? = some gs) ∨
      ∃ gap high low, side? (parts.take gap) = some high ∧
        side? (parts.drop (gap + 1)) = some low ∧ fill? high low = some gs := by
  cases hp : pieces? s with
  | none =>
    rw [groups?, hp] at h
    cases h
  | some parts =>
    refine ⟨parts, ?_⟩
    by_cases hlen : parts.length ≤ 9
    · rcases hg : gaps parts with _ | ⟨gap, _ | ⟨next, rest⟩⟩
      · rw [groups?, hp, Option.bind_eq_bind, Option.bind_some, if_neg (by omega), hg] at h
        simp only at h
        split at h
        · next h8 => exact .inl ⟨beq_iff_eq.1 h8, h⟩
        · cases h
      · rw [groups?_of_gap hp hlen hg] at h
        obtain ⟨high, hhigh, h⟩ := Option.bind_eq_some_iff.1 h
        obtain ⟨low, hlow, h⟩ := Option.bind_eq_some_iff.1 h
        exact .inr ⟨gap, high, low, hhigh, hlow, h⟩
      · rw [groups?, hp, Option.bind_eq_bind, Option.bind_some, if_neg (by omega), hg] at h
        cases h
    · rw [groups?, hp, Option.bind_eq_bind, Option.bind_some, if_pos (by omega)] at h
      cases h

theorem side?_lt {parts : List (List Char)} {side : List Nat} (h : side? parts = some side) :
    ∀ g ∈ side, g < 0x10000 := by
  rw [side?] at h
  split at h
  · rw [← Option.some.inj h]
    exact fun g hg => absurd hg List.not_mem_nil
  · exact mapM_group?_lt h

theorem areGroups_of_groups? {s : List Char} {gs : List Nat} (h : groups? s = some gs) :
    AreGroups gs := by
  obtain ⟨parts, ⟨hlen, hread⟩ | ⟨gap, high, low, hhigh, hlow, hfill⟩⟩ := groups?_eq_some h
  · exact ⟨(of_mapM_eq_some hread).1.trans hlen, mapM_group?_lt hread⟩
  · rw [fill?] at hfill
    split at hfill
    · next hlen =>
      rw [← Option.some.inj hfill]
      refine ⟨?_, fun g hg => ?_⟩
      · simp only [List.length_append, List.length_replicate]
        omega
      · rcases List.mem_append.1 hg with hg | hg
        · rcases List.mem_append.1 hg with hg | hg
          · exact side?_lt hhigh g hg
          · rw [List.eq_of_mem_replicate hg]
            decide
        · exact side?_lt hlow g hg
    · cases hfill

theorem gaps_of_ne_nil {parts : List (List Char)}
    (h : ∀ i, 0 < i → i < parts.length - 1 → parts.getD i [] ≠ []) : gaps parts = [] := by
  rw [gaps, List.filter_eq_nil_iff]
  intro i hi hgap
  rw [Bool.and_eq_true, decide_eq_true_eq, List.isEmpty_iff] at hgap
  exact h i hgap.1 (List.mem_range.1 hi) hgap.2

theorem gaps_of_only {parts : List (List Char)} {gap : Nat} (h0 : 0 < gap)
    (hlt : gap < parts.length - 1)
    (h : ∀ i, 0 < i → i < parts.length - 1 → (parts.getD i [] = [] ↔ i = gap)) :
    gaps parts = [gap] := by
  have hfilter : gaps parts = (List.range (parts.length - 1)).filter (· == gap) := by
    refine List.filter_congr fun i hi => ?_
    rw [Bool.eq_iff_iff, Bool.and_eq_true, decide_eq_true_eq, List.isEmpty_iff, beq_iff_eq]
    constructor
    · rintro ⟨hpos, he⟩
      exact (h i hpos (List.mem_range.1 hi)).1 he
    · rintro rfl
      exact ⟨h0, (h i h0 hlt).2 rfl⟩
  rw [hfilter, List.filter_beq, List.count_eq_one_of_mem List.nodup_range (List.mem_range.2 hlt)]
  rfl

theorem showGroup_ne_nil (n : Nat) : showGroup n ≠ [] := by
  rw [showGroup]
  split
  · exact List.cons_ne_nil _ _
  · next h =>
    rintro he
    exact h (List.isEmpty_iff.2 he)

def sidePieces (gs : List Nat) : List (List Char) :=
  if gs.isEmpty then [[]] else gs.map showGroup

theorem length_sidePieces (gs : List Nat) : (sidePieces gs).length = max 1 gs.length := by
  cases gs with
  | nil => rfl
  | cons g gs =>
    rw [sidePieces, List.isEmpty_cons, if_neg Bool.false_ne_true, List.length_map, List.length_cons]
    omega

theorem all_sidePieces (gs : List Nat) :
    Cut.all ':' (Cut.join ':' (gs.map showGroup)) = sidePieces gs := by
  cases gs with
  | nil => rfl
  | cons g gs =>
    rw [sidePieces, List.isEmpty_cons, if_neg Bool.false_ne_true]
    refine Cut.all_join (List.cons_ne_nil _ _) fun piece hp hc => ?_
    obtain ⟨n, _, rfl⟩ := List.mem_map.1 hp
    exact absurd (isSome_value?_showGroup hc) (by decide)

theorem side?_sidePieces {gs : List Nat} (h : ∀ g ∈ gs, g < 0x10000) :
    side? (sidePieces gs) = some gs := by
  cases gs with
  | nil => rfl
  | cons g gs =>
    have hne : (sidePieces (g :: gs) == [[]]) = false := by
      rw [beq_eq_false_iff_ne]
      exact fun he => showGroup_ne_nil g (List.cons.inj he).1
    rw [side?, hne, if_neg Bool.false_ne_true]
    exact mapM_showGroup h

theorem getD_sidePieces {gs : List Nat} {i : Nat} (hi : i < (sidePieces gs).length)
    (h : 0 < i ∨ i + 1 < (sidePieces gs).length) : (sidePieces gs).getD i [] ≠ [] := by
  cases gs with
  | nil =>
    have hlen : (sidePieces []).length = 1 := rfl
    omega
  | cons g gs =>
    have hpiece : (sidePieces (g :: gs)).getD i [] ∈ (g :: gs).map showGroup := by
      rw [List.getD_eq_getElem _ _ hi]
      exact List.getElem_mem hi
    obtain ⟨n, _, hn⟩ := List.mem_map.1 hpiece
    rw [← hn]
    exact showGroup_ne_nil n

theorem gaps_of_sides (before after : List Nat) :
    gaps (sidePieces before ++ [] :: sidePieces after) = [(sidePieces before).length] := by
  have hb := length_sidePieces before
  have ha := length_sidePieces after
  have hlen : (sidePieces before ++ [] :: sidePieces after).length - 1 =
      (sidePieces before).length + (sidePieces after).length := by
    rw [List.length_append, List.length_cons]
    omega
  refine gaps_of_only (by omega) (by omega) fun i hpos hi => ?_
  rw [hlen] at hi
  rcases Nat.lt_trichotomy i (sidePieces before).length with hlt | rfl | hgt
  · rw [List.getD_append _ _ _ _ hlt]
    exact iff_of_false (getD_sidePieces hlt (.inl hpos)) (Nat.ne_of_lt hlt)
  · rw [List.getD_append_right _ _ _ _ (Nat.le_refl _), Nat.sub_self]
    exact iff_of_true rfl rfl
  · obtain ⟨j, rfl⟩ := Nat.exists_eq_add_of_lt hgt
    rw [List.getD_append_right _ _ _ _ (Nat.le_of_lt hgt),
      show (sidePieces before).length + j + 1 - (sidePieces before).length = j + 1 by omega,
      List.getD_cons_succ]
    exact iff_of_false (getD_sidePieces (by omega) (.inr (by omega))) (by omega)

theorem pieces?_of_all {s : List Char} (hdot : '.' ∉ s) (hlen : 3 ≤ (Cut.all ':' s).length) :
    pieces? s = some (Cut.all ':' s) := by
  have htail : ((Cut.all ':' s).getLastD []).contains '.' = false := by
    rw [List.contains_eq_mem, decide_eq_false_iff_not]
    intro hm
    have hlast := List.getLast_mem (Cut.all_ne_nil ':' s)
    rw [List.getLastD_eq_getLast?, List.getLast?_eq_some_getLast (Cut.all_ne_nil ':' s),
      Option.getD_some] at hm
    exact hdot (Cut.subset_of_mem_all hlast hm)
  rw [pieces?]
  simp only [htail, Bool.false_eq_true, if_false]
  exact if_neg (by omega)

theorem take_of_takeWhile_zero {gs : List Nat} {n : Nat}
    (h : n ≤ (gs.takeWhile (· == 0)).length) : gs.take n = List.replicate n 0 := by
  induction gs generalizing n with
  | nil =>
    rw [Nat.le_zero.1 h]
    rfl
  | cons g gs ih =>
    cases n with
    | zero => rfl
    | succ n =>
      rw [List.takeWhile_cons] at h
      split at h
      · next hg =>
        rw [List.take_succ_cons, ih (Nat.le_of_succ_le_succ h), beq_iff_eq.1 hg]
        rfl
      · cases h

theorem longestZeros_spec (gs : List Nat) :
    (longestZeros gs).2 ≤ ((gs.drop (longestZeros gs).1).takeWhile (· == 0)).length := by
  refine List.foldlRecOn (List.range gs.length) _ (motive := fun best : Nat × Nat =>
    best.2 ≤ ((gs.drop best.1).takeWhile (· == 0)).length) (Nat.zero_le _) ?_
  intro best hbest i _
  simp only
  split
  · exact Nat.le_refl _
  · exact hbest

theorem showGroups_cases (gs : List Nat) :
    showGroups gs = Cut.join ':' (gs.map showGroup) ∨
      ∃ before after run, gs = before ++ List.replicate run 0 ++ after ∧ 2 ≤ run ∧
        showGroups gs = Cut.join ':' (before.map showGroup) ++
          ':' :: ':' :: Cut.join ':' (after.map showGroup) := by
  by_cases hrun : (longestZeros gs).2 < 2
  · left
    unfold showGroups
    exact if_pos hrun
  · right
    refine ⟨gs.take (longestZeros gs).1, gs.drop ((longestZeros gs).1 + (longestZeros gs).2),
      (longestZeros gs).2, ?_, by omega, ?_⟩
    · rw [← take_of_takeWhile_zero (longestZeros_spec gs), ← List.drop_drop, List.append_assoc,
        List.take_append_drop, List.take_append_drop]
    · unfold showGroups
      simp only [if_neg hrun, List.append_assoc, List.cons_append, List.nil_append]

/-- The zeros that are left out between the sides are those that they lack to eight groups. -/
theorem groups?_of_sides {s : List Char} {before after : List Nat} (hdot : '.' ∉ s)
    (hall : Cut.all ':' s = sidePieces before ++ [] :: sidePieces after)
    (hlength : before.length + after.length < 8) (hbefore : ∀ g ∈ before, g < 0x10000)
    (hafter : ∀ g ∈ after, g < 0x10000) :
    groups? s =
      some (before ++ List.replicate (8 - before.length - after.length) 0 ++ after) := by
  have hb := length_sidePieces before
  have ha := length_sidePieces after
  have hlen : (sidePieces before ++ [] :: sidePieces after).length =
      max 1 before.length + (max 1 after.length + 1) := by
    rw [List.length_append, List.length_cons, hb, ha]
  have hpieces := pieces?_of_all hdot (by rw [hall, hlen]; omega)
  rw [hall] at hpieces
  rw [groups?_of_gap hpieces (by rw [hlen]; omega) (gaps_of_sides before after),
    List.take_left, List.drop_append, List.drop_eq_nil_of_le (by omega),
    show (sidePieces before).length + 1 - (sidePieces before).length = 1 by omega,
    List.nil_append, List.drop_one, List.tail_cons, side?_sidePieces hbefore,
    side?_sidePieces hafter, Option.bind_some, Option.bind_some, fill?, if_pos (by omega)]

theorem groups?_showGroups {gs : List Nat} (h : AreGroups gs) :
    groups? (showGroups gs) = some gs := by
  have hdot : '.' ∉ showGroups gs := notMem_showGroups (by decide)
  rcases showGroups_cases gs with hs | ⟨before, after, run, hgs, hrun, hs⟩
  · have hall : Cut.all ':' (showGroups gs) = sidePieces gs := by rw [hs, all_sidePieces]
    have hlen : (sidePieces gs).length = 8 := by
      rw [length_sidePieces, h.length]
      rfl
    have hgaps : gaps (sidePieces gs) = [] :=
      gaps_of_ne_nil fun i hpos hi => getD_sidePieces (by omega) (.inl hpos)
    have hpieces := pieces?_of_all hdot (by rw [hall, hlen]; decide)
    rw [hall] at hpieces
    rw [groups?_of_no_gap hpieces hlen hgaps]
    cases gs with
    | nil => cases h.length
    | cons g gs => exact mapM_showGroup h.bound
  · have hall : Cut.all ':' (showGroups gs) = sidePieces before ++ [] :: sidePieces after := by
      rw [hs, Cut.all_append_all, Cut.all_cons_self, all_sidePieces, all_sidePieces]
    have hgroups : before.length + run + after.length = 8 := by
      rw [← h.length, hgs, List.length_append, List.length_append, List.length_replicate]
    have hbound : (∀ g ∈ before, g < 0x10000) ∧ ∀ g ∈ after, g < 0x10000 := by
      refine ⟨fun g hg => h.bound g ?_, fun g hg => h.bound g ?_⟩ <;> rw [hgs] <;> simp [hg]
    rw [groups?_of_sides hdot hall (by omega) hbound.1 hbound.2,
      show 8 - before.length - after.length = run by omega, ← hgs]

def zoneText (zone : Option (List Char)) : List Char := (zone.map ('%' :: ·)).getD []

theorem normal?_eq (host : List Char) :
    normal? host = match quad? (Cut.first '%' host).1 with
      | some _ => some ((Cut.first '%' host).1 ++ zoneText (Cut.first '%' host).2)
      | none => (groups? (Cut.first '%' host).1).map fun gs =>
          '[' :: showGroups gs ++ zoneText (Cut.first '%' host).2 ++ [']'] := by
  unfold normal?
  cases Cut.first '%' host with
  | mk address zone => cases zone <;> rfl

theorem eq_append_zoneText (host : List Char) :
    host = (Cut.first '%' host).1 ++ zoneText (Cut.first '%' host).2 := Cut.eq_of_first rfl

theorem groups?_of_notMem {s : List Char} (h : ':' ∉ s) : groups? s = none := by
  rw [groups?, pieces?]
  simp only [Cut.all_of_notMem h, List.length_singleton]
  rfl

theorem isDigit_of_octet? {s : List Char} (h : (octet? s).isSome) : ∀ c ∈ s, c.isDigit := by
  unfold octet? at h
  split at h
  · cases h
  · next hdigits =>
    simp only [Bool.or_eq_true, Bool.not_eq_true', not_or, Bool.not_eq_false] at hdigits
    exact List.all_eq_true.mp hdigits.1.2

theorem mem_of_quad? {s : List Char} (h : (quad? s).isSome) {c : Char} (hc : c ∈ s) :
    c = '.' ∨ c.isDigit := by
  obtain ⟨values, hvalues⟩ := Option.isSome_iff_exists.mp h
  unfold quad? at hvalues
  dsimp only at hvalues
  split at hvalues
  · rw [← Cut.join_all '.' s] at hc
    rcases Cut.mem_join hc with rfl | ⟨piece, hpiece, hc⟩
    · exact .inl rfl
    · exact .inr (isDigit_of_octet? (isSome_of_mem_mapM hvalues hpiece) c hc)
  · cases hvalues

theorem colon_mem_showGroups {gs : List Nat} (h : AreGroups gs) : ':' ∈ showGroups gs := by
  by_contra hno
  have hread := groups?_showGroups h
  rw [groups?_of_notMem hno] at hread
  cases hread

theorem mem_normal {host normal : List Char} (h : normal? host = some normal) {c : Char}
    (hc : c ∈ normal) : c ∈ host ∨ c = '[' ∨ c = ']' ∨ c = ':' ∨ c.isAlphanum := by
  rw [normal?_eq] at h
  split at h
  · cases h
    rw [← eq_append_zoneText] at hc
    exact .inl hc
  · obtain ⟨gs, _, rfl⟩ := Option.map_eq_some_iff.1 h
    simp only [List.cons_append, List.append_assoc, List.mem_cons, List.mem_append,
      List.not_mem_nil, or_false] at hc
    rcases hc with hc | hc | hc | hc
    · exact .inr (.inl hc)
    · refine .inr (.inr (.inr ((mem_showGroups hc).imp_right fun hv => ?_)))
      obtain ⟨d, hd⟩ := Option.isSome_iff_exists.1 hv
      exact (Hex.of_value? hd).1
    · refine .inl ?_
      rw [eq_append_zoneText host]
      exact List.mem_append_right _ hc
    · exact .inr (.inr (.inl hc))

end Ip

end EmitBridge
