import EmitBridge.Markup.Console
import EmitBridge.Proofs.Run.Result
import EmitBridge.Proofs.Text.Cut

/-! What a console shows of a text. A line without tabs is shown as it is, but for blanks at its
end, and no style is read that is none of the text's. -/

namespace EmitBridge

def IsControl (c : Char) : Prop := c.toNat < 32 ∨ 127 ≤ c.toNat ∧ c.toNat < 160

instance (c : Char) : Decidable (IsControl c) :=
  inferInstanceAs (Decidable (c.toNat < 32 ∨ 127 ≤ c.toNat ∧ c.toNat < 160))

theorem notMem_of_isControl {c : Char} {s : List Char} (h : ∀ d ∈ s, ¬IsControl d)
    (hc : IsControl c) : c ∉ s := fun hmem => h c hmem hc

namespace Styled

variable {t u : Styled} {p : List Char → Prop} {start stop n : Nat}

def AllStyles (p : List Char → Prop) (t : Styled) : Prop := ∀ s ∈ t.spans, p s.style

theorem AllStyles.spansIn (h : t.AllStyles p) : ∀ s ∈ t.spansIn start stop, p s.style := by
  intro s hs
  obtain ⟨s', hs', hbetween⟩ := List.mem_filterMap.mp hs
  unfold Span.between? at hbetween
  simp only at hbetween
  split at hbetween
  · cases hbetween
    exact h s' hs'
  · cases hbetween

theorem AllStyles.parts (h : t.AllStyles p) (pieces : List (List Char)) :
    ∀ u ∈ t.parts start pieces, u.AllStyles p := by
  induction pieces generalizing start with
  | nil => exact fun u hu => absurd hu List.not_mem_nil
  | cons piece pieces ih => exact List.forall_mem_cons.mpr ⟨h.spansIn, ih⟩

theorem AllStyles.lines (h : t.AllStyles p) : ∀ u ∈ t.lines, u.AllStyles p := by
  unfold Styled.lines
  split
  · exact h.parts _
  · exact List.forall_mem_singleton.mpr h

theorem AllStyles.append (ht : t.AllStyles p) (hu : u.AllStyles p) : (t.append u).AllStyles p := by
  refine List.forall_mem_append.mpr ⟨ht, fun s hs => ?_⟩
  obtain ⟨s', hs', rfl⟩ := List.mem_map.mp hs
  exact hu s' hs'

theorem AllStyles.pad (h : t.AllStyles p) : (t.pad n).AllStyles p := by
  intro s hs
  obtain ⟨s', hs', rfl⟩ := List.mem_map.mp hs
  split
  · exact h s' hs'
  · exact h s' hs'

theorem AllStyles.crop (h : t.AllStyles p) : (t.crop n).AllStyles p := by
  intro s hs
  obtain ⟨s', hs', rfl⟩ := List.mem_map.mp hs
  exact h s' (List.mem_of_mem_filter hs')

theorem map_chars_parts (t : Styled) (start : Nat) (pieces : List (List Char)) :
    (t.parts start pieces).map chars = pieces := by
  induction pieces generalizing start with
  | nil => rfl
  | cons piece pieces ih => exact congrArg (piece :: ·) (ih _)

theorem join_lines (t : Styled) : Cut.join '\n' (t.lines.map chars) = t.chars := by
  unfold lines
  split
  · rw [map_chars_parts, Cut.join_all]
  · rfl

theorem lines_of_notMem (h : '\n' ∉ t.chars) : t.lines = [t] := by
  rw [lines, if_neg (mt List.contains_iff_mem.mp h)]

end Styled

namespace Console

variable {console : Console} {t : Styled} {s : List Char} {p : List Char → Prop}
  {q : Char → Bool}

section Styles

theorem allStyles_tabbed (h : t.AllStyles p) (start column : Nat) (pieces : List (List Char)) :
    (console.tabbed t start column pieces).AllStyles p := by
  fun_induction console.tabbed t start column pieces with
  | case1 => exact fun s hs => absurd hs List.not_mem_nil
  | case2 => exact h.spansIn
  | case3 start column piece pieces hne behind blank reached ih =>
    have hblank : blank.AllStyles p := h.spansIn
    exact hblank.pad.append ih

theorem allStyles_layout (h : t.AllStyles p) : ∀ u ∈ console.layout t, u.AllStyles p := by
  intro u hu
  obtain ⟨line, hline, rfl⟩ := List.mem_map.mp hu
  have hexpanded : (console.expandTabs line).AllStyles p := by
    unfold expandTabs
    split
    · exact allStyles_tabbed (h.lines line hline) 0 0 _
    · exact h.lines line hline
  unfold cutBlanks
  split
  · exact hexpanded
  · exact hexpanded.crop

theorem forM_eq_ok {α : Type} {xs : List α} {f : α → Except Fault Unit}
    (h : ∀ x ∈ xs, f x = .ok ()) : xs.forM f = .ok () := by
  induction xs with
  | nil => rfl
  | cons x xs ih =>
    obtain ⟨hx, hxs⟩ := List.forall_mem_cons.mp h
    show (f x >>= fun _ => xs.forM f) = _
    rw [hx]
    exact ih hxs

theorem checkStyles_of_readable (h : t.AllStyles fun style => ∃ s?, Style.read? style = .ok s?) :
    console.checkStyles t = .ok () := by
  refine forM_eq_ok fun line hline => forM_eq_ok fun s hs => ?_
  obtain ⟨s?, hread⟩ := allStyles_layout h line hline s hs
  rw [hread]
  rfl

end Styles

section Characters

theorem countP_tabbed (hblank : q ' ' = false) (t : Styled) (start column : Nat)
    (pieces : List (List Char)) :
    (console.tabbed t start column pieces).chars.countP q = pieces.flatten.countP q := by
  fun_induction console.tabbed t start column pieces with
  | case1 => rfl
  | case2 start column piece => rw [List.flatten_singleton]
  | case3 start column piece pieces hne behind blank reached ih =>
    rw [List.flatten_cons, List.countP_append, ← ih]
    simp only [Styled.append, Styled.pad, blank, List.countP_append, List.countP_replicate,
      List.countP_singleton, hblank, Bool.false_eq_true, if_false, Nat.add_zero]

theorem countP_expandTabs (console : Console) (hblank : q ' ' = false) (htab : q '\t' = false)
    (t : Styled) :
    (console.expandTabs t).chars.countP q = t.chars.countP q := by
  unfold expandTabs
  split
  · rw [countP_tabbed hblank, ← Cut.countP_join htab, Cut.join_all]
  · rfl

theorem expandTabs_of_notMem (h : '\t' ∉ t.chars) : console.expandTabs t = t := by
  rw [expandTabs, if_neg (mt List.contains_iff_mem.mp h)]

theorem chars_cutBlanks (t : Styled) : (console.cutBlanks t).chars =
    t.chars.take (t.chars.length - console.excess t.chars) := by
  unfold cutBlanks
  split
  · next hnone => rw [hnone, Nat.sub_zero, List.take_length]
  · rfl

theorem countP_shown (hblank : q ' ' = false) (htab : q '\t' = false) (hline : q '\n' = false)
    (t : Styled) : (console.shown t).countP q ≤ t.chars.countP q := by
  have hlines (us : List Styled) :
      ((us.map fun line => console.cutBlanks (console.expandTabs line)).map
        Styled.chars).flatten.countP q ≤ (us.map Styled.chars).flatten.countP q := by
    induction us with
    | nil => exact Nat.le_refl _
    | cons u us ih =>
      have hcut : (console.cutBlanks (console.expandTabs u)).chars.countP q ≤
          u.chars.countP q := by
        rw [← countP_expandTabs console hblank htab u, chars_cutBlanks]
        exact (List.take_sublist _ _).countP_le
      simp only [List.map_cons, List.flatten_cons, List.countP_append]
      exact Nat.add_le_add hcut ih
  rw [shown, Cut.countP_join hline, layout]
  have hjoined : (t.lines.map Styled.chars).flatten.countP q = t.chars.countP q := by
    rw [← Cut.countP_join hline, Styled.join_lines]
  exact hjoined ▸ hlines t.lines

theorem shown_of_line (hline : '\n' ∉ t.chars) (htab : '\t' ∉ t.chars) : console.shown t =
    t.chars.take (t.chars.length - console.excess t.chars) := by
  rw [shown, layout, Styled.lines_of_notMem hline]
  show (console.cutBlanks (console.expandTabs t)).chars = _
  rw [expandTabs_of_notMem htab, chars_cutBlanks]

end Characters

section Blanks

def isBlank (c : Char) : Bool := (CodePoint.ofChar c).isBlank

/-- The text is shown up to its end: the console cuts nothing off, or the line fits, or it does not
end in a blank. -/
def Keeps (console : Console) (s : List Char) : Prop :=
  console.cutsBlanks = true → console.width < s.length → ∀ c ∈ s.getLast?, isBlank c = false

theorem excess_eq_zero_iff : console.excess s = 0 ↔ console.Keeps s := by
  have hblanks : (s.reverse.takeWhile isBlank).length = 0 ↔
      ∀ c ∈ s.getLast?, isBlank c = false := by
    rw [List.length_eq_zero_iff, ← List.head?_reverse]
    cases s.reverse with
    | nil => exact iff_of_true rfl nofun
    | cons c rest =>
      rw [List.takeWhile_cons]
      cases hc : isBlank c with
      | true => exact iff_of_false (List.cons_ne_nil _ _) fun h => absurd (h c rfl) (by simp [hc])
      | false =>
        refine iff_of_true rfl ?_
        rintro _ ⟨⟩
        exact hc
  unfold excess Keeps
  cases console.cutsBlanks with
  | false => exact iff_of_true rfl nofun
  | true =>
    show min (s.reverse.takeWhile isBlank).length (s.length - console.width) = 0 ↔ _
    rw [← hblanks]
    constructor
    · intro h _ hwide
      omega
    · intro h
      by_cases hwide : console.width < s.length
      · rw [h rfl hwide, Nat.zero_min]
      · omega

theorem excess_le (s : List Char) : console.excess s ≤ s.length := by
  unfold excess
  simp only
  split
  · exact Nat.le_trans (Nat.min_le_right _ _) (Nat.sub_le _ _)
  · exact Nat.zero_le _

theorem countP_take_excess (console : Console) (s : List Char) :
    (s.take (s.length - console.excess s)).countP isBlank + console.excess s =
      s.countP isBlank := by
  have hblanks : console.excess s ≤ (s.reverse.takeWhile isBlank).length := by
    unfold excess
    simp only
    split
    · exact Nat.min_le_left _ _
    · exact Nat.zero_le _
  have hdropped : (s.drop (s.length - console.excess s)).countP isBlank = console.excess s := by
    have hall : ∀ c ∈ s.drop (s.length - console.excess s), isBlank c = true := by
      intro c hc
      rw [← List.mem_reverse, List.reverse_drop,
        Nat.sub_sub_self (excess_le s)] at hc
      have hblanks : s.reverse.take (console.excess s) <+: s.reverse.takeWhile isBlank := by
        rw [List.prefix_iff_eq_take.mp (List.takeWhile_prefix isBlank)]
        exact List.take_prefix_take_left hblanks
      exact List.all_eq_true.mp List.all_takeWhile c (hblanks.subset hc)
    rw [List.countP_eq_length.mpr hall, List.length_drop, Nat.sub_sub_self (excess_le s)]
  have hsplit := congrArg (List.countP isBlank)
    (List.take_append_drop (s.length - console.excess s) s)
  rw [List.countP_append, hdropped] at hsplit
  exact hsplit

end Blanks

end Console

end EmitBridge
