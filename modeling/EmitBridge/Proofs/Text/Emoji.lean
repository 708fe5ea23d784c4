import EmitBridge.Proofs.Text.Cut
import EmitBridge.Text.Emoji

/-! The names of emoji in a text. A text is left as it is just if it names none; each emoji that
takes the place of its name takes two colons away. -/

namespace EmitBridge

namespace Text

def isSyntax (c : Char) : Bool := [':', '[', '\\'].contains c

end Text

namespace Emoji

open Text

variable {s word name glyph : List Char} {found : List (List Char)}

def IsWord (s : List Char) : Prop := ∀ c ∈ s, c ≠ ':' ∧ isBlank c = false

/-- What stands between two colons of a text, when it is read from the left. A colon is over at the
first blank behind it. -/
inductive Names : List Char → List (List Char) → Prop
  | nil : Names [] []
  | skip {c : Char} {s : List Char} {found : List (List Char)} : c ≠ ':' → Names s found →
    Names (c :: s) found
  | name {name s : List Char} {found : List (List Char)} : IsWord name → Names s found →
    Names (':' :: (name ++ ':' :: s)) (name :: found)
  | blank {word s : List Char} {c : Char} {found : List (List Char)} : IsWord word →
    isBlank c = true → Names s found → Names (':' :: (word ++ c :: s)) found
  | last {word : List Char} : IsWord word → Names (':' :: word) []

def IsNamedIn (s : List Char) : Prop :=
  ∃ found, Names s found ∧ ∃ name ∈ found, (glyph? name).isSome

theorem isNamedIn_cons {c : Char} (h : c ≠ ':') : IsNamedIn (c :: s) ↔ IsNamedIn s := by
  constructor
  · rintro ⟨found, hnames, hfound⟩
    cases hnames with
    | skip _ hnames => exact ⟨found, hnames, hfound⟩
    | _ => exact absurd rfl h
  · rintro ⟨found, hnames, hfound⟩
    exact ⟨found, .skip h hnames, hfound⟩

/-- The word behind a colon ends at a colon, at a blank, or with the text. -/
theorem exists_word (s : List Char) : ∃ word rest, s = word ++ rest ∧ IsWord word ∧
    ∀ c ∈ rest.head?, c = ':' ∨ isBlank c = true := by
  let inWord (c : Char) : Bool := c != ':' && !isBlank c
  refine ⟨s.takeWhile inWord, s.dropWhile inWord, List.takeWhile_append_dropWhile.symm, ?_, ?_⟩
  · intro c hc
    have hin := List.all_eq_true.mp List.all_takeWhile c hc
    simpa [inWord] using hin
  · intro c hc
    have hhead := List.head?_dropWhile_not inWord s
    rw [hc] at hhead
    by_cases hcolon : c = ':'
    · exact .inl hcolon
    · exact .inr (by simpa [inWord, hcolon] using hhead)

theorem exists_names (s : List Char) : ∃ found, Names s found := by
  induction hn : s.length using Nat.strongRecOn generalizing s with
  | _ n ih =>
    cases s with
    | nil => exact ⟨[], .nil⟩
    | cons c s =>
      have hshorter {t : List Char} (h : t.length < (c :: s).length) : ∃ found, Names t found :=
        ih t.length (hn ▸ h) t rfl
      by_cases hc : c = ':'
      · subst hc
        obtain ⟨word, rest, rfl, hword, hend⟩ := exists_word s
        cases rest with
        | nil =>
          rw [List.append_nil]
          exact ⟨[], .last hword⟩
        | cons d rest =>
          obtain ⟨found, hfound⟩ := hshorter (t := rest) (by simp; omega)
          rcases hend d rfl with rfl | hblank
          · exact ⟨_, .name hword hfound⟩
          · exact ⟨_, .blank hword hblank hfound⟩
      · obtain ⟨found, hfound⟩ := hshorter (Nat.lt_succ_self s.length)
        exact ⟨found, .skip hc hfound⟩

section Replace

theorem replace_cons {c : Char} (h : c ≠ ':') (s : List Char) :
    replace (c :: s) = c :: replace s := by
  rw [replace, replaceFrom]
  exact if_neg (by simpa using h)

theorem replaceFrom_word (h : IsWord word) (read s : List Char) :
    replaceFrom (some read) (word ++ s) = replaceFrom (some (read ++ word)) s := by
  induction word generalizing read with
  | nil => rw [List.nil_append, List.append_nil]
  | cons c word ih =>
    obtain ⟨⟨hcolon, hblank⟩, hword⟩ := List.forall_mem_cons.mp h
    rw [List.cons_append, replaceFrom]
    simp only [beq_false_of_ne hcolon, hblank, Bool.false_eq_true, if_false]
    rw [ih hword, List.append_assoc, List.singleton_append]

theorem replace_word (h : IsWord word) (s : List Char) :
    replace (':' :: (word ++ s)) = replaceFrom (some word) s := by
  rw [replace, replaceFrom]
  exact replaceFrom_word h [] s

theorem replace_name (h : IsWord name) (s : List Char) : replace (':' :: (name ++ ':' :: s)) =
    (glyph? name).getD (':' :: name ++ [':']) ++ replace s := by
  rw [replace_word h, replaceFrom]
  exact if_pos (beq_self_eq_true ':')

theorem replace_blank (h : IsWord word) {c : Char} (hc : isBlank c = true) (s : List Char) :
    replace (':' :: (word ++ c :: s)) = ':' :: (word ++ c :: replace s) := by
  have hcolon : c ≠ ':' := by
    rintro rfl
    revert hc
    decide
  rw [replace_word h, replaceFrom]
  simp only [beq_false_of_ne hcolon, hc, Bool.false_eq_true, if_false, if_true]
  rfl

theorem replace_last (h : IsWord word) : replace (':' :: word) = ':' :: word := by
  have hword := replace_word h []
  rwa [List.append_nil] at hword

end Replace

theorem replace_of_names (h : Names s found) (hnone : ∀ name ∈ found, glyph? name = none) :
    replace s = s := by
  induction h with
  | nil => rfl
  | skip hc _ ih => rw [replace_cons hc, ih hnone]
  | name hname _ ih =>
    obtain ⟨hfirst, hrest⟩ := List.forall_mem_cons.mp hnone
    rw [replace_name hname, hfirst, ih hrest, Option.getD_none, List.cons_append, List.cons_append,
      List.append_assoc, List.singleton_append]
  | blank hword hc _ ih => rw [replace_blank hword hc, ih hnone]
  | last hword => exact replace_last hword

section Glyphs

theorem mem_inPairs {words : List (List Char)} {p : List Char × List Char} (h : p ∈ inPairs words) :
    p.2 ∈ words := by
  fun_induction inPairs words with
  | case1 name glyph rest ih =>
    rcases List.mem_cons.mp h with rfl | h
    · exact List.mem_cons_of_mem _ List.mem_cons_self
    · exact List.mem_cons_of_mem _ (List.mem_cons_of_mem _ (ih h))
  | case2 => exact absurd h List.not_mem_nil

theorem not_separates_of_mem {text : List Char} {p : List Char × List Char}
    (h : p ∈ inPairs ((Cut.all ' ' (text.map fun c => if separates c then ' ' else c)).filter
      (!·.isEmpty))) : ∀ c ∈ p.2, separates c = false := by
  intro c hc
  obtain ⟨hword, -⟩ := List.mem_filter.mp (mem_inPairs h)
  have hspace : c ≠ ' ' := fun heq => Cut.notMem_of_mem_all hword (heq ▸ hc)
  obtain ⟨d, -, hd⟩ := List.mem_map.mp (Cut.subset_of_mem_all hword hc)
  split at hd
  · exact absurd hd.symm hspace
  · next hseparates =>
    rw [← hd]
    exact eq_false_of_ne_true hseparates

theorem not_separates_of_mem_table {p : List Char × List Char} (h : p ∈ table) :
    ∀ c ∈ p.2, separates c = false := by
  unfold table at h
  generalize names = text at h
  exact not_separates_of_mem h

theorem not_isSyntax_of_not_separates {c : Char} (h : separates c = false) :
    isSyntax c = false := by
  simp only [separates, isSyntax, List.contains_cons, Bool.or_eq_false_iff] at h ⊢
  exact h.2.2

theorem countP_mark (name : List Char) : (splitVariant name).2.countP isSyntax = 0 := by
  have hmarks : ∀ v ∈ variants, isSyntax v.2 = false := by decide
  unfold splitVariant
  split
  · next v hv =>
    rw [List.countP_singleton, hmarks v (List.mem_of_find?_eq_some hv)]
    rfl
  · rfl

theorem countP_glyph (h : glyph? name = some glyph) : glyph.countP isSyntax = 0 := by
  have hmark := countP_mark name
  unfold glyph? at h
  generalize splitVariant name = parts at h hmark
  obtain ⟨key, mark⟩ := parts
  obtain ⟨entry, hentry, rfl⟩ := Option.map_eq_some_iff.mp h
  obtain ⟨before, after, htable, -⟩ := List.lookup_eq_some_iff.mp hentry
  have hmem : (lower key, entry) ∈ table := by
    rw [htable]
    exact List.mem_append_right _ List.mem_cons_self
  rw [List.countP_append]
  refine Nat.add_eq_zero_iff.mpr ⟨List.countP_eq_zero.mpr fun c hc => ?_, hmark⟩
  exact ne_true_of_eq_false (not_isSyntax_of_not_separates (not_separates_of_mem_table hmem c hc))

end Glyphs

theorem countP_replace (h : Names s found) : (replace s).countP isSyntax +
    2 * found.countP (fun name => (glyph? name).isSome) ≤ s.countP isSyntax := by
  induction h with
  | nil => exact Nat.le_refl 0
  | skip hc _ ih =>
    rw [replace_cons hc, List.countP_cons, List.countP_cons]
    omega
  | @name name s found hname _ ih =>
    have hcolon : isSyntax ':' = true := rfl
    rw [replace_name hname]
    cases hglyph : glyph? name with
    | none =>
      simp only [Option.getD_none, List.countP_append, List.countP_cons, List.countP_nil, hglyph,
        hcolon, if_true, Option.isSome_none, Bool.false_eq_true, if_false]
      omega
    | some glyph =>
      simp only [Option.getD_some, List.countP_append, List.countP_cons, hglyph, hcolon, if_true,
        Option.isSome_some, countP_glyph hglyph]
      omega
  | blank hword hc _ ih =>
    rw [replace_blank hword hc]
    simp only [List.countP_append, List.countP_cons]
    omega
  | last hword =>
    rw [replace_last hword, List.countP_nil]
    exact Nat.le_refl _

theorem countP_replace_le (s : List Char) : (replace s).countP isSyntax ≤ s.countP isSyntax := by
  obtain ⟨found, hfound⟩ := exists_names s
  exact Nat.le_trans (Nat.le_add_right _ _) (countP_replace hfound)

theorem countP_replace_lt (h : IsNamedIn s) : (replace s).countP isSyntax < s.countP isSyntax := by
  obtain ⟨found, hfound, name, hname, hsome⟩ := h
  have hpos : 0 < found.countP (fun name => (glyph? name).isSome) :=
    List.countP_pos_iff.mpr ⟨name, hname, hsome⟩
  have hle := countP_replace hfound
  omega

theorem replace_of_not_isNamedIn (h : ¬IsNamedIn s) : replace s = s := by
  obtain ⟨found, hfound⟩ := exists_names s
  refine replace_of_names hfound fun name hname => ?_
  cases hglyph : glyph? name with
  | none => rfl
  | some glyph => exact absurd ⟨found, hfound, name, hname, hglyph ▸ rfl⟩ h

theorem replace_eq_self_iff : replace s = s ↔ ¬IsNamedIn s := by
  refine ⟨fun h hnamed => ?_, replace_of_not_isNamedIn⟩
  have hlt := countP_replace_lt hnamed
  rw [h] at hlt
  exact Nat.lt_irrefl _ hlt

end Emoji

end EmitBridge
