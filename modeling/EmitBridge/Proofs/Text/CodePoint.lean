import EmitBridge.Text.Basic
import Mathlib.Data.List.Basic

/-! Characters among the code points: a text of characters holds no surrogate, and is read back as
the string it was made from. -/

namespace EmitBridge

namespace CodePoint

theorem ofNat_val {n : Nat} (h : n < 0x110000) : (ofNat n).val = n := Nat.mod_eq_of_lt h

theorem ofNat_val_self (p : CodePoint) : ofNat p.val = p := Fin.ext (ofNat_val p.isLt)

theorem ofChar_val (c : Char) : (ofChar c).val = c.toNat := by
  apply ofNat_val
  rcases c.valid with h | ⟨_, h⟩
  · exact Nat.lt_trans h (by decide)
  · exact h

theorem isSurrogate_ofChar (c : Char) : (ofChar c).isSurrogate = false := by
  simp only [isSurrogate, ofChar_val, Bool.and_eq_false_iff, decide_eq_false_iff_not]
  rcases c.valid with h | ⟨h, _⟩
  · exact Or.inl (Nat.not_le.mpr h)
  · exact Or.inr (Nat.not_le.mpr h)

@[simp] theorem toChar?_ofChar (c : Char) : (ofChar c).toChar? = some c := by
  simp only [toChar?, isSurrogate_ofChar, Bool.false_eq_true, if_false, ofChar_val,
    Char.ofNat_toNat]

theorem toNat_char {n : Nat} (h : n.isValidChar) : (Char.ofNat n).toNat = n := by
  rw [Char.ofNat, dif_pos h]
  rfl

theorem exists_ofChar {p : CodePoint} (h : p.isSurrogate = false) : ∃ c, ofChar c = p := by
  refine ⟨Char.ofNat p.val, Fin.ext ?_⟩
  have hv : p.val.isValidChar := by
    simp only [isSurrogate, Bool.and_eq_false_iff, decide_eq_false_iff_not] at h
    have hp := p.isLt
    rcases h with h | h
    · exact Or.inl (by omega)
    · exact Or.inr ⟨by omega, hp⟩
  rw [ofChar_val, toNat_char hv]

end CodePoint

namespace Text

@[simp] theorem toChars?_ofChars (cs : List Char) : (ofChars cs).toChars? = some cs := by
  induction cs with
  | nil => rfl
  | cons c cs ih =>
    simp only [toChars?, ofChars, List.map_cons] at ih ⊢
    simp only [List.mapM_cons, CodePoint.toChar?_ofChar, ih, Option.pure_def, Option.bind_eq_bind,
      Option.bind_some]

theorem toChars?_eq_some_iff {t : Text} {cs : List Char} :
    t.toChars? = some cs ↔ t = ofChars cs := by
  refine ⟨fun h => ?_, fun h => h ▸ toChars?_ofChars cs⟩
  obtain ⟨ps⟩ := t
  rw [toChars?] at h
  induction ps generalizing cs with
  | nil =>
    obtain rfl : cs = [] := by simpa using h.symm
    rfl
  | cons p ps ih =>
    simp only [List.mapM_cons, Option.pure_def, Option.bind_eq_bind, Option.bind_eq_some_iff,
      Option.some.injEq] at h
    obtain ⟨c, hc, ds, hds, rfl⟩ := h
    have hp : p = CodePoint.ofChar c := by
      rw [CodePoint.toChar?] at hc
      split at hc
      · cases hc
      · next hs =>
        obtain ⟨d, rfl⟩ := CodePoint.exists_ofChar (Bool.eq_false_iff.mpr hs)
        rw [CodePoint.ofChar_val, Char.ofNat_toNat] at hc
        rw [Option.some.inj hc]
    have hps := Text.mk.inj (ih hds)
    rw [hp, hps]
    rfl

@[simp] theorem toString_ofChars (cs : List Char) : (ofChars cs).toString = String.ofList cs := by
  have h : (cs.map CodePoint.ofChar).map (fun p => p.toChar?.getD '\uFFFD') = cs := by
    simp only [List.map_map, Function.comp_def, CodePoint.toChar?_ofChar, Option.getD_some,
      List.map_id']
  simp only [toString, ofChars, h]

@[simp] theorem toString_ofString (s : String) : (ofString s).toString = s := by
  rw [ofString, toString_ofChars, String.ofList_toList]

theorem ofString_injective : Function.Injective ofString :=
  Function.LeftInverse.injective toString_ofString

theorem exists_ofChars {t : Text} (h : t.hasSurrogate = false) : ∃ cs, ofChars cs = t := by
  obtain ⟨ps⟩ := t
  simp only [hasSurrogate, List.any_eq_false] at h
  induction ps with
  | nil => exact ⟨[], rfl⟩
  | cons p ps ih =>
    obtain ⟨cs, hcs⟩ := ih fun q hq => h q (List.mem_cons_of_mem _ hq)
    obtain ⟨c, rfl⟩ := CodePoint.exists_ofChar (Bool.eq_false_iff.mpr (h p List.mem_cons_self))
    refine ⟨c :: cs, ?_⟩
    rw [ofChars] at hcs
    rw [ofChars, List.map_cons, ← Text.mk.inj hcs]

theorem toString_eq_iff {t : Text} {s : String} (h : '\uFFFD' ∉ s.toList) :
    t.toString = s ↔ t = ofString s := by
  constructor
  · intro hs
    have hclean : t.hasSurrogate = false := by
      rw [← Bool.not_eq_true, hasSurrogate, List.any_eq_true]
      rintro ⟨p, hp, hsurrogate⟩
      refine h ?_
      rw [← hs, toString, String.toList_ofList]
      refine List.mem_map.mpr ⟨p, hp, ?_⟩
      rw [CodePoint.toChar?, if_pos hsurrogate]
      rfl
    obtain ⟨cs, rfl⟩ := exists_ofChars hclean
    rw [toString_ofChars] at hs
    rw [← hs, ofString, String.toList_ofList]
  · rintro rfl
    exact toString_ofString s

end Text

end EmitBridge
