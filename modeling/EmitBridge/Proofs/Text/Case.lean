import EmitBridge.Proofs.Text.CodePoint
import EmitBridge.Proofs.Text.Hex
import EmitBridge.Text.Case
import Mathlib.Data.List.Forall2

/-! Lower case. It keeps the number of code points but for one letter, and code points that differ
in nothing but ASCII case have it in common. -/

namespace EmitBridge

namespace CodePoint

def weight (p : CodePoint) : Nat := if p.val = 0x130 then 2 else 1

theorem length_lower (p : CodePoint) : p.lower.length = p.weight := by
  unfold lower weight
  by_cases hascii : p.val < 0x80
  · have hother : p.val ≠ 0x130 := by omega
    simp [hascii, hother]
  · by_cases hdotted : p.val = 0x130 <;> simp [hascii, hdotted]

structure SameCase (p q : CodePoint) : Prop where
  lower : p.lower = q.lower
  cased : p.isCased = q.isCased
  ignorable : p.isCaseIgnorable = q.isCaseIgnorable
  sigma : p.val = 0x3A3 ↔ q.val = 0x3A3

theorem SameCase.refl (p : CodePoint) : SameCase p p := ⟨rfl, rfl, rfl, Iff.rfl⟩

theorem sameCase_toLower (c : Char) : SameCase (ofChar c.toLower) (ofChar c) := by
  by_cases hupper : c.val ≥ 'A'.val ∧ c.val ≤ 'Z'.val
  · -- the tables say so for each of the letters
    have htables : ∀ n < 26, (ofChar (Char.ofNat (65 + n)).toLower).lower =
        (ofChar (Char.ofNat (65 + n))).lower ∧
        (ofChar (Char.ofNat (65 + n)).toLower).isCased =
          (ofChar (Char.ofNat (65 + n))).isCased ∧
        (ofChar (Char.ofNat (65 + n)).toLower).isCaseIgnorable =
          (ofChar (Char.ofNat (65 + n))).isCaseIgnorable ∧
        ((ofChar (Char.ofNat (65 + n)).toLower).val = 0x3A3 ↔
          (ofChar (Char.ofNat (65 + n))).val = 0x3A3) := by decide +kernel
    have hlow : 65 ≤ c.toNat := UInt32.le_iff_toNat_le.1 hupper.1
    have hhigh : c.toNat ≤ 90 := UInt32.le_iff_toNat_le.1 hupper.2
    have hall : ∀ n < 26,
        SameCase (ofChar (Char.ofNat (65 + n)).toLower) (ofChar (Char.ofNat (65 + n))) := by
      intro n hn
      obtain ⟨hlower, hcased, hignorable, hsigma⟩ := htables n hn
      exact ⟨hlower, hcased, hignorable, hsigma⟩
    exact of_toNat_range (p := fun c => SameCase (ofChar c.toLower) (ofChar c)) hall hlow (by omega)
  · have hsame : c.toLower = c := dif_neg hupper
    rw [hsame]
    exact .refl _

theorem nextIsCased_congr {ps qs : List CodePoint} (h : List.Forall₂ SameCase ps qs) :
    nextIsCased ps = nextIsCased qs := by
  induction h with
  | nil => rfl
  | @cons p q ps qs hp hps ih =>
    unfold nextIsCased at ih ⊢
    rw [List.dropWhile_cons, List.dropWhile_cons, hp.ignorable]
    cases q.isCaseIgnorable with
    | true => exact ih
    | false => exact hp.cased

end CodePoint

namespace Text

open CodePoint

def weights : List CodePoint → Nat
  | [] => 0
  | p :: ps => p.weight + weights ps

theorem length_lowerFrom (before ps : List CodePoint) :
    (lowerFrom before ps).length = weights ps := by
  induction ps generalizing before with
  | nil => rfl
  | cons p ps ih =>
    rw [lowerFrom, List.length_append, ih, weights]
    by_cases hsigma : p.val = 0x3A3
    · have hone : p.weight = 1 := by simp [weight, hsigma]
      simp [hsigma, hone]
    · simp [hsigma, length_lower]

theorem lowerFrom_congr {bs cs ps qs : List CodePoint} (hb : List.Forall₂ SameCase bs cs)
    (h : List.Forall₂ SameCase ps qs) : lowerFrom bs ps = lowerFrom cs qs := by
  induction h generalizing bs cs with
  | nil => rfl
  | @cons p q ps qs hp hps ih =>
    rw [lowerFrom, lowerFrom, ih (.cons hp hb), nextIsCased_congr hb, nextIsCased_congr hps,
      hp.lower]
    by_cases hsigma : p.val = 0x3A3
    · have hq := hp.sigma.mp hsigma
      simp [hsigma, hq]
    · have hq := mt hp.sigma.mpr hsigma
      simp [hsigma, hq]

def lowerLength (s : List Char) : Nat := weights (s.map ofChar)

theorem length_lower (s : List Char) : (Text.ofChars s).lower.length = lowerLength s :=
  length_lowerFrom [] (s.map ofChar)

theorem lowerLength_cons (c : Char) (s : List Char) :
    lowerLength (c :: s) = (ofChar c).weight + lowerLength s := rfl

theorem lowerLength_append (s t : List Char) :
    lowerLength (s ++ t) = lowerLength s + lowerLength t := by
  induction s with
  | nil => exact (Nat.zero_add _).symm
  | cons c s ih => rw [List.cons_append, lowerLength_cons, lowerLength_cons, ih, Nat.add_assoc]

theorem weight_ofChar {c : Char} (h : c ≠ '\u0130') : (ofChar c).weight = 1 := by
  refine if_neg fun hval => h ?_
  rw [ofChar_val] at hval
  rw [← Char.ofNat_toNat c, hval]

theorem lowerLength_of_notMem {s : List Char} (h : '\u0130' ∉ s) : lowerLength s = s.length := by
  induction s with
  | nil => rfl
  | cons c s ih =>
    obtain ⟨hc, hs⟩ := not_or.1 (mt List.mem_cons.2 h)
    have htail : lowerLength s = s.length := ih hs
    rw [lowerLength_cons, weight_ofChar (Ne.symm hc), htail, List.length_cons, Nat.add_comm]

theorem lower_append_toLower (front s back : List Char) :
    (Text.ofChars (front ++ (s.map Char.toLower ++ back))).lower =
      (Text.ofChars (front ++ (s ++ back))).lower := by
  have hrefl (t : List Char) : List.Forall₂ SameCase (t.map ofChar) (t.map ofChar) :=
    List.forall₂_same.mpr fun p _ => .refl p
  have hpart : List.Forall₂ SameCase ((s.map Char.toLower).map ofChar) (s.map ofChar) := by
    rw [List.map_map, List.forall₂_map_left_iff, List.forall₂_map_right_iff]
    exact List.forall₂_same.mpr fun c _ => sameCase_toLower c
  have hall : List.Forall₂ SameCase ((front ++ (s.map Char.toLower ++ back)).map ofChar)
      ((front ++ (s ++ back)).map ofChar) := by
    simp only [List.map_append]
    exact List.rel_append (hrefl front) (List.rel_append hpart (hrefl back))
  exact congrArg Text.mk (lowerFrom_congr .nil hall)

theorem head?_lower {c : Char} (h : c.toNat < 0x80) (s : List Char) :
    (Text.ofChars (c :: s)).lower.points.head? = (ofChar c).lower.head? := by
  have hval : (ofChar c).val < 0x80 := (ofChar_val c).symm ▸ h
  have hsigma : ((ofChar c).val == 0x3A3) = false := beq_false_of_ne (by omega)
  show (lowerFrom [] (ofChar c :: s.map ofChar)).head? = _
  rw [lowerFrom, hsigma, if_neg Bool.false_ne_true, CodePoint.lower, if_pos hval]
  rfl

theorem lower_ne_of_isAlpha {c : Char} (h : c.isAlpha = true) (s t : List Char) :
    (Text.ofChars (c :: s)).lower ≠ (Text.ofChars ('\\' :: t)).lower := by
  have hletters : ∀ n < 0x80, (Char.ofNat n).isAlpha = true →
      (ofChar (Char.ofNat n)).lower.head? ≠ (ofChar '\\').lower.head? := by decide
  have hascii : c.toNat < 0x80 := by
    have hdef : c.isAlphanum = (c.isAlpha || c.isDigit) := rfl
    refine toNat_lt_of_isAlphanum ?_
    rw [hdef, h]
    rfl
  have hne : (ofChar c).lower.head? ≠ (ofChar '\\').lower.head? :=
    of_toNat_lt (p := fun c => c.isAlpha = true →
      (ofChar c).lower.head? ≠ (ofChar '\\').lower.head?) hletters hascii h
  intro he
  have hhead := congrArg (fun u : Text => u.points.head?) he
  rw [head?_lower hascii, head?_lower (by decide)] at hhead
  exact hne hhead

end Text

end EmitBridge
