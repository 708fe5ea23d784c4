import EmitBridge.Json.Parser
import EmitBridge.Json.Printer
import EmitBridge.Proofs.Text.CodePoint
import EmitBridge.Proofs.Text.Hex
import Mathlib.Data.List.Chain

/-! JSON strings: the code units that texts are made of, and how they are joined again. -/

namespace EmitBridge

namespace Json

open CodePoint EmitBridge.Json.Parser

def units (p : CodePoint) : List CodePoint :=
  if p.val < 0x10000 then [p]
  else [ofNat (0xD800 + (p.val - 0x10000) / 0x400), ofNat (0xDC00 + (p.val - 0x10000) % 0x400)]

/-- No two surrogates stand next to each other that would be taken for one code point. -/
def IsJoined (ps : List CodePoint) : Prop :=
  ps.IsChain fun p q => ¬(p.isHighSurrogate && q.isLowSurrogate)

instance (ps : List CodePoint) : Decidable (IsJoined ps) :=
  inferInstanceAs (Decidable (List.IsChain _ ps))

theorem hex4?_lowerDigits {n : Nat} (h : n < 0x10000) :
    ∃ a b c d, Hex.lowerDigits 4 n = [a, b, c, d] ∧ hex4? a b c d = some (ofNat n) := by
  refine ⟨_, _, _, _, rfl, ?_⟩
  simp only [hex4?, Hex.value?_digit]
  refine congrArg (fun k => some (ofNat k)) ?_
  omega

variable (opening : List Char)

theorem stringBody_shortEscape {c x : Char} (hc : shortEscape? c = some x) (hu : c ≠ 'u')
    (rest : List Char) :
    stringBody opening ('\\' :: c :: rest) =
      (stringBody opening rest).map fun r => (ofChar x :: r.1, r.2) := by
  rw [stringBody, hc]
  · rintro a b d e f _ rfl
    exact absurd rfl hu
  · exact hu

theorem stringBody_plain {c : Char} (hq : c ≠ '"') (hb : c ≠ '\\') (hc : 0x20 ≤ c.toNat)
    (rest : List Char) :
    stringBody opening (c :: rest) =
      (stringBody opening rest).map fun r => (ofChar c :: r.1, r.2) := by
  rw [stringBody.eq_def]
  split
  · next h => cases h
  · next h => exact absurd (List.cons.inj h).1 hq
  · next h => exact absurd (List.cons.inj h).1 hb
  · next h => exact absurd (List.cons.inj h).1 hb
  · next h => exact absurd (List.cons.inj h).1 hb
  · next h => exact absurd (List.cons.inj h).1 hb
  · next h =>
    cases h
    rw [if_neg (by omega)]

theorem ofNat_eq {p : CodePoint} {n : Nat} (h : p.val = n) : ofNat n = p := by
  rw [← h, ofNat_val_self]

theorem units_of_small {p : CodePoint} (h : p.val < 0x10000) : units p = [p] := if_pos h

theorem isHighSurrogate_units {p : CodePoint} (h : ¬p.val < 0x10000) :
    (ofNat (0xD800 + (p.val - 0x10000) / 0x400)).isHighSurrogate ∧
      (ofNat (0xDC00 + (p.val - 0x10000) % 0x400)).isLowSurrogate := by
  have hp := p.isLt
  simp only [isHighSurrogate, isLowSurrogate, Bool.and_eq_true, decide_eq_true_eq]
  rw [ofNat_val (by omega), ofNat_val (by omega)]
  omega

theorem join_units {p : CodePoint} (h : ¬p.val < 0x10000) :
    ofNat (0x10000 + ((ofNat (0xD800 + (p.val - 0x10000) / 0x400)).val - 0xD800) * 0x400
      + ((ofNat (0xDC00 + (p.val - 0x10000) % 0x400)).val - 0xDC00)) = p := by
  have hp := p.isLt
  apply ofNat_eq
  rw [ofNat_val (by omega), ofNat_val (by omega)]
  omega

theorem joinSurrogates_units {ps : List CodePoint} (h : IsJoined ps) :
    joinSurrogates (ps.flatMap units) = ps := by
  induction ps with
  | nil => rfl
  | cons p ps ih =>
    have hrest : joinSurrogates (ps.flatMap units) = ps := ih h.tail
    by_cases hp : p.val < 0x10000
    · rw [List.flatMap_cons, units_of_small hp, List.singleton_append]
      cases ps with
      | nil => rfl
      | cons q qs =>
        have hpair : (p.isHighSurrogate && q.isLowSurrogate) = false :=
          Bool.eq_false_iff.2 (List.isChain_cons_cons.1 h).1
        by_cases hq : q.val < 0x10000
        · rw [List.flatMap_cons, units_of_small hq, List.singleton_append] at hrest ⊢
          rw [joinSurrogates, hpair, if_neg Bool.false_ne_true, hrest]
        · have hnot : (ofNat (0xD800 + (q.val - 0x10000) / 0x400)).isLowSurrogate = false := by
            have hlt := q.isLt
            simp only [isLowSurrogate, Bool.and_eq_false_iff, decide_eq_false_iff_not]
            rw [ofNat_val (by omega)]
            omega
          rw [List.flatMap_cons, units, if_neg hq] at hrest ⊢
          rw [List.cons_append] at hrest ⊢
          rw [joinSurrogates, hnot, Bool.and_false, if_neg Bool.false_ne_true, hrest]
    · obtain ⟨hhigh, hlow⟩ := isHighSurrogate_units hp
      rw [List.flatMap_cons, units, if_neg hp, List.cons_append, List.singleton_append,
        joinSurrogates, hhigh, hlow, Bool.and_self, if_pos rfl, join_units hp, hrest]

theorem isJoined_of_noSurrogates {ps : List CodePoint}
    (h : ∀ p ∈ ps, p.isSurrogate = false) : IsJoined ps := by
  induction ps with
  | nil => exact List.isChain_nil
  | cons p ps ih =>
    refine List.isChain_cons.2 ⟨fun q _ hpair => ?_, ih fun q hq => h q (List.mem_cons_of_mem _ hq)⟩
    have hp := h p List.mem_cons_self
    simp only [isSurrogate, isHighSurrogate, Bool.and_eq_true, Bool.and_eq_false_iff,
      decide_eq_true_eq, decide_eq_false_iff_not] at hp hpair
    omega

end Json

end EmitBridge
