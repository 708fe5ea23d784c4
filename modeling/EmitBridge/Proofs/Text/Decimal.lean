import EmitBridge.Proofs.Text.CodePoint
import EmitBridge.Proofs.Text.Hex
import EmitBridge.Text.Decimal

/-! Decimal numbers: the digits of a number are read as that number. -/

namespace EmitBridge

theorem mem_digits_of_isDigit {c : Char} (h : c.isDigit) : c ∈ "0123456789".toList := by
  have hrange : 0x30 ≤ c.toNat ∧ c.toNat ≤ 0x39 := by
    rw [Char.isDigit, Bool.and_eq_true, decide_eq_true_eq, decide_eq_true_eq] at h
    exact ⟨UInt32.le_iff_toNat_le.1 h.1, UInt32.le_iff_toNat_le.1 h.2⟩
  have hten : ∀ k < 10, Char.ofNat (0x30 + k) ∈ "0123456789".toList := by decide
  exact of_toNat_range hten hrange.1 (by omega)

theorem of_isDigit {p : Char → Prop} [DecidablePred p]
    (h : "0123456789".toList.all (fun c => decide (p c)) = true) {c : Char} (hc : c.isDigit) :
    p c := forall_mem_of_all h c (mem_digits_of_isDigit hc)

namespace WholeNumber

open CodePoint

theorem decimalValue?_digit {c : Char} (h : c.isDigit) :
    (ofChar c).decimalValue? = some (c.toNat - 0x30) :=
  of_isDigit (p := fun c => (ofChar c).decimalValue? = some (c.toNat - 0x30))
    (by decide +kernel) h

theorem isMargin_digit {c : Char} (h : c.isDigit) : isMargin (ofChar c) = false :=
  of_isDigit (p := fun c => isMargin (ofChar c) = false) (by decide +kernel) h

theorem ofChar_digit_ne {c : Char} (h : c.isDigit) :
    ((ofChar c).val == 0x2B) = false ∧ ((ofChar c).val == 0x2D) = false ∧
      ((ofChar c).val == 0x5F) = false :=
  of_isDigit (p := fun c => ((ofChar c).val == 0x2B) = false ∧
    ((ofChar c).val == 0x2D) = false ∧ ((ofChar c).val == 0x5F) = false) (by decide +kernel) h

theorem digits?_of_isDigit {s : List Char} (hne : s ≠ []) (h : ∀ c ∈ s, c.isDigit) :
    digits? (s.map ofChar) = some (s.map fun c => c.toNat - 0x30) := by
  induction s with
  | nil => exact absurd rfl hne
  | cons c s ih =>
    obtain ⟨hc, hs⟩ := List.forall_mem_cons.1 h
    cases s with
    | nil =>
      rw [List.map_singleton, digits?, decimalValue?_digit hc]
      rfl
    | cons d s =>
      have hd := ofChar_digit_ne (hs d List.mem_cons_self)
      have hrest := ih (List.cons_ne_nil _ _) hs
      rw [List.map_cons] at hrest
      rw [List.map_cons, List.map_cons, digits?, decimalValue?_digit hc, hd.2.2, hrest]
      rfl

theorem dropWhile_isMargin {ps : List CodePoint} (h : ∀ p ∈ ps, isMargin p = false) :
    ps.dropWhile isMargin = ps := by
  cases ps with
  | nil => rfl
  | cons p ps =>
    rw [List.dropWhile_cons, if_neg (by simp [h p List.mem_cons_self])]

theorem trim_of_notMargin {ps : List CodePoint} (h : ∀ p ∈ ps, isMargin p = false) :
    trim ps = ps := by
  have hreverse : ∀ p ∈ ps.reverse, isMargin p = false := fun p hp => h p (List.mem_reverse.1 hp)
  rw [trim, dropWhile_isMargin h, dropWhile_isMargin hreverse, List.reverse_reverse]

theorem trim_of_isDigit {s : List Char} (h : ∀ c ∈ s, c.isDigit) :
    trim (s.map ofChar) = s.map ofChar := by
  refine trim_of_notMargin fun p hp => ?_
  obtain ⟨c, hc, rfl⟩ := List.mem_map.1 hp
  exact isMargin_digit (h c hc)

theorem ofDigits_map (s : List Char) :
    ofDigits (s.map fun c => c.toNat - 0x30) = Nat.ofDigitChars 10 s 0 := by
  rw [ofDigits, List.foldl_map, Nat.ofDigitChars_eq_foldl]
  rfl

theorem read?_of_isDigit {s : List Char} (hne : s ≠ []) (h : ∀ c ∈ s, c.isDigit)
    (hlen : s.length ≤ digitLimit) :
    read? (s.map ofChar) = some (Int.ofNat (Nat.ofDigitChars 10 s 0)) := by
  have hmagnitude : magnitude? (s.map ofChar) = some (Nat.ofDigitChars 10 s 0) := by
    rw [magnitude?, digits?_of_isDigit hne h]
    simp only [Option.bind_eq_bind, Option.bind_some, List.length_map, if_pos hlen, ofDigits_map]
  obtain ⟨c, s, rfl⟩ := List.exists_cons_of_ne_nil hne
  obtain ⟨hplus, hminus, _⟩ := ofChar_digit_ne (h c List.mem_cons_self)
  rw [List.map_cons] at hmagnitude
  rw [read?, trim_of_isDigit h, List.map_cons]
  simp only [hplus, hminus, Bool.false_eq_true, if_false, hmagnitude, Option.map_some]

theorem read?_toDigits {n : Nat} (h : n < 10 ^ digitLimit) :
    read? ((Nat.toDigits 10 n).map ofChar) = some (Int.ofNat n) := by
  have hlen : (Nat.toDigits 10 n).length ≤ digitLimit :=
    (Nat.length_toDigits_le_iff (by decide) (by decide)).2 h
  have hdigits : ∀ c ∈ Nat.toDigits 10 n, c.isDigit := fun c hc =>
    Nat.isDigit_of_mem_toDigits (by decide) (by decide) hc
  rw [read?_of_isDigit Nat.toDigits_ne_nil hdigits hlen, Nat.ofDigitChars_ten_toDigits]

theorem isDigit_toDigits {n : Nat} {c : Char} (h : c ∈ Nat.toDigits 10 n) : c.isDigit :=
  Nat.isDigit_of_mem_toDigits (by decide) (by decide) h

theorem toList_toString_ofNat (n : Nat) : (toString (Int.ofNat n)).toList = Nat.toDigits 10 n :=
  Nat.toList_repr

theorem toList_toString_negSucc (n : Nat) :
    (toString (Int.negSucc n)).toList = '-' :: Nat.toDigits 10 (n + 1) := by
  show ("-" ++ Nat.repr (n + 1)).toList = _
  rw [String.toList_append, Nat.toList_repr]
  rfl

theorem mem_toString {n : Int} {c : Char} (h : c ∈ (toString n).toList) : c = '-' ∨ c.isDigit := by
  cases n with
  | ofNat n =>
    rw [toList_toString_ofNat] at h
    exact .inr (isDigit_toDigits h)
  | negSucc n =>
    rw [toList_toString_negSucc, List.mem_cons] at h
    exact h.imp_right isDigit_toDigits

theorem toString_ne_nil (n : Int) : (toString n).toList ≠ [] := by
  cases n with
  | ofNat n =>
    rw [toList_toString_ofNat]
    exact Nat.toDigits_ne_nil
  | negSucc n =>
    rw [toList_toString_negSucc]
    exact List.cons_ne_nil _ _

theorem magnitude?_toDigits {n m : Nat}
    (h : magnitude? ((Nat.toDigits 10 n).map ofChar) = some m) : m = n := by
  rw [magnitude?, digits?_of_isDigit Nat.toDigits_ne_nil fun _ => isDigit_toDigits] at h
  simp only [Option.bind_eq_bind, Option.bind_some] at h
  split at h
  · rw [← Option.some.inj h, ofDigits_map, Nat.ofDigitChars_ten_toDigits]
  · cases h

theorem read?_toString {n m : Int} (h : read? ((toString n).toList.map ofChar) = some m) :
    m = n := by
  have hmargin : ∀ p ∈ (toString n).toList.map ofChar, isMargin p = false := by
    intro p hp
    obtain ⟨c, hc, rfl⟩ := List.mem_map.mp hp
    rcases mem_toString hc with rfl | hdigit
    · decide +kernel
    · exact isMargin_digit hdigit
  rw [read?, trim_of_notMargin hmargin] at h
  cases n with
  | ofNat n =>
    rw [toList_toString_ofNat] at h
    obtain ⟨c, s, hcs⟩ := List.exists_cons_of_ne_nil (Nat.toDigits_ne_nil (n := n) (b := 10))
    obtain ⟨hplus, hminus, -⟩ := ofChar_digit_ne (isDigit_toDigits (hcs ▸ List.mem_cons_self))
    rw [hcs, List.map_cons] at h
    simp only [hplus, hminus, Bool.false_eq_true, if_false] at h
    rw [← List.map_cons, ← hcs] at h
    obtain ⟨k, hk, rfl⟩ := Option.map_eq_some_iff.mp h
    rw [magnitude?_toDigits hk]
  | negSucc n =>
    rw [toList_toString_negSucc, List.map_cons] at h
    obtain ⟨k, hk, rfl⟩ := Option.map_eq_some_iff.mp (h : (magnitude? _).map _ = some m)
    rw [magnitude?_toDigits hk]
    rfl

end WholeNumber

end EmitBridge
