import EmitBridge.Text.Hex
import Mathlib.Algebra.Group.Nat.Defs
import Mathlib.Data.List.Basic

/-! Hexadecimal digits: each is read as what it was written for, and all are letters or digits. A
number is read from its digits. -/

namespace EmitBridge

theorem forall_mem_of_all {p : Char → Prop} [DecidablePred p] {s : List Char}
    (h : s.all (fun c => decide (p c)) = true) : ∀ c ∈ s, p c :=
  fun c hc => of_decide_eq_true (List.all_eq_true.1 h c hc)

section Numbers

variable {p : Char → Prop} {low count : Nat} {c : Char}

theorem of_toNat_lt (h : ∀ n < count, p (Char.ofNat n)) (hc : c.toNat < count) : p c :=
  Char.ofNat_toNat c ▸ h c.toNat hc

theorem of_toNat_range (h : ∀ n < count, p (Char.ofNat (low + n))) (hlow : low ≤ c.toNat)
    (hhigh : c.toNat < low + count) : p c := by
  have hc := h (c.toNat - low) (by omega)
  rwa [Nat.add_sub_cancel' hlow, Char.ofNat_toNat] at hc

end Numbers

theorem isAlphanum_iff (c : Char) :
    c.isAlphanum ↔ ((0x41 ≤ c.toNat ∧ c.toNat ≤ 0x5A) ∨ (0x61 ≤ c.toNat ∧ c.toNat ≤ 0x7A)) ∨
      (0x30 ≤ c.toNat ∧ c.toNat ≤ 0x39) := by
  have hdef : c.isAlphanum = (decide (c.val ≥ 'A'.val ∧ c.val ≤ 'Z'.val) ||
      (decide (c.val ≥ 'a'.val) && decide (c.val ≤ 'z'.val)) ||
        (decide (c.val ≥ '0'.val) && decide (c.val ≤ '9'.val))) := rfl
  rw [hdef]
  simp only [Bool.or_eq_true, Bool.and_eq_true, decide_eq_true_eq, ge_iff_le,
    UInt32.le_iff_toNat_le]
  exact Iff.rfl

theorem toNat_lt_of_isAlphanum {c : Char} (h : c.isAlphanum) : c.toNat < 0x80 := by
  have hrange := (isAlphanum_iff c).mp h
  omega

namespace Hex

theorem digit_mod (isUpper : Bool) (n : Nat) : digit isUpper (n % 16) = digit isUpper n := by
  simp only [digit, Nat.mod_mod]

theorem value?_digit (isUpper : Bool) (n : Nat) : value? (digit isUpper n) = some (n % 16) := by
  have h : ∀ b : Bool, ∀ k < 16, value? (digit b k) = some k := by decide
  rw [← digit_mod]
  exact h _ _ (Nat.mod_lt _ (by decide))

theorem isAlphanum_upperDigit (n : Nat) : (upperDigit n).isAlphanum := by
  have h : ∀ k < 16, (upperDigit k).isAlphanum := by decide
  rw [upperDigit, ← digit_mod]
  exact h _ (Nat.mod_lt _ (by decide))

theorem isSome_value?_lowerDigits {width n : Nat} {c : Char} (h : c ∈ lowerDigits width n) :
    (value? c).isSome := by
  induction width generalizing n with
  | zero => exact absurd h List.not_mem_nil
  | succ width ih =>
    rw [lowerDigits, List.mem_append, List.mem_singleton] at h
    rcases h with h | rfl
    · exact ih h
    · rw [value?_digit]
      rfl

theorem of_value? {c : Char} {d : Nat} (h : value? c = some d) : c.isAlphanum ∧ d < 16 := by
  have hle (c d : Char) : c ≤ d ↔ c.toNat ≤ d.toNat := UInt32.le_iff_toNat_le
  unfold value? at h
  simp only [Bool.and_eq_true, decide_eq_true_eq, hle] at h
  rw [isAlphanum_iff]
  split at h
  · next hc =>
    have hdigit : 0x30 ≤ c.toNat ∧ c.toNat ≤ 0x39 := hc
    have hd := Option.some.inj h
    omega
  · split at h
    · next hc =>
      have hlower : 0x61 ≤ c.toNat ∧ c.toNat ≤ 0x66 := hc
      have hd := Option.some.inj h
      omega
    · split at h
      · next hc =>
        have hupper : 0x41 ≤ c.toNat ∧ c.toNat ≤ 0x46 := hc
        have hd := Option.some.inj h
        omega
      · cases h

theorem isAlphanum_lowerDigits {width n : Nat} {c : Char} (h : c ∈ lowerDigits width n) :
    c.isAlphanum := by
  obtain ⟨d, hd⟩ := Option.isSome_iff_exists.1 (isSome_value?_lowerDigits h)
  exact (of_value? hd).1

def ofValues (ds : List Nat) : Nat := ds.foldl (fun n d => 16 * n + d) 0

theorem ofValues_lt {ds : List Nat} (h : ∀ d ∈ ds, d < 16) : ofValues ds < 16 ^ ds.length := by
  have hfold (n : Nat) : ds.foldl (fun n d => 16 * n + d) n < 16 ^ ds.length * (n + 1) := by
    induction ds generalizing n with
    | nil => simp
    | cons d ds ih =>
      obtain ⟨hd, hds⟩ := List.forall_mem_cons.1 h
      have hrest := ih hds (16 * n + d)
      have hstep : 16 ^ ds.length * (16 * n + d + 1) ≤ 16 ^ ds.length * (16 * (n + 1)) :=
        Nat.mul_le_mul_left _ (by omega)
      rw [List.foldl_cons, List.length_cons, Nat.pow_succ, Nat.mul_assoc]
      exact Nat.lt_of_lt_of_le hrest hstep
  simpa [ofValues] using hfold 0

theorem mapM_value?_lowerDigits (width n : Nat) :
    ∃ ds, (lowerDigits width n).mapM value? = some ds ∧ ofValues ds = n % 16 ^ width := by
  induction width generalizing n with
  | zero => exact ⟨[], rfl, by simp [ofValues, Nat.mod_one]⟩
  | succ width ih =>
    obtain ⟨ds, hds, hn⟩ := ih (n / 16)
    refine ⟨ds ++ [n % 16], ?_, ?_⟩
    · rw [lowerDigits, List.mapM_append, hds]
      simp [value?_digit]
    · rw [ofValues, List.foldl_append, ← ofValues, hn, Nat.pow_succ', Nat.mod_mul]
      simp only [List.foldl_cons, List.foldl_nil]
      omega

theorem mapM_value?_dropWhile {s : List Char} {ds : List Nat} (h : s.mapM value? = some ds) :
    ∃ ds', (s.dropWhile (· == '0')).mapM value? = some ds' ∧ ofValues ds' = ofValues ds := by
  induction s generalizing ds with
  | nil => exact ⟨ds, h, rfl⟩
  | cons c s ih =>
    rw [List.dropWhile_cons]
    split
    · next hc =>
      rw [List.mapM_cons, beq_iff_eq.1 hc] at h
      obtain ⟨d, hd, h⟩ := Option.bind_eq_some_iff.1 h
      obtain ⟨ds', hs, h⟩ := Option.bind_eq_some_iff.1 h
      have hzero : 0 = d := Option.some.inj hd
      obtain ⟨ds'', hs', he⟩ := ih hs
      refine ⟨ds'', hs', he.trans ?_⟩
      rw [← Option.some.inj h, ← hzero]
      rfl
    · exact ⟨ds, h, rfl⟩

theorem lowerDigits_two (n : Nat) : lowerDigits 2 n = [lowerDigit (n / 16), lowerDigit n] := rfl

theorem bytes?_ofBytes (bs : List UInt8) : bytes? (ofBytes bs) = some bs := by
  induction bs with
  | nil => rfl
  | cons b bs ih =>
    have hb : b.toNat < 256 := b.toNat_lt
    have hvalue : 16 * (b.toNat / 16 % 16) + b.toNat % 16 = b.toNat := by omega
    have hcons : ofBytes (b :: bs) =
        lowerDigit (b.toNat / 16) :: lowerDigit b.toNat :: ofBytes bs := by
      rw [ofBytes, List.flatMap_cons, lowerDigits_two]
      rfl
    rw [hcons, bytes?, value?_digit, value?_digit, ih]
    simp only [bind, Option.bind_some, hvalue, UInt8.ofNat_toNat]

theorem ofBytes_injective : Function.Injective ofBytes := by
  intro as bs h
  have hread : bytes? (ofBytes as) = bytes? (ofBytes bs) := congrArg bytes? h
  rwa [bytes?_ofBytes, bytes?_ofBytes, Option.some.injEq] at hread

theorem length_ofBytes (bs : List UInt8) : (ofBytes bs).length = 2 * bs.length := by
  induction bs with
  | nil => rfl
  | cons b bs ih =>
    have hcons : ofBytes (b :: bs) = lowerDigits 2 b.toNat ++ ofBytes bs := List.flatMap_cons ..
    rw [hcons, lowerDigits_two, List.length_append, ih, List.length_cons, List.length_cons]
    simp only [List.length_cons, List.length_nil]
    omega

theorem mem_ofBytes {bs : List UInt8} {c : Char} (h : c ∈ ofBytes bs) :
    c ∈ "0123456789abcdef".toList := by
  have hdigit : ∀ k < 16, lowerDigit k ∈ "0123456789abcdef".toList := by decide
  obtain ⟨b, -, hc⟩ := List.mem_flatMap.mp h
  rw [lowerDigits_two, List.mem_pair] at hc
  rcases hc with rfl | rfl <;> rw [lowerDigit, ← digit_mod] <;>
    exact hdigit _ (Nat.mod_lt _ (by decide))

end Hex

end EmitBridge
