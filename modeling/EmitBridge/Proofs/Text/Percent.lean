import EmitBridge.Proofs.Text.Hex
import EmitBridge.Proofs.Text.Utf8
import EmitBridge.Text.Percent

/-! Percent-encoding. Escapes are undone to what was escaped; and what has been requoted once is
told by its form, which requoting leaves as it is. -/

namespace EmitBridge

namespace Percent

theorem byte?_escape (b : UInt8) :
    byte? (Hex.upperDigit (b.toNat / 16)) (Hex.upperDigit (b.toNat % 16)) = some b := by
  have hb := b.toNat_lt
  rw [byte?, Hex.value?_digit, Hex.value?_digit]
  refine congrArg some ?_
  rw [show 16 * (b.toNat / 16 % 16) + b.toNat % 16 % 16 = b.toNat by omega, UInt8.ofNat_toNat]

theorem decodeFrom_escapes {c : Char} (pending : Pending) {bs : Bytes} (hne : bs ≠ [])
    (h : Utf8.Sequence c (pending.map Prod.fst ++ bs)) (rest : List Char) :
    decodeFrom pending (bs.flatMap escape ++ rest) = c :: decodeFrom [] rest := by
  induction bs generalizing pending with
  | nil => exact absurd rfl hne
  | cons b bs ih =>
    have hbyte := byte?_escape b
    rw [List.flatMap_cons, escape, List.append_assoc, List.cons_append, List.cons_append,
      List.cons_append, List.nil_append, decodeFrom, hbyte]
    cases bs with
    | nil =>
      simp only [Pending.step, Utf8.decode_sequence h]
      rfl
    | cons b' bs =>
      have hcut : pending.map Prod.fst ++ b :: b' :: bs =
          (pending.map Prod.fst ++ [b]) ++ b' :: bs := by simp
      obtain ⟨e, he, hcause⟩ := Utf8.decode_cut (hcut ▸ h) (by simp) (List.cons_ne_nil _ _)
      simp only [Pending.step, he, hcause, beq_self_eq_true, if_true]
      refine ih _ (List.cons_ne_nil _ _) ?_
      rw [List.map_append]
      exact hcut ▸ h

theorem decodeFrom_cons {c : Char} (h : c ≠ '%') (rest : List Char) :
    decodeFrom [] (c :: rest) = c :: decodeFrom [] rest := by
  rw [decodeFrom]
  · rfl
  · rintro _ _ _ rfl
    exact absurd rfl h

theorem encodePoint_ne_nil (c : Char) : Utf8.encodePoint c.toNat ≠ [] := by
  intro h
  have hs := Utf8.sequence_encodePoint c
  rw [h] at hs
  cases hs

theorem decode_encode_append {plain : Char → Bool} (hp : plain '%' = false) (s rest : List Char) :
    decode (encode plain s ++ rest) = s ++ decode rest := by
  induction s with
  | nil => rfl
  | cons c s ih =>
    rw [encode, List.flatMap_cons, List.append_assoc]
    split
    · next h =>
      have hc : c ≠ '%' := by
        rintro rfl
        rw [hp] at h
        cases h
      exact (decodeFrom_cons hc _).trans (congrArg (c :: ·) ih)
    · exact (decodeFrom_escapes [] (encodePoint_ne_nil c) (Utf8.sequence_encodePoint c) _).trans
        (congrArg (c :: ·) ih)

theorem decode_encode {plain : Char → Bool} (hp : plain '%' = false) (s : List Char) :
    decode (encode plain s) = s := by
  have h := decode_encode_append hp s []
  rwa [List.append_nil, show decode [] = [] from rfl, List.append_nil] at h

theorem encode_ne_nil {plain : Char → Bool} (hp : plain '%' = false) {s : List Char} (h : s ≠ []) :
    encode plain s ≠ [] := by
  intro hnil
  have hs : decode (encode plain s) = s := decode_encode hp s
  rw [hnil] at hs
  exact h hs.symm

theorem encode_of_plain {plain : Char → Bool} {s : List Char} (h : ∀ c ∈ s, plain c = true) :
    encode plain s = s := by
  induction s with
  | nil => rfl
  | cons c s ih =>
    obtain ⟨hc, hs⟩ := List.forall_mem_cons.mp h
    rw [encode, List.flatMap_cons, if_pos hc, ← encode, ih hs]
    rfl

def IsAtMost (t s : List Char) : Prop := t = s ∨ t.length < s.length

namespace IsAtMost

variable {s t : List Char}

theorem length_le (h : IsAtMost t s) : t.length ≤ s.length := by
  rcases h with rfl | h
  · exact Nat.le_refl _
  · exact Nat.le_of_lt h

theorem append_left (front : List Char) (h : IsAtMost t s) :
    IsAtMost (front ++ t) (front ++ s) := by
  refine h.imp (congrArg (front ++ ·)) fun h => ?_
  rw [List.length_append, List.length_append]
  omega

theorem char (c : Char) (front : List Char) (a b : Char) (h : IsAtMost t s) :
    IsAtMost (c :: t) (front ++ '%' :: a :: b :: s) := by
  have hle := h.length_le
  right
  simp only [List.length_append, List.length_cons]
  omega

end IsAtMost

theorem isAtMost_decodeFrom (pending : Pending) (s : List Char) :
    IsAtMost (decodeFrom pending s) (pending.written ++ s) := by
  fun_induction decodeFrom pending s with
  | case1 pending => exact .inl (List.append_nil _).symm
  | case2 pending a b rest hb ih => exact (ih.append_left ['%']).append_left pending.written
  | case3 pending a b rest byte hb c hc ih => exact ih.char c pending.written a b
  | case4 pending a b rest byte hb hmore ih =>
    rw [Pending.written, List.flatMap_append, List.append_assoc] at ih
    exact ih
  | case5 pending a b rest byte hb hmisfit ih ihmore =>
    refine IsAtMost.append_left pending.written ?_
    split
    · next c _ => exact ih.char c [] a b
    · exact ihmore
    · exact ih.append_left ['%', a, b]
  | case6 pending c rest hc ih => exact (ih.append_left [c]).append_left pending.written

theorem isAtMost_decode (s : List Char) : IsAtMost (decode s) s := isAtMost_decodeFrom [] s

namespace Part

inductive Quoted (p : Part) : List Char → Prop
  | nil : Quoted p []
  | plain {c : Char} {s : List Char} : p.plain c → Quoted p s → Quoted p (c :: s)
  | escape {b : UInt8} {s : List Char} : p.escapeOrPlain b = Percent.escape b → Quoted p s →
      Quoted p (Percent.escape b ++ s)

/-- A part that writes no percent sign and no space, but does write the plus that may stand for
one. -/
structure IsProper (p : Part) : Prop where
  percent : p.plain '%' = false
  space : p.plain ' ' = false
  plus : p.plain '+' = true

variable {p : Part}

theorem requote_cons {c : Char} (h : c ≠ '%') (s : List Char) :
    p.requote (c :: s) = p.char c ++ p.requote s := by
  rw [requote]
  rintro _ _ _ rfl
  exact absurd rfl h

theorem requote_escape (b : UInt8) (s : List Char) :
    p.requote (Percent.escape b ++ s) = p.escapeOrPlain b ++ p.requote s := by
  rw [Percent.escape, List.cons_append, List.cons_append, List.cons_append, List.nil_append,
    requote, byte?_escape]

theorem Quoted.append {s t : List Char} (hs : p.Quoted s) (ht : p.Quoted t) :
    p.Quoted (s ++ t) := by
  induction hs with
  | nil => exact ht
  | plain hc _ ih => exact .plain hc ih
  | escape hb _ ih =>
    rw [List.append_assoc]
    exact .escape hb ih

theorem quoted_escapeOrPlain (b : UInt8) : p.Quoted (p.escapeOrPlain b) := by
  by_cases h : p.escapeOrPlain b = Percent.escape b
  · have hq := Quoted.escape h .nil
    rwa [List.append_nil, ← h] at hq
  · rw [escapeOrPlain] at h ⊢
    split
    · next hc =>
      simp only [Bool.and_eq_true] at hc
      exact .plain hc.1.2 .nil
    · next hc => exact absurd (if_neg hc) h

theorem escapeOrPlain_of_high {b : UInt8} (h : ¬b < 0x80) :
    p.escapeOrPlain b = Percent.escape b := by
  rw [escapeOrPlain, if_neg (by simp [h])]

theorem escapeOrPlain_of_not_plain {b : UInt8} (h : p.plain (Char.ofNat b.toNat) = false) :
    p.escapeOrPlain b = Percent.escape b := by
  rw [escapeOrPlain, if_neg (by simp [h])]

theorem quoted_escapes {bs : Bytes} (h : ∀ b ∈ bs, p.escapeOrPlain b = Percent.escape b) :
    p.Quoted (bs.flatMap Percent.escape) := by
  induction bs with
  | nil => exact .nil
  | cons b bs ih =>
    exact .escape (h b List.mem_cons_self) (ih fun b' hb' => h b' (List.mem_cons_of_mem _ hb'))

theorem quoted_escapes_char {c : Char} (h : p.plain c = false) :
    p.Quoted ((Utf8.encodePoint c.toNat).flatMap Percent.escape) := by
  apply quoted_escapes
  intro b hb
  rcases (Utf8.sequence_encodePoint c).low_or_high with ⟨a, _, hbs, hc⟩ | hhigh
  · rw [hbs, List.mem_singleton] at hb
    rw [hb]
    exact escapeOrPlain_of_not_plain (hc ▸ h)
  · exact escapeOrPlain_of_high (hhigh b hb)

theorem quoted_char (hp : p.IsProper) (c : Char) : p.Quoted (p.char c) := by
  rw [char]
  split
  · exact .plain hp.plus .nil
  · split
    · next h => exact .plain h .nil
    · next h => exact quoted_escapes_char (Bool.eq_false_iff.2 h)

theorem quoted_requote (hp : p.IsProper) (s : List Char) : p.Quoted (p.requote s) := by
  fun_induction requote p s with
  | case1 => exact .nil
  | case2 a b rest byte _ ih => exact (quoted_escapeOrPlain byte).append ih
  | case3 a b rest _ ih => exact .escape (escapeOrPlain_of_not_plain hp.percent) ih
  | case4 c rest _ ih => exact (quoted_char hp c).append ih

theorem requote_ne_nil {s : List Char} (h : s ≠ []) : p.requote s ≠ [] := by
  have hescape (b : UInt8) : p.escapeOrPlain b ≠ [] := by
    rw [escapeOrPlain]
    split <;> exact List.cons_ne_nil _ _
  have hchar (c : Char) : p.char c ≠ [] := by
    rw [char]
    split
    · exact List.cons_ne_nil _ _
    · split
      · exact List.cons_ne_nil _ _
      · obtain ⟨b, bs, hb⟩ := List.exists_cons_of_ne_nil (encodePoint_ne_nil c)
        rw [hb]
        exact List.cons_ne_nil _ _
  fun_cases requote p s with
  | case1 => exact absurd rfl h
  | case2 a b rest byte _ => exact List.append_ne_nil_of_left_ne_nil (hescape byte) _
  | case3 a b rest _ => exact List.cons_ne_nil _ _
  | case4 c rest _ => exact List.append_ne_nil_of_left_ne_nil (hchar c) _

theorem requote_of_quoted (hp : p.IsProper) {s : List Char} (h : p.Quoted s) :
    p.requote s = s := by
  induction h with
  | nil => rfl
  | @plain c s hc _ ih =>
    have h1 : c ≠ '%' := by
      rintro rfl
      rw [hp.percent] at hc
      cases hc
    have h2 : c ≠ ' ' := by
      rintro rfl
      rw [hp.space] at hc
      cases hc
    rw [requote_cons h1, ih, char, if_neg (by simp [h2]), if_pos hc]
    rfl
  | escape hb _ ih => rw [requote_escape, hb, ih]

theorem requote_eq_self_iff (hp : p.IsProper) (s : List Char) : p.requote s = s ↔ p.Quoted s :=
  ⟨fun h => h ▸ quoted_requote hp s, requote_of_quoted hp⟩

theorem escape_append_inj {b b' : UInt8} {s s' : List Char}
    (h : Percent.escape b ++ s = Percent.escape b' ++ s') : b = b' ∧ s = s' := by
  simp only [Percent.escape, List.cons_append, List.nil_append, List.cons.injEq, true_and] at h
  obtain ⟨h1, h2, hs⟩ := h
  have hb := byte?_escape b
  rw [h1, h2, byte?_escape] at hb
  exact ⟨(Option.some.inj hb).symm, hs⟩

theorem quoted_plain_iff (hp : p.IsProper) {c : Char} (h : p.plain c) (s : List Char) :
    p.Quoted (c :: s) ↔ p.Quoted s := by
  refine ⟨fun hq => ?_, .plain h⟩
  generalize hl : c :: s = l at hq
  cases hq with
  | nil => cases hl
  | plain _ hs =>
    cases hl
    exact hs
  | escape =>
    cases hl
    rw [hp.percent] at h
    cases h

theorem quoted_escape_iff (hp : p.IsProper) (b : UInt8) (s : List Char) :
    p.Quoted (Percent.escape b ++ s) ↔ p.escapeOrPlain b = Percent.escape b ∧ p.Quoted s := by
  refine ⟨fun hq => ?_, fun h => .escape h.1 h.2⟩
  generalize hl : Percent.escape b ++ s = l at hq
  cases hq with
  | nil => cases hl
  | plain hc =>
    cases hl
    rw [hp.percent] at hc
    cases hc
  | escape hb hs =>
    obtain ⟨rfl, rfl⟩ := escape_append_inj hl
    exact ⟨hb, hs⟩

theorem quoted_escapes_iff (hp : p.IsProper) (bs : Bytes) (s : List Char) :
    p.Quoted (bs.flatMap Percent.escape ++ s) ↔
      (∀ b ∈ bs, p.escapeOrPlain b = Percent.escape b) ∧ p.Quoted s := by
  induction bs with
  | nil => simp
  | cons b bs ih =>
    rw [List.flatMap_cons, List.append_assoc, quoted_escape_iff hp, ih, List.forall_mem_cons,
      and_assoc]

theorem escapes_stay_iff (c : Char) :
    (∀ b ∈ Utf8.encodePoint c.toNat, p.escapeOrPlain b = Percent.escape b) ↔
      ¬(c.toNat < 0x80 ∧ p.plain c ∧ p.kept c = false) := by
  rcases (Utf8.sequence_encodePoint c).low_or_high with ⟨a, ha, hbs, hc⟩ | hhigh
  · have hlow : c.toNat < 0x80 := by
      by_contra hn
      rw [Utf8.encodePoint, if_neg hn] at hbs
      split at hbs
      · cases hbs
      · split at hbs <;> cases hbs
    rw [hbs]
    simp only [List.mem_singleton, forall_eq, hlow, true_and]
    rw [escapeOrPlain, ← hc]
    cases h1 : p.plain c <;> cases h2 : p.kept c <;> simp [ha, Percent.escape]
  · have hlow : ¬c.toNat < 0x80 := by
      intro h
      rw [Utf8.encodePoint, if_pos h] at hhigh
      refine hhigh _ List.mem_cons_self ?_
      rw [UInt8.lt_iff_toNat_lt, Utf8.toNat_ofNat (by omega)]
      exact h
    simp only [hlow, false_and, not_false_iff, iff_true]
    exact fun b hb => escapeOrPlain_of_high (hhigh b hb)

theorem quoted_encode_iff (hp : p.IsProper) {plain : Char → Bool} (h : ∀ c, plain c → p.plain c)
    (s : List Char) :
    p.Quoted (encode plain s) ↔
      ∀ c ∈ s, plain c ∨ ¬(c.toNat < 0x80 ∧ p.plain c ∧ p.kept c = false) := by
  induction s with
  | nil => simp [encode, Quoted.nil]
  | cons c s ih =>
    rw [List.forall_mem_cons, ← ih, encode, List.flatMap_cons]
    cases hc : plain c with
    | true =>
      rw [if_pos rfl, List.singleton_append, quoted_plain_iff hp (h c hc)]
      simp [encode]
    | false =>
      rw [if_neg Bool.false_ne_true, quoted_escapes_iff hp, escapes_stay_iff]
      simp [encode]

theorem mem_escape {b : UInt8} {c : Char} (h : c ∈ Percent.escape b) :
    c = '%' ∨ c.isAlphanum := by
  simp only [Percent.escape, List.mem_cons, List.not_mem_nil, or_false] at h
  rcases h with rfl | rfl | rfl
  · exact .inl rfl
  · exact .inr (Hex.isAlphanum_upperDigit _)
  · exact .inr (Hex.isAlphanum_upperDigit _)

theorem mem_quoted {s : List Char} (h : p.Quoted s) {c : Char} (hc : c ∈ s) :
    p.plain c ∨ c = '%' ∨ c.isAlphanum := by
  induction h with
  | nil => exact absurd hc List.not_mem_nil
  | plain hd _ ih =>
    rcases List.mem_cons.1 hc with rfl | hc
    · exact .inl hd
    · exact ih hc
  | @escape b _ _ _ ih =>
    rcases List.mem_append.1 hc with hc | hc
    · exact .inr (mem_escape hc)
    · exact ih hc

theorem quoted_divide {d : Char} (hne : d ≠ '%') (hd : d.isAlphanum = false) {s t : List Char}
    (h : p.Quoted (s ++ d :: t)) : p.Quoted s ∧ p.Quoted t := by
  generalize hl : s ++ d :: t = l at h
  induction h generalizing s with
  | nil => exact absurd hl (by simp)
  | plain hc hs ih =>
    cases s with
    | nil =>
      cases hl
      exact ⟨.nil, hs⟩
    | cons c' s =>
      cases hl
      exact ⟨.plain hc (ih rfl).1, (ih rfl).2⟩
  | @escape b l hb hs ih =>
    have hdigit (n : Nat) : d ≠ Hex.upperDigit n := by
      rintro rfl
      rw [Hex.isAlphanum_upperDigit] at hd
      cases hd
    rw [Percent.escape, List.cons_append, List.cons_append, List.cons_append,
      List.nil_append] at hl
    rcases s with _ | ⟨x, _ | ⟨y, _ | ⟨z, s⟩⟩⟩
    · exact absurd (List.cons.inj hl).1 hne
    · exact absurd (List.cons.inj (List.cons.inj hl).2).1 (hdigit _)
    · exact absurd (List.cons.inj (List.cons.inj (List.cons.inj hl).2).2).1 (hdigit _)
    · cases hl
      exact ⟨.escape hb (ih rfl).1, (ih rfl).2⟩

end Part

end Percent

end EmitBridge
