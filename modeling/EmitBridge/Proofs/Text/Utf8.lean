import EmitBridge.Proofs.Text.CodePoint
import EmitBridge.Text.Utf8

/-! Reading UTF-8 gives back what was written, and a character that is cut off is told from bytes
that fit nothing. -/

namespace EmitBridge.Utf8

inductive Sequence : Char → Bytes → Prop
  | one {a : UInt8} : a < 0x80 → Sequence (Char.ofNat a.toNat) [a]
  | two {a b : UInt8} : 0xC2 ≤ a → a < 0xE0 → isTail b →
      Sequence (joined (a.toNat - 0xC0) [b]) [a, b]
  | three {a b c : UInt8} : 0xE0 ≤ a → a < 0xF0 → isSecond a b → isTail c →
      Sequence (joined (a.toNat - 0xE0) [b, c]) [a, b, c]
  | four {a b c d : UInt8} : 0xF0 ≤ a → a ≤ 0xF4 → isSecond a b → isTail c → isTail d →
      Sequence (joined (a.toNat - 0xF0) [b, c, d]) [a, b, c, d]

theorem toNat_ofNat {n : Nat} (h : n < 0x100) : (UInt8.ofNat n).toNat = n :=
  UInt8.toNat_ofNat_of_lt' h

theorem isTail_iff (b : UInt8) : isTail b = true ↔ 0x80 ≤ b.toNat ∧ b.toNat ≤ 0xBF := by
  simp only [isTail, Bool.and_eq_true, decide_eq_true_eq, UInt8.le_iff_toNat_le]
  rfl

theorem isSecond_iff (a b : UInt8) :
    isSecond a b = true ↔ isTail b = true ∧ (a.toNat = 0xE0 → 0xA0 ≤ b.toNat) ∧
      (a.toNat = 0xED → b.toNat ≤ 0x9F) ∧ (a.toNat = 0xF0 → 0x90 ≤ b.toNat) ∧
      (a.toNat = 0xF4 → b.toNat ≤ 0x8F) := by
  have hne {k : UInt8} (h : a = k → False) : a.toNat ≠ k.toNat := fun hn => h (UInt8.toNat_inj.1 hn)
  unfold isSecond
  rw [Bool.and_eq_true]
  refine and_congr_right fun _ => ?_
  split
  · rw [decide_eq_true_iff, UInt8.le_iff_toNat_le]; simp
  · rw [decide_eq_true_iff, UInt8.le_iff_toNat_le]; simp
  · rw [decide_eq_true_iff, UInt8.le_iff_toNat_le]; simp
  · rw [decide_eq_true_iff, UInt8.le_iff_toNat_le]; simp
  · next h1 h2 h3 h4 =>
    have h1 := hne h1
    have h2 := hne h2
    have h3 := hne h3
    have h4 := hne h4
    simp_all

section Written

variable {n : Nat}

theorem toNat_tail (n : Nat) : (UInt8.ofNat (0x80 + n % 0x40)).toNat = 0x80 + n % 0x40 :=
  toNat_ofNat (by omega)

theorem isTail_tail (n : Nat) : isTail (UInt8.ofNat (0x80 + n % 0x40)) := by
  rw [isTail_iff, toNat_tail]
  omega

theorem sequence_one (h : n < 0x80) : Sequence (Char.ofNat n) [UInt8.ofNat n] := by
  have ha : (UInt8.ofNat n).toNat = n := toNat_ofNat (by omega)
  have hone : Sequence (Char.ofNat (UInt8.ofNat n).toNat) [UInt8.ofNat n] :=
    .one (UInt8.lt_iff_toNat_lt.2 (by rw [ha]; exact h))
  rwa [ha] at hone

theorem sequence_two (hlow : 0x80 ≤ n) (hhigh : n < 0x800) :
    Sequence (Char.ofNat n) [.ofNat (0xC0 + n / 0x40), .ofNat (0x80 + n % 0x40)] := by
  have ha : (UInt8.ofNat (0xC0 + n / 0x40)).toNat = 0xC0 + n / 0x40 := toNat_ofNat (by omega)
  have hj : joined ((UInt8.ofNat (0xC0 + n / 0x40)).toNat - 0xC0)
      [UInt8.ofNat (0x80 + n % 0x40)] = Char.ofNat n := by
    rw [joined, List.foldl_cons, List.foldl_nil, ha, toNat_tail]
    exact congrArg Char.ofNat (by omega)
  rw [← hj]
  refine .two ?_ ?_ (isTail_tail n)
  · rw [UInt8.le_iff_toNat_le, ha]; exact (by omega : 0xC2 ≤ 0xC0 + n / 0x40)
  · rw [UInt8.lt_iff_toNat_lt, ha]; exact (by omega : 0xC0 + n / 0x40 < 0xE0)

theorem sequence_three (hlow : 0x800 ≤ n) (hhigh : n < 0x10000)
    (hscalar : n < 0xD800 ∨ 0xDFFF < n) :
    Sequence (Char.ofNat n) [.ofNat (0xE0 + n / 0x1000), .ofNat (0x80 + n / 0x40 % 0x40),
      .ofNat (0x80 + n % 0x40)] := by
  have ha : (UInt8.ofNat (0xE0 + n / 0x1000)).toNat = 0xE0 + n / 0x1000 := toNat_ofNat (by omega)
  have hj : joined ((UInt8.ofNat (0xE0 + n / 0x1000)).toNat - 0xE0)
      [UInt8.ofNat (0x80 + n / 0x40 % 0x40), UInt8.ofNat (0x80 + n % 0x40)] = Char.ofNat n := by
    rw [joined, List.foldl_cons, List.foldl_cons, List.foldl_nil, ha, toNat_tail, toNat_tail]
    exact congrArg Char.ofNat (by omega)
  rw [← hj]
  refine .three ?_ ?_ ?_ (isTail_tail n)
  · rw [UInt8.le_iff_toNat_le, ha]; exact (by omega : 0xE0 ≤ 0xE0 + n / 0x1000)
  · rw [UInt8.lt_iff_toNat_lt, ha]; exact (by omega : 0xE0 + n / 0x1000 < 0xF0)
  · rw [isSecond_iff, isTail_iff, ha, toNat_tail]; omega

theorem sequence_four (hlow : 0x10000 ≤ n) (hhigh : n < 0x110000) :
    Sequence (Char.ofNat n) [.ofNat (0xF0 + n / 0x40000), .ofNat (0x80 + n / 0x1000 % 0x40),
      .ofNat (0x80 + n / 0x40 % 0x40), .ofNat (0x80 + n % 0x40)] := by
  have ha : (UInt8.ofNat (0xF0 + n / 0x40000)).toNat = 0xF0 + n / 0x40000 :=
    toNat_ofNat (by omega)
  have hj : joined ((UInt8.ofNat (0xF0 + n / 0x40000)).toNat - 0xF0)
      [UInt8.ofNat (0x80 + n / 0x1000 % 0x40), UInt8.ofNat (0x80 + n / 0x40 % 0x40),
        UInt8.ofNat (0x80 + n % 0x40)] = Char.ofNat n := by
    rw [joined, List.foldl_cons, List.foldl_cons, List.foldl_cons, List.foldl_nil, ha, toNat_tail,
      toNat_tail, toNat_tail]
    exact congrArg Char.ofNat (by omega)
  rw [← hj]
  refine .four ?_ ?_ ?_ (isTail_tail _) (isTail_tail n)
  · rw [UInt8.le_iff_toNat_le, ha]; exact (by omega : 0xF0 ≤ 0xF0 + n / 0x40000)
  · rw [UInt8.le_iff_toNat_le, ha]; exact (by omega : 0xF0 + n / 0x40000 ≤ 0xF4)
  · rw [isSecond_iff, isTail_iff, ha, toNat_tail]; omega

end Written

theorem sequence_encodePoint (c : Char) : Sequence c (encodePoint c.toNat) := by
  have hc : c.toNat < 0xD800 ∨ 0xDFFF < c.toNat ∧ c.toNat < 0x110000 := c.valid
  -- one to four bytes, by the bounds at which the encoder goes on to the next form
  generalize hn : c.toNat = n at hc
  obtain rfl : Char.ofNat n = c := by rw [← hn, Char.ofNat_toNat]
  unfold encodePoint
  split
  · next h => exact sequence_one h
  · split
    · exact sequence_two (by omega) (by omega)
    · split
      · exact sequence_three (by omega) (by omega) (by omega)
      · exact sequence_four (by omega) (by omega)

theorem Sequence.low_or_high {c : Char} {bs : Bytes} (h : Sequence c bs) :
    (∃ a, a < 0x80 ∧ bs = [a] ∧ c = Char.ofNat a.toNat) ∨ ∀ b ∈ bs, ¬b < 0x80 := by
  have htail {b : UInt8} (hb : isTail b) : ¬b < 0x80 := by
    rw [isTail, Bool.and_eq_true, decide_eq_true_iff] at hb
    exact UInt8.not_lt.2 hb.1
  have hsecond {a b : UInt8} (hb : isSecond a b) : ¬b < 0x80 := htail ((isSecond_iff a b).1 hb).1
  cases h with
  | one ha => exact .inl ⟨_, ha, rfl, rfl⟩
  | two ha _ ht =>
    have := htail ht
    exact .inr (by simp only [List.mem_cons, List.not_mem_nil]; grind)
  | three ha _ hs ht =>
    have := hsecond hs
    have := htail ht
    exact .inr (by simp only [List.mem_cons, List.not_mem_nil]; grind)
  | four ha _ hs ht hu =>
    have := hsecond hs
    have := htail ht
    have := htail hu
    exact .inr (by simp only [List.mem_cons, List.not_mem_nil]; grind)

theorem not_lt_of_lead {a : UInt8} (h : 0xC2 ≤ a) (h' : a ≤ 0xF4) :
    ¬a < 0x80 ∧ ¬a < 0xC2 ∧ ¬0xF4 < a := by
  refine ⟨?_, UInt8.not_lt.2 h, UInt8.not_lt.2 h'⟩
  grind

theorem decodeFrom_sequence {c : Char} {bs : Bytes} (h : Sequence c bs) (pos : Nat) (rest : Bytes) :
    decodeFrom pos (bs ++ rest) = (c :: ·) <$> decodeFrom (pos + bs.length) rest := by
  cases h with
  | one ha =>
    rw [List.singleton_append, decodeFrom.eq_def]
    simp only [ha, if_true]
    rfl
  | @two a b ha hb ht =>
    obtain ⟨h80, hc2, hf4⟩ := not_lt_of_lead (a := a) (by grind) (by grind)
    rw [List.cons_append, List.singleton_append, decodeFrom.eq_def]
    simp only [h80, hc2, hf4, hb, ht, if_true, if_false, decide_false, Bool.or_false,
      Bool.false_eq_true]
    rfl
  | @three a b d ha hb h2 h3 =>
    obtain ⟨h80, hc2, hf4⟩ := not_lt_of_lead (a := a) (by grind) (by grind)
    have he0 : ¬a < 0xE0 := by grind
    rw [List.cons_append, List.cons_append, List.singleton_append, decodeFrom.eq_def]
    simp only [h80, hc2, hf4, he0, hb, h2, h3, if_true, if_false, decide_false, Bool.or_false,
      Bool.false_eq_true, Bool.not_true]
    rfl
  | @four a b d e ha hb h2 h3 h4 =>
    obtain ⟨h80, hc2, hf4⟩ := not_lt_of_lead (a := a) (by grind) (by grind)
    have he0 : ¬a < 0xE0 := by grind
    have hf0 : ¬a < 0xF0 := by grind
    rw [List.cons_append, List.cons_append, List.cons_append, List.singleton_append,
      decodeFrom.eq_def]
    simp only [h80, hc2, hf4, he0, hf0, h2, h3, h4, if_false, decide_false, Bool.or_false,
      Bool.false_eq_true, Bool.not_true]
    rfl

theorem decodeFrom_encodeChars (pos : Nat) (cs : List Char) :
    decodeFrom pos (encodeChars cs) = .ok cs := by
  induction cs generalizing pos with
  | nil => rfl
  | cons c cs ih =>
    rw [encodeChars, List.flatMap_cons, decodeFrom_sequence (sequence_encodePoint c)]
    exact congrArg (Except.map (c :: ·)) (ih _)

theorem decode_encodeChars (cs : List Char) : decode (encodeChars cs) = .ok cs :=
  decodeFrom_encodeChars 0 cs

theorem ofNat_of_toNat {a : UInt8} {n : Nat} (h : a.toNat = n) : UInt8.ofNat n = a := by
  rw [← h, UInt8.ofNat_toNat]

theorem Sequence.eq_encodePoint {c : Char} {bs : Bytes} (h : Sequence c bs) :
    bs = encodePoint c.toNat := by
  cases h with
  | @one a ha =>
    have ha : a.toNat < 0x80 := UInt8.lt_iff_toNat_lt.1 ha
    rw [CodePoint.toNat_char (.inl (by omega)), encodePoint, if_pos ha, UInt8.ofNat_toNat]
  | @two a b h₁ h₂ hb =>
    have h₁ : 0xC2 ≤ a.toNat := UInt8.le_iff_toNat_le.1 h₁
    have h₂ : a.toNat < 0xE0 := UInt8.lt_iff_toNat_lt.1 h₂
    rw [isTail_iff] at hb
    rw [joined, List.foldl_cons, List.foldl_nil, CodePoint.toNat_char (.inl (by omega)),
      encodePoint, if_neg (by omega), if_pos (by omega), ofNat_of_toNat (a := a) (by omega),
      ofNat_of_toNat (a := b) (by omega)]
  | @three a b c h₁ h₂ hb hc =>
    have h₁ : 0xE0 ≤ a.toNat := UInt8.le_iff_toNat_le.1 h₁
    have h₂ : a.toNat < 0xF0 := UInt8.lt_iff_toNat_lt.1 h₂
    rw [isSecond_iff, isTail_iff] at hb
    rw [isTail_iff] at hc
    have hvalid : (0x40 * (0x40 * (a.toNat - 0xE0) + (b.toNat - 0x80)) +
        (c.toNat - 0x80)).isValidChar := by
      by_cases hlow : a.toNat < 0xED ∨ a.toNat = 0xED
      · exact .inl (by omega)
      · exact .inr ⟨by omega, by omega⟩
    simp only [joined, List.foldl_cons, List.foldl_nil]
    rw [CodePoint.toNat_char hvalid, encodePoint, if_neg (by omega), if_neg (by omega),
      if_pos (by omega), ofNat_of_toNat (a := a) (by omega), ofNat_of_toNat (a := b) (by omega),
      ofNat_of_toNat (a := c) (by omega)]
  | @four a b c d h₁ h₂ hb hc hd =>
    have h₁ : 0xF0 ≤ a.toNat := UInt8.le_iff_toNat_le.1 h₁
    have h₂ : a.toNat ≤ 0xF4 := UInt8.le_iff_toNat_le.1 h₂
    rw [isSecond_iff, isTail_iff] at hb
    rw [isTail_iff] at hc hd
    simp only [joined, List.foldl_cons, List.foldl_nil]
    rw [CodePoint.toNat_char (.inr ⟨by omega, by omega⟩), encodePoint, if_neg (by omega),
      if_neg (by omega), if_neg (by omega), ofNat_of_toNat (a := a) (by omega),
      ofNat_of_toNat (a := b) (by omega), ofNat_of_toNat (a := c) (by omega),
      ofNat_of_toNat (a := d) (by omega)]

theorem decodeFrom_sound (pos : Nat) (bs : Bytes) :
    ∀ cs, decodeFrom pos bs = .ok cs → bs = encodeChars cs := by
  have hcons {c : Char} {s rest : Bytes} {r : Except DecodeError (List Char)} (hs : Sequence c s)
      (ih : ∀ cs, r = .ok cs → rest = encodeChars cs) :
      ∀ cs, (c :: ·) <$> r = .ok cs → s ++ rest = encodeChars cs := by
    intro cs h
    cases r with
    | error e => cases h
    | ok ds =>
      obtain rfl : c :: ds = cs := Except.ok.inj h
      rw [ih ds rfl, hs.eq_encodePoint]
      rfl
  fun_induction decodeFrom pos bs with
  | case1 =>
    rintro cs ⟨⟩
    rfl
  | case2 pos a rest ha ih => exact hcons (.one ha) ih
  | case5 pos a ha h₁ h₂ b rest hb ih => exact hcons (.two (by grind) h₂ hb) ih
  | case12 pos a ha h₁ h₂ h₃ b c rest hb hc ih =>
    exact hcons (.three (by grind) h₃ (by simpa using hb) (by simpa using hc)) ih
  | case22 pos a ha h₁ h₂ h₃ b c d rest hb hc hd ih =>
    exact hcons (.four (by grind) (by grind) (by simpa using hb) (by simpa using hc)
      (by simpa using hd)) ih
  | _ => exact fun _ h => absurd h (by simp)

theorem decode_eq_ok_iff {bs : Bytes} {cs : List Char} :
    decode bs = .ok cs ↔ bs = encodeChars cs := by
  constructor
  · exact decodeFrom_sound 0 bs cs
  · rintro rfl
    exact decode_encodeChars cs

theorem encode_eq_ok_iff {t : Text} {bs : Bytes} :
    encode t = .ok bs ↔ ∃ cs, t = Text.ofChars cs ∧ bs = encodeChars cs := by
  simp only [← Text.toChars?_eq_some_iff]
  rw [encode]
  cases t.toChars? <;> simp [eq_comm]

theorem encodeChars_injective {cs ds : List Char} (h : encodeChars cs = encodeChars ds) :
    cs = ds := by
  have hread := decode_encodeChars cs
  rw [h, decode_encodeChars] at hread
  exact (Except.ok.inj hread).symm

theorem decode_sequence {c : Char} {bs : Bytes} (h : Sequence c bs) : decode bs = .ok [c] := by
  have hd := decodeFrom_sequence h 0 []
  rw [List.append_nil] at hd
  exact hd

theorem decode_lead {a : UInt8} (h : 0xC2 ≤ a) (h' : a ≤ 0xF4) :
    decode [a] = .error ⟨a, 0, 1, .unexpectedEnd⟩ := by
  obtain ⟨h80, hc2, hf4⟩ := not_lt_of_lead h h'
  rw [decode, decodeFrom.eq_def]
  simp only [h80, hc2, hf4, if_false, decide_false, Bool.or_false, Bool.false_eq_true]
  split
  · rfl
  · split <;> rfl

theorem decode_second {a b : UInt8} (h : 0xE0 ≤ a) (h' : a ≤ 0xF4) (hb : isSecond a b) :
    decode [a, b] = .error ⟨a, 0, 2, .unexpectedEnd⟩ := by
  obtain ⟨h80, hc2, hf4⟩ := not_lt_of_lead (a := a) (by grind) (by grind)
  have he0 : ¬a < 0xE0 := by grind
  rw [decode, decodeFrom.eq_def]
  simp only [h80, hc2, hf4, he0, hb, if_true, if_false, decide_false, Bool.or_false,
    Bool.false_eq_true]
  split <;> rfl

theorem decode_third {a b c : UInt8} (h : 0xF0 ≤ a) (h' : a ≤ 0xF4) (hb : isSecond a b)
    (hc : isTail c) : decode [a, b, c] = .error ⟨a, 0, 3, .unexpectedEnd⟩ := by
  obtain ⟨h80, hc2, hf4⟩ := not_lt_of_lead (a := a) (by grind) (by grind)
  have he0 : ¬a < 0xE0 := by grind
  have hf0 : ¬a < 0xF0 := by grind
  rw [decode, decodeFrom.eq_def]
  simp only [h80, hc2, hf4, he0, hf0, hb, hc, if_false, decide_false, Bool.or_false,
    Bool.false_eq_true, Bool.not_true]

theorem decode_cut {c : Char} {before after : Bytes} (h : Sequence c (before ++ after))
    (hb : before ≠ []) (ha : after ≠ []) :
    ∃ e, decode before = .error e ∧ e.cause = .unexpectedEnd := by
  generalize hbs : before ++ after = bs at h
  cases h with
  | one =>
    cases before with
    | nil => exact absurd rfl hb
    | cons => simp_all
  | @two a b h1 h2 ht =>
    rcases before with _ | ⟨x, _ | ⟨y, before⟩⟩
    · exact absurd rfl hb
    · obtain rfl : x = a := by simp_all
      exact ⟨_, decode_lead h1 (by grind), rfl⟩
    · simp_all
  | @three a b d h1 h2 hs ht =>
    rcases before with _ | ⟨x, _ | ⟨y, _ | ⟨z, before⟩⟩⟩
    · exact absurd rfl hb
    · obtain rfl : x = a := by simp_all
      exact ⟨_, decode_lead (by grind) (by grind), rfl⟩
    · obtain ⟨rfl, rfl⟩ : x = a ∧ y = b := by simp_all
      exact ⟨_, decode_second h1 (by grind) hs, rfl⟩
    · simp_all
  | @four a b d e h1 h2 hs ht hu =>
    rcases before with _ | ⟨x, _ | ⟨y, _ | ⟨z, _ | ⟨w, before⟩⟩⟩⟩
    · exact absurd rfl hb
    · obtain rfl : x = a := by simp_all
      exact ⟨_, decode_lead (by grind) h2, rfl⟩
    · obtain ⟨rfl, rfl⟩ : x = a ∧ y = b := by simp_all
      exact ⟨_, decode_second (by grind) h2 hs, rfl⟩
    · obtain ⟨rfl, rfl, rfl⟩ : x = a ∧ y = b ∧ z = d := by simp_all
      exact ⟨_, decode_third h1 h2 hs ht, rfl⟩
    · simp_all

end EmitBridge.Utf8
