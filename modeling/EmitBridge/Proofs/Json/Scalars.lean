import EmitBridge.Proofs.Json.Grammar
import EmitBridge.Proofs.Run.Result

/-! Reading strings, numbers and literals. What is read is denoted by the characters that were
taken, and characters that denote a value are taken, if nothing behind them belongs to them. -/

namespace EmitBridge.Json

open CodePoint EmitBridge.Json.Parser

section Strings

variable {opening : List Char}

theorem hex4?_eq_some_iff {a b c d : Char} {p : CodePoint} :
    hex4? a b c d = some p ↔ ∃ w x y z, Hex.value? a = some w ∧ Hex.value? b = some x ∧
      Hex.value? c = some y ∧ Hex.value? d = some z ∧
        p = CodePoint.ofNat (4096 * w + 256 * x + 16 * y + z) := by
  simp only [hex4?, Option.bind_eq_bind, Option.bind_eq_some_iff, Option.some.injEq]
  constructor
  · rintro ⟨w, hw, x, hx, y, hy, z, hz, rfl⟩
    exact ⟨w, x, y, z, hw, hx, hy, hz, rfl⟩
  · rintro ⟨w, x, y, z, hw, hx, hy, hz, rfl⟩
    exact ⟨w, hw, x, hx, y, hy, z, hz, rfl⟩

def BodySound (opening rest s : List Char) : Prop :=
  ∀ ps, stringBody opening s = .ok (ps, rest) → ∃ t, s = t ++ '"' :: rest ∧ DenotesPoints t ps

theorem BodySound.cons {rest front s : List Char} {p : CodePoint} {r : Except Stop _}
    (hs : BodySound opening rest s) (hp : DenotesPoint front p)
    (hr : r = (stringBody opening s).map fun r => (p :: r.1, r.2)) :
    ∀ ps, r = .ok (ps, rest) → ∃ t, front ++ s = t ++ '"' :: rest ∧ DenotesPoints t ps := by
  intro ps h
  obtain ⟨⟨qs, tail⟩, hread, hpair⟩ := Run.exists_of_map_eq_ok (hr.symm.trans h)
  obtain ⟨rfl, rfl⟩ := Prod.mk.inj hpair
  obtain ⟨t, rfl, ht⟩ := hs qs hread
  exact ⟨front ++ t, (List.append_assoc ..).symm, .cons hp ht⟩

theorem stringBody_sound (opening rest s : List Char) : BodySound opening rest s := by
  unfold BodySound
  fun_induction stringBody opening s with
  | case1 => simp
  | case2 tail =>
    rintro ps h
    obtain ⟨rfl, rfl⟩ : [] = ps ∧ tail = rest := by simpa using h
    exact ⟨[], rfl, .nil⟩
  | case3 => simp
  | case4 => simp
  | case5 a b c d e tail p hp ih =>
    obtain ⟨w, x, y, z, hw, hx, hy, hz, rfl⟩ := hex4?_eq_some_iff.mp hp
    exact BodySound.cons ih (.unit hw hx hy hz) rfl
  | case6 => simp
  | case7 => simp
  | case8 c tail hlong hu x hx ih => exact BodySound.cons ih (.short hx) rfl
  | case9 => simp
  | case10 c tail hq hend hlong hu hshort hc ih =>
    have hb : c ≠ '\\' := by
      rintro rfl
      cases tail with
      | nil => exact hend rfl rfl
      | cons d tail => exact hshort d tail rfl rfl
    exact BodySound.cons ih (.plain hq hb (Nat.le_of_not_lt hc)) rfl

theorem stringBody_point {front : List Char} {p : CodePoint} (h : DenotesPoint front p) {e : Char}
    {s : List Char} : stringBody opening (front ++ e :: s) =
      (stringBody opening (e :: s)).map fun r => (p :: r.1, r.2) := by
  cases h with
  | plain hq hb hc => exact stringBody_plain opening hq hb hc _
  | short hx =>
    refine stringBody_shortEscape opening hx ?_ _
    rintro rfl
    cases hx
  | @unit a b c d w x y z hw hx hy hz =>
    have hp := hex4?_eq_some_iff.mpr ⟨w, x, y, z, hw, hx, hy, hz, rfl⟩
    simp only [List.cons_append, List.nil_append]
    rw [stringBody, hp]

theorem stringBody_complete {t : List Char} {ps : List CodePoint} (h : DenotesPoints t ps)
    (rest : List Char) : stringBody opening (t ++ '"' :: rest) = .ok (ps, rest) := by
  induction h with
  | nil => rw [List.nil_append, stringBody]
  | @cons s t p ps hp ht ih =>
    obtain ⟨e, tail, he⟩ : ∃ e tail, t ++ '"' :: rest = e :: tail := by
      cases t with
      | nil => exact ⟨_, _, rfl⟩
      | cons e tail => exact ⟨_, _, rfl⟩
    rw [List.append_assoc, he, stringBody_point hp, ← he, ih]
    rfl

theorem isLowSurrogate_head {q : CodePoint} {qs : List CodePoint} {p : CodePoint}
    (hp : (joinSurrogates (q :: qs)).head? = some p) (hlow : p.isLowSurrogate) : p = q := by
  cases qs with
  | nil => exact (Option.some.inj hp).symm
  | cons r qs =>
    rw [joinSurrogates] at hp
    split at hp
    · next hpair =>
      -- what two surrogates make is beyond all surrogates
      simp only [Bool.and_eq_true, isHighSurrogate, isLowSurrogate, decide_eq_true_eq] at hpair hlow
      have hval := congrArg Fin.val (Option.some.inj hp)
      rw [ofNat_val (by omega)] at hval
      omega
    · exact (Option.some.inj hp).symm

theorem isJoined_joinSurrogates (ps : List CodePoint) : IsJoined (joinSurrogates ps) := by
  fun_induction joinSurrogates ps with
  | case1 => exact List.isChain_nil
  | case2 p => exact List.isChain_singleton p
  | case3 p q rest hpair ih =>
    refine List.isChain_cons.mpr ⟨fun r _ hjoin => ?_, ih⟩
    simp only [Bool.and_eq_true, isHighSurrogate, isLowSurrogate, decide_eq_true_eq] at hpair hjoin
    rw [ofNat_val (by omega)] at hjoin
    omega
  | case4 p q rest hpair ih =>
    refine List.isChain_cons.mpr ⟨fun r hr hjoin => hpair ?_, ih⟩
    rw [Bool.and_eq_true] at hjoin
    rw [← isLowSurrogate_head hr hjoin.2, hjoin.1, hjoin.2]
    rfl

theorem units_joinSurrogates (ps : List CodePoint) :
    (joinSurrogates ps).flatMap units = ps.flatMap units := by
  fun_induction joinSurrogates ps with
  | case1 => rfl
  | case2 => rfl
  | case3 p q rest hpair ih =>
    simp only [Bool.and_eq_true, isHighSurrogate, isLowSurrogate, decide_eq_true_eq] at hpair
    have hp : units p = [p] := units_of_small (by omega)
    have hq : units q = [q] := units_of_small (by omega)
    have hboth :
        units (ofNat (0x10000 + (p.val - 0xD800) * 0x400 + (q.val - 0xDC00))) = [p, q] := by
      rw [units, ofNat_val (by omega), if_neg (by omega)]
      have hhigh : ofNat (0xD800 + (0x10000 + (p.val - 0xD800) * 0x400 + (q.val - 0xDC00)
          - 0x10000) / 0x400) = p := ofNat_eq (by omega)
      have hlow : ofNat (0xDC00 + (0x10000 + (p.val - 0xD800) * 0x400 + (q.val - 0xDC00)
          - 0x10000) % 0x400) = q := ofNat_eq (by omega)
      rw [hhigh, hlow]
    simp [hboth, hp, hq, ih]
  | case4 p q rest hpair ih => rw [List.flatMap_cons, ih, ← List.flatMap_cons]

theorem joins_iff {ps : List CodePoint} {t : Text} : Joins ps t ↔ t = ⟨joinSurrogates ps⟩ := by
  constructor
  · rintro ⟨hjoined, hunits⟩
    have hsame := joinSurrogates_units (isJoined_joinSurrogates ps)
    rw [units_joinSurrogates, ← hunits, joinSurrogates_units hjoined] at hsame
    rw [← hsame]
  · rintro rfl
    exact ⟨isJoined_joinSurrogates ps, units_joinSurrogates ps⟩

theorem string_sound {s rest : List Char} {t : Text}
    (h : Parser.string ('"' :: s) = .ok (t, rest)) :
    ∃ q, '"' :: s = q ++ rest ∧ DenotesText q t := by
  obtain ⟨⟨ps, tail⟩, hread, hpair⟩ := Run.exists_of_map_eq_ok h
  obtain ⟨ht, rfl⟩ := Prod.mk.inj hpair
  obtain ⟨body, rfl, hbody⟩ := stringBody_sound _ _ _ ps hread
  exact ⟨'"' :: (body ++ ['"']), by simp, .quoted hbody (joins_iff.mpr ht.symm)⟩

theorem string_complete {q : List Char} {t : Text} (h : DenotesText q t) (rest : List Char) :
    Parser.string (q ++ rest) = .ok (t, rest) := by
  cases h with
  | @quoted body ps _ hbody ht =>
    have hdrop : ('"' :: (body ++ ['"']) ++ rest).drop 1 = body ++ '"' :: rest := by simp
    rw [Parser.string, hdrop, stringBody_complete hbody, joins_iff.mp ht]
    rfl

end Strings

section Numbers

def NoDigit (s : List Char) : Prop := ∀ c ∈ s.head?, ¬c.isDigit

theorem takeDigits_append {ds rest : List Char} (hds : ∀ c ∈ ds, c.isDigit) (hrest : NoDigit rest) :
    takeDigits (ds ++ rest) = (ds, rest) := by
  have hnone : takeDigits rest = ([], rest) := by
    cases rest with
    | nil => rfl
    | cons c rest =>
      have hc := hrest c rfl
      simp [takeDigits, hc]
  have hsplit := Prod.mk.inj hnone
  rw [takeDigits, List.takeWhile_append_of_pos hds, List.dropWhile_append_of_pos hds, hsplit.1,
    hsplit.2, List.append_nil]

theorem takeDigits_cases (s : List Char) : (∃ rest, takeDigits s = ([], rest)) ∨
    ∃ c ds rest, takeDigits s = (c :: ds, rest) ∧ s = c :: ds ++ rest ∧ AreDigits (c :: ds) := by
  obtain ⟨ds, rest, h⟩ : ∃ ds rest, takeDigits s = (ds, rest) := ⟨_, _, rfl⟩
  cases ds with
  | nil => exact .inl ⟨rest, h⟩
  | cons c ds =>
    obtain ⟨hds, hrest⟩ := Prod.mk.inj h
    refine .inr ⟨c, ds, rest, h, ?_, List.cons_ne_nil _ _, ?_⟩
    · rw [← hds, ← hrest]
      exact List.takeWhile_append_dropWhile.symm
    · rw [← hds]
      exact List.all_eq_true.mp List.all_takeWhile

theorem wholeDigits_sound {s whole rest : List Char} (h : wholeDigits s = some (whole, rest)) :
    s = whole ++ rest ∧ AreWhole whole := by
  unfold wholeDigits at h
  split at h
  · next tail =>
    obtain ⟨rfl, rfl⟩ : ['0'] = whole ∧ tail = rest := by simpa using h
    exact ⟨rfl, ⟨List.cons_ne_nil _ _, by simp⟩, fun _ => rfl⟩
  · next hzero =>
    rcases takeDigits_cases s with ⟨tail, hnone⟩ | ⟨c, ds, tail, htake, hs, hds⟩
    · simp [hnone] at h
    · obtain ⟨rfl, rfl⟩ : c :: ds = whole ∧ tail = rest := by simpa [htake] using h
      refine ⟨hs, hds, fun hhead => ?_⟩
      obtain rfl := Option.some.inj hhead
      exact absurd hs (hzero _)

theorem wholeDigits_complete {whole rest : List Char} (h : AreWhole whole) (hrest : NoDigit rest) :
    wholeDigits (whole ++ rest) = some (whole, rest) := by
  obtain ⟨⟨hne, hds⟩, hzero⟩ := h
  cases whole with
  | nil => exact absurd rfl hne
  | cons c whole =>
    by_cases hc : c = '0'
    · have halone := hzero (congrArg some hc)
      rw [halone]
      rfl
    · have htake := takeDigits_append hds hrest
      rw [List.cons_append] at htake ⊢
      rw [wholeDigits, htake]
      rintro tail heq
      exact hc (List.cons.inj heq).1

theorem fraction_sound (s : List Char) : ∃ f fraction rest, s = f ++ rest ∧
    DenotesFraction f fraction ∧ fractionDigits s = fraction.map (·, rest) ∧
      (fraction = none → rest = s) := by
  have habsent (h : fractionDigits s = none) : ∃ f fraction rest, s = f ++ rest ∧
      DenotesFraction f fraction ∧ fractionDigits s = fraction.map (·, rest) ∧
        (fraction = none → rest = s) := ⟨[], none, s, rfl, .absent, h, fun _ => rfl⟩
  by_cases hpoint : ∃ tail, s = '.' :: tail
  · obtain ⟨tail, rfl⟩ := hpoint
    rcases takeDigits_cases tail with ⟨rest, hnone⟩ | ⟨c, ds, rest, htake, hs, hds⟩
    · exact habsent (by rw [fractionDigits, hnone])
    · refine ⟨'.' :: c :: ds, some (c :: ds), rest, ?_, .present hds, ?_, nofun⟩
      · simp [hs]
      · rw [fractionDigits, htake]
        rfl
  · refine habsent ?_
    rw [fractionDigits]
    exact fun tail hs => hpoint ⟨tail, hs⟩

theorem fraction_complete {f rest : List Char} {fraction : Option (List Char)}
    (h : DenotesFraction f fraction) (hrest : NoDigit rest) (hpoint : '.' ∉ rest.head?) :
    fractionDigits (f ++ rest) = fraction.map (·, rest) := by
  cases h with
  | absent =>
    rw [List.nil_append, fractionDigits.eq_def]
    split
    · next tail => exact absurd rfl hpoint
    · rfl
  | present hds =>
    have htake := takeDigits_append hds.2 hrest
    rw [List.cons_append, fractionDigits, htake]
    split
    · next heq => exact absurd (Prod.mk.inj heq).1 hds.1
    · rfl

theorem exponent_sound (s : List Char) : ∃ e exponent rest, s = e ++ rest ∧
    DenotesExponent e exponent ∧ exponentPart s = exponent.map (·, rest) ∧
      (exponent = none → rest = s) := by
  have habsent (h : exponentPart s = none) : ∃ e exponent rest, s = e ++ rest ∧
      DenotesExponent e exponent ∧ exponentPart s = exponent.map (·, rest) ∧
        (exponent = none → rest = s) := ⟨[], none, s, rfl, .absent, h, fun _ => rfl⟩
  generalize hread : exponentPart s = r at habsent ⊢
  unfold exponentPart at hread
  split at hread
  · next c tail =>
    split at hread
    · next hc =>
      have hmark : c = 'e' ∨ c = 'E' := by simpa using hc
      split at hread
      next negative digits hsigned =>
      obtain ⟨sign, rfl, hsign⟩ : ∃ sign, tail = sign ++ digits ∧ DenotesSign sign negative := by
        split at hsigned
        all_goals obtain ⟨rfl, rfl⟩ := Prod.mk.inj hsigned
        · exact ⟨['-'], rfl, .minus⟩
        · exact ⟨['+'], rfl, .plus⟩
        · exact ⟨[], rfl, .absent⟩
      rcases takeDigits_cases digits with ⟨rest, hnone⟩ | ⟨d, ds, rest, htake, hs, hds⟩
      · simp only [hnone] at hread
        exact habsent hread.symm
      · simp only [htake] at hread
        refine ⟨c :: (sign ++ d :: ds), _, rest, ?_, .present hmark hsign hds, ?_, nofun⟩
        · rw [hs]
          simp
        · rw [← hread]
          rfl
    · exact habsent hread.symm
  · exact habsent hread.symm

theorem exponent_complete {e rest : List Char} {exponent : Option Int}
    (h : DenotesExponent e exponent) (hrest : NoDigit rest)
    (hmark : 'e' ∉ rest.head? ∧ 'E' ∉ rest.head?) :
    exponentPart (e ++ rest) = exponent.map (·, rest) := by
  cases h with
  | absent =>
    cases rest with
    | nil => rfl
    | cons c rest =>
      have hc : (c == 'e' || c == 'E') = false := by simpa using hmark
      rw [List.nil_append, exponentPart.eq_def]
      simp only [hc]
      rfl
  | @present c sign ds negative hc hsign hds =>
    have hmark : (c == 'e' || c == 'E') = true := by simpa using hc
    have htake := takeDigits_append hds.2 hrest
    cases ds with
    | nil => exact absurd rfl hds.1
    | cons d ds =>
      rw [List.cons_append] at htake
      cases hsign with
      | absent =>
        -- a digit is no sign
        have hsign {x : Char} (hx : ¬x.isDigit) : ∀ s, d :: (ds ++ rest) ≠ x :: s := by
          intro s heq
          rw [← (List.cons.inj heq).1] at hx
          exact hx (hds.2 d List.mem_cons_self)
        rw [List.cons_append, List.nil_append, List.cons_append, exponentPart, if_pos hmark]
        · simp [htake, signed]
        · exact hsign (by decide)
        · exact hsign (by decide)
      | plus => simp [exponentPart, hmark, htake, signed]
      | minus => simp [exponentPart, hmark, htake, signed]

theorem isNumber_whole_iff {negative : Bool} {whole : List Char} {v : Json} :
    IsNumber negative whole none none v ↔ whole.length ≤ digitLimit ∧
      Json.int (signed negative (natOfDigits whole)) = v := by
  constructor
  · rintro (h | h)
    · exact ⟨h, rfl⟩
    · simp at h
  · rintro ⟨h, rfl⟩
    exact .int h

theorem isNumber_parted_iff {negative : Bool} {whole : List Char} {v : Json}
    {fraction : Option (List Char)} {exponent : Option Int}
    (h : fraction.isSome ∨ exponent.isSome) : IsNumber negative whole fraction exponent v ↔
      Json.float (FloatText.signed negative (natOfDigits (whole ++ fraction.getD []))
        (exponent.getD 0 - (fraction.getD []).length)) = v := by
  constructor
  · rintro (_ | _)
    · simp at h
    · rfl
  · rintro rfl
    exact .float h

theorem number_eq_ok_iff {start s whole r₁ r₂ r₃ tail : List Char} {negative : Bool} {v : Json}
    {fraction : Option (List Char)} {exponent : Option Int} (hw : wholeDigits s = some (whole, r₁))
    (hf : fractionDigits r₁ = fraction.map (·, r₂)) (hf' : fraction = none → r₂ = r₁)
    (he : exponentPart r₂ = exponent.map (·, r₃)) (he' : exponent = none → r₃ = r₂) :
    number start negative s = .ok (v, tail) ↔ IsNumber negative whole fraction exponent v ∧
      r₃ = tail := by
  -- a fraction or an exponent makes it a float, however few digits there are
  rw [number, hw]
  cases fraction with
  | none =>
    obtain rfl := hf' rfl
    cases exponent with
    | none =>
      obtain rfl := he' rfl
      simp only [hf, he, Option.map_none, isNumber_whole_iff]
      split
      · next hlong => simp [Nat.not_le.mpr hlong]
      · next hshort => simp [Nat.le_of_not_lt hshort, signed]
    | some n =>
      rw [isNumber_parted_iff (.inr rfl)]
      simp [hf, he]
  | some ds =>
    rw [isNumber_parted_iff (.inl rfl)]
    cases exponent with
    | none =>
      obtain rfl := he' rfl
      simp [hf, he]
    | some n => simp [hf, he]

theorem number_sound {start s rest : List Char} {negative : Bool} {v : Json}
    (h : number start negative s = .ok (v, rest)) :
    ∃ t, s = t ++ rest ∧ DenotesNumber negative t v := by
  cases hw : wholeDigits s with
  | none =>
    rw [number, hw] at h
    cases h
  | some r =>
    obtain ⟨whole, r₁⟩ := r
    obtain ⟨rfl, hwhole⟩ := wholeDigits_sound hw
    obtain ⟨f, fraction, r₂, rfl, hf, hf₁, hf₂⟩ := fraction_sound r₁
    obtain ⟨e, exponent, r₃, rfl, he, he₁, he₂⟩ := exponent_sound r₂
    obtain ⟨hv, rfl⟩ := (number_eq_ok_iff hw hf₁ hf₂ he₁ he₂).mp h
    exact ⟨whole ++ (f ++ e), by simp, .mk hwhole hf he hv⟩

structure EndsNumber (rest : List Char) : Prop where
  digit : NoDigit rest
  point : '.' ∉ rest.head?
  mark : 'e' ∉ rest.head? ∧ 'E' ∉ rest.head?

theorem number_complete {start t rest : List Char} {negative : Bool} {v : Json}
    (h : DenotesNumber negative t v) (hrest : EndsNumber rest) :
    number start negative (t ++ rest) = .ok (v, rest) := by
  cases h with
  | @mk whole f e fraction exponent _ hwhole hf he hv =>
    -- what stands behind each part begins with a mark of the next one, or ends the number
    have hexponent : NoDigit (e ++ rest) ∧ '.' ∉ (e ++ rest).head? := by
      cases he with
      | absent => exact ⟨hrest.digit, hrest.point⟩
      | present hc _ _ => rcases hc with rfl | rfl <;> simp [NoDigit]
    have hfraction : NoDigit (f ++ (e ++ rest)) := by
      cases hf with
      | absent => exact hexponent.1
      | present _ => simp [NoDigit]
    have hw := wholeDigits_complete hwhole hfraction
    have hf₁ := fraction_complete hf hexponent.1 hexponent.2
    have he₁ := exponent_complete he hrest.digit hrest.mark
    have hsplit : whole ++ (f ++ e) ++ rest = whole ++ (f ++ (e ++ rest)) := by simp
    rw [hsplit, number_eq_ok_iff hw hf₁ ?_ he₁ ?_]
    · exact ⟨hv, rfl⟩
    · rintro rfl
      cases hf
      rfl
    · rintro rfl
      cases he
      rfl

end Numbers

section Literals

theorem literal?_eq_some_iff {name : String} {s rest : List Char} :
    literal? name s = some rest ↔ s = name.toList ++ rest := by
  have hdrop (tail : List Char) : (name.toList ++ tail).drop name.length = tail := by
    rw [← String.length_toList, List.drop_left]
  rw [literal?]
  constructor
  · intro h
    split at h
    · next hprefix =>
      obtain ⟨tail, rfl⟩ := List.isPrefixOf_iff_prefix.mp hprefix
      rw [hdrop] at h
      rw [Option.some.inj h]
    · cases h
  · rintro rfl
    rw [if_pos (List.isPrefixOf_iff_prefix.mpr (List.prefix_append _ _)), hdrop]

theorem scalar_sound {s rest : List Char} {v : Json} (h : scalar s = .ok (v, rest)) :
    ∃ t, s = t ++ rest ∧ DenotesScalar t v := by
  unfold scalar at h
  split at h
  · next r hr =>
    obtain rfl := Except.ok.inj h
    obtain ⟨l, hl, hread⟩ := List.exists_of_findSome?_eq_some hr
    obtain ⟨tail, htail, hpair⟩ := Option.map_eq_some_iff.mp hread
    obtain ⟨rfl, rfl⟩ := Prod.mk.inj hpair
    exact ⟨l.1.toList, literal?_eq_some_iff.mp htail, .literal hl⟩
  · split at h
    · obtain ⟨t, rfl, ht⟩ := number_sound h
      exact ⟨'-' :: t, rfl, .negative ht⟩
    · obtain ⟨t, rfl, ht⟩ := number_sound h
      exact ⟨t, rfl, .number ht⟩

theorem literal_head {l : String × Json} (hl : l ∈ literals) :
    ∃ a b s, l.1.toList = a :: b :: s ∧ ¬a.isDigit ∧ ¬b.isDigit := by
  have hall : ∀ l ∈ literals, 2 ≤ l.1.toList.length ∧
      (l.1.toList.take 2).all (fun c => !c.isDigit) = true := by decide
  obtain ⟨hlength, hdigits⟩ := hall l hl
  obtain ⟨a, s, hs⟩ := List.exists_cons_of_length_pos (by omega : 0 < l.1.toList.length)
  rw [hs, List.length_cons] at hlength
  obtain ⟨b, s, rfl⟩ := List.exists_cons_of_length_pos (by omega : 0 < s.length)
  rw [hs] at hdigits
  have hboth : a.isDigit = false ∧ b.isDigit = false := by simpa using hdigits
  exact ⟨a, b, s, hs, by simp [hboth.1], by simp [hboth.2]⟩

theorem findSome?_literal {ls : List (String × Json)} {l : String × Json} {rest : List Char}
    (hnodup : (ls.map fun l => l.1.toList.head?).Nodup) (hne : ∀ l ∈ ls, l.1.toList ≠ [])
    (hl : l ∈ ls) :
    (ls.findSome? fun m => (literal? m.1 (l.1.toList ++ rest)).map fun r => (m.2, r)) =
      some (l.2, rest) := by
  induction ls with
  | nil => cases hl
  | cons m ls ih =>
    obtain ⟨hm, hnodup⟩ := List.nodup_cons.mp hnodup
    rw [List.findSome?_cons]
    rcases List.mem_cons.mp hl with rfl | hl'
    · rw [literal?_eq_some_iff.mpr rfl]
      rfl
    · have hnone : literal? m.1 (l.1.toList ++ rest) = none := by
        refine Option.eq_none_iff_forall_ne_some.mpr fun r hr => hm ?_
        have hhead := congrArg List.head? (literal?_eq_some_iff.mp hr)
        rw [List.head?_append_of_ne_nil _ (hne l hl),
          List.head?_append_of_ne_nil _ (hne m List.mem_cons_self)] at hhead
        exact List.mem_map.mpr ⟨l, hl', hhead⟩
      rw [hnone]
      exact ih hnodup (fun k hk => hne k (List.mem_cons_of_mem _ hk)) hl'

theorem DenotesNumber.head {negative : Bool} {t : List Char} {v : Json}
    (h : DenotesNumber negative t v) : ∃ c s, t = c :: s ∧ c.isDigit := by
  cases h with
  | @mk whole f e fraction exponent _ hwhole _ _ _ =>
    cases whole with
    | nil => exact absurd rfl hwhole.1.1
    | cons c whole => exact ⟨c, whole ++ (f ++ e), rfl, hwhole.1.2 c List.mem_cons_self⟩

theorem findSome?_literal_eq_none {s : List Char} (h : ∃ c ∈ s.take 2, c.isDigit) :
    (literals.findSome? fun l => (literal? l.1 s).map fun r => (l.2, r)) = none := by
  obtain ⟨c, hc, hdigit⟩ := h
  refine List.findSome?_eq_none_iff.mpr fun l hl => Option.map_eq_none_iff.mpr ?_
  refine Option.eq_none_iff_forall_ne_some.mpr fun r hr => ?_
  obtain ⟨a, b, tail, htail, ha, hb⟩ := literal_head hl
  rw [literal?_eq_some_iff.mp hr, htail] at hc
  rcases (by simpa using hc : c = a ∨ c = b) with rfl | rfl
  · exact ha hdigit
  · exact hb hdigit

theorem scalar_complete {t rest : List Char} {v : Json} (h : DenotesScalar t v)
    (hrest : EndsNumber rest) : scalar (t ++ rest) = .ok (v, rest) := by
  rw [scalar.eq_def]
  cases h with
  | @literal name _ hl =>
    have hne : ∀ l ∈ literals, l.1.toList ≠ [] := by decide
    rw [findSome?_literal (l := (name, v)) (by decide) hne hl]
  | number h =>
    obtain ⟨c, s, rfl, hc⟩ := h.head
    rw [findSome?_literal_eq_none ⟨c, by simp, hc⟩]
    have hread : number (c :: s ++ rest) false (c :: s ++ rest) = .ok (v, rest) :=
      number_complete h hrest
    simp only
    split
    · next heq =>
      rw [(List.cons.inj heq).1] at hc
      exact absurd hc (by decide)
    · exact hread
  | @negative t _ h =>
    obtain ⟨c, s, rfl, hc⟩ := h.head
    rw [findSome?_literal_eq_none ⟨c, by simp, hc⟩]
    exact number_complete h hrest

end Literals

end EmitBridge.Json
