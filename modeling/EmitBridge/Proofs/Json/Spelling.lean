import EmitBridge.Json.Printer
import EmitBridge.Proofs.Json.Recognizer

/-! Texts of strings and objects, with blanks wherever they may stand. Reading such a text gives the
value that it spells. -/

namespace EmitBridge.Json

open EmitBridge.Json.Parser

mutual

inductive Spells : Nat → Json → List Char → Prop
  | str {n : Nat} {t : Text} : IsJoined t.points → Spells n (.str t) (quoted t)
  | empty {n : Nat} {b : List Char} : AreBlanks b →
      Spells (n + 1) (.obj []) ('{' :: (b ++ ['}']))
  | obj {n : Nat} {ms : List (Text × Json)} {b s : List Char} : AreBlanks b →
      (ms.map Prod.fst).Nodup → SpellsMembers n ms s → Spells (n + 1) (.obj ms) ('{' :: (b ++ s))

inductive SpellsMembers : Nat → List (Text × Json) → List Char → Prop
  | last {n : Nat} {name : Text} {v : Json} {s b₁ b₂ b₃ : List Char} : IsJoined name.points →
      Spells n v s → AreBlanks b₁ → AreBlanks b₂ → AreBlanks b₃ →
      SpellsMembers n [(name, v)] (quoted name ++ (b₁ ++ ':' :: (b₂ ++ (s ++ (b₃ ++ ['}'])))))
  | cons {n : Nat} {name : Text} {v : Json} {ms : List (Text × Json)}
      {s t b₁ b₂ b₃ b₄ : List Char} : IsJoined name.points → Spells n v s → SpellsMembers n ms t →
      AreBlanks b₁ → AreBlanks b₂ → AreBlanks b₃ → AreBlanks b₄ →
      SpellsMembers n ((name, v) :: ms)
        (quoted name ++ (b₁ ++ ':' :: (b₂ ++ (s ++ (b₃ ++ ',' :: (b₄ ++ t))))))

end

theorem areBlanks_space : AreBlanks [' '] := fun c h => by
  rw [List.mem_singleton.1 h]
  rfl

theorem DenotesPoints.append {s t : List Char} {ps qs : List CodePoint} (hs : DenotesPoints s ps)
    (ht : DenotesPoints t qs) : DenotesPoints (s ++ t) (ps ++ qs) := by
  induction hs with
  | nil => exact ht
  | cons hp _ ih =>
    rw [List.append_assoc]
    exact .cons hp ih

theorem DenotesPoint.single {s : List Char} {p : CodePoint} (h : DenotesPoint s p) :
    DenotesPoints s [p] := by
  have hone := DenotesPoints.cons h .nil
  rwa [List.append_nil] at hone

theorem denotesPoint_unitEscape {n : Nat} (h : n < 0x10000) :
    DenotesPoint (unitEscape n) (.ofNat n) := by
  obtain ⟨a, b, c, d, hd, hp⟩ := hex4?_lowerDigits h
  obtain ⟨w, x, y, z, hw, hx, hy, hz, hn⟩ := hex4?_eq_some_iff.mp hp
  rw [unitEscape, hd, hn]
  exact .unit hw hx hy hz

theorem denotesPoint_printable {p : CodePoint} (hlow : 0x20 ≤ p.val) (hhigh : p.val ≤ 0x7E)
    (hquote : p.val ≠ 0x22) (hbackslash : p.val ≠ 0x5C) :
    DenotesPoint [Char.ofNat p.val] p := by
  have hn : (Char.ofNat p.val).toNat = p.val := CodePoint.toNat_char (.inl (by omega))
  have hx : CodePoint.ofChar (Char.ofNat p.val) = p := ofNat_eq hn.symm
  have hplain : DenotesPoint [Char.ofNat p.val] (.ofChar (Char.ofNat p.val)) := by
    refine .plain (fun he => hquote ?_) (fun he => hbackslash ?_) (by omega)
    · rw [← hn, he]
      rfl
    · rw [← hn, he]
      rfl
  rwa [hx] at hplain

theorem denotesPoints_short {p : CodePoint} {c x : Char} (hc : shortEscape? c = some x)
    (hp : p.val = x.toNat) (hsmall : x.toNat < 0x80) : DenotesPoints ['\\', c] (units p) := by
  have hx : CodePoint.ofChar x = p := ofNat_eq hp
  rw [units_of_small (by omega), ← hx]
  exact (DenotesPoint.short hc).single

theorem denotesPoints_escape (p : CodePoint) : DenotesPoints (escape p) (units p) := by
  unfold escape
  split
  · next h => exact denotesPoints_short (c := '"') rfl (beq_iff_eq.1 h) (by decide)
  split
  · next h => exact denotesPoints_short (c := '\\') rfl (beq_iff_eq.1 h) (by decide)
  split
  · next h => exact denotesPoints_short (c := 'n') rfl (beq_iff_eq.1 h) (by decide)
  split
  · next h => exact denotesPoints_short (c := 'r') rfl (beq_iff_eq.1 h) (by decide)
  split
  · next h => exact denotesPoints_short (c := 't') rfl (beq_iff_eq.1 h) (by decide)
  split
  · next h => exact denotesPoints_short (c := 'f') rfl (beq_iff_eq.1 h) (by decide)
  split
  · next h => exact denotesPoints_short (c := 'b') rfl (beq_iff_eq.1 h) (by decide)
  split
  · next hq hb _ _ _ _ _ h =>
    rw [Bool.and_eq_true, decide_eq_true_eq, decide_eq_true_eq] at h
    have hprintable := denotesPoint_printable h.1 h.2 (by simpa using hq) (by simpa using hb)
    rw [units_of_small (by omega)]
    exact hprintable.single
  split
  · next h =>
    have hunit := denotesPoint_unitEscape h
    rw [CodePoint.ofNat_val_self] at hunit
    rw [units_of_small h]
    exact hunit.single
  · next h =>
    have hp := p.isLt
    rw [units, if_neg h]
    exact .cons (denotesPoint_unitEscape (by omega)) (denotesPoint_unitEscape (by omega)).single

theorem flatMap_units_units (p : CodePoint) : (units p).flatMap units = units p := by
  have hp := p.isLt
  have hsmall {n : Nat} (hn : n < 0x10000) : units (CodePoint.ofNat n) = [CodePoint.ofNat n] :=
    units_of_small (by rw [CodePoint.ofNat_val (by omega)]; exact hn)
  by_cases h : p.val < 0x10000
  · simp [units_of_small h]
  · have hhigh := hsmall (n := 0xD800 + (p.val - 0x10000) / 0x400) (by omega)
    have hlow := hsmall (n := 0xDC00 + (p.val - 0x10000) % 0x400) (by omega)
    rw [units, if_neg h, List.flatMap_cons, List.flatMap_cons, hhigh, hlow]
    rfl

theorem denotesText_quoted {t : Text} (h : IsJoined t.points) : DenotesText (quoted t) t := by
  have hpoints (ps : List CodePoint) : DenotesPoints (ps.flatMap escape) (ps.flatMap units) := by
    induction ps with
    | nil => exact .nil
    | cons p ps ih =>
      rw [List.flatMap_cons, List.flatMap_cons]
      exact (denotesPoints_escape p).append ih
  refine .quoted (hpoints t.points) ⟨h, ?_⟩
  simp only [List.flatMap_assoc, flatMap_units_units]

mutual

theorem Spells.denotes {n : Nat} {v : Json} {s : List Char} : Spells n v s → Denotes n s v
  | .str ht => .text (denotesText_quoted ht)
  | .empty hb => .emptyObject hb
  | .obj hb hn hm => by
    have hobject := Denotes.object hb hm.denotes
    rwa [Entries.ofList_of_nodup hn] at hobject

theorem SpellsMembers.denotes {n : Nat} {ms : List (Text × Json)} {s : List Char} :
    SpellsMembers n ms s → DenotesMembers n s ms
  | .last hname hv h₁ h₂ h₃ => .last (denotesText_quoted hname) hv.denotes h₁ h₂ h₃
  | .cons hname hv hm h₁ h₂ h₃ h₄ =>
    .cons (denotesText_quoted hname) hv.denotes h₁ h₂ h₃ h₄ hm.denotes

end

theorem parse_of_spells {n : Nat} {v : Json} {s b : List Char} (h : Spells n v s)
    (hb : AreBlanks b) : parse n (s ++ b) = .ok v :=
  parse_eq_ok_iff.mpr ⟨[], s, b, areBlanks_nil, hb, rfl, h.denotes⟩

def memberText (name : Text) (text : List Char) : List Char := quoted name ++ ':' :: ' ' :: text

theorem spellsMembers_separated {n : Nat} {b last : List Char} (hb : AreBlanks b)
    (hlast : AreBlanks last) {text : Json → List Char} {ms : List (Text × Json)} (hne : ms ≠ [])
    (h : ∀ e ∈ ms, IsJoined e.1.points ∧ Spells n e.2 (text e.2)) :
    SpellsMembers n ms
      (separated (',' :: b) (ms.map fun e => memberText e.1 (text e.2)) ++ (last ++ ['}'])) := by
  induction ms with
  | nil => exact absurd rfl hne
  | cons e ms ih =>
    obtain ⟨name, v⟩ := e
    obtain ⟨hname, hv⟩ := h (name, v) List.mem_cons_self
    cases ms with
    | nil =>
      have hend := SpellsMembers.last hname hv areBlanks_nil areBlanks_space hlast
      simpa [memberText, separated] using hend
    | cons e' ms =>
      have hmore := ih (List.cons_ne_nil _ _) fun d hd => h d (List.mem_cons_of_mem _ hd)
      have hcons := SpellsMembers.cons hname hv hmore areBlanks_nil areBlanks_space areBlanks_nil hb
      simpa [memberText, separated] using hcons

theorem renderMembers_eq (ms : List (Text × Json)) :
    renderMembers ms = ms.map fun e => memberText e.1 (render e.2) := by
  induction ms with
  | nil => rfl
  | cons e ms ih =>
    rw [renderMembers, ih]
    rfl

theorem spells_render_obj {n : Nat} {ms : List (Text × Json)} (hn : (ms.map Prod.fst).Nodup)
    (h : ∀ e ∈ ms, IsJoined e.1.points ∧ Spells n e.2 (render e.2)) :
    Spells (n + 1) (.obj ms) (render (.obj ms)) := by
  cases ms with
  | nil => exact .empty areBlanks_nil
  | cons e ms =>
    have hmembers := spellsMembers_separated areBlanks_space areBlanks_nil (List.cons_ne_nil e ms) h
    have hobj := Spells.obj areBlanks_nil hn hmembers
    rwa [← renderMembers_eq] at hobj

def IsPrintable (c : Char) : Prop := 0x20 ≤ c.toNat ∧ c.toNat ≤ 0x7E

instance : DecidablePred IsPrintable := fun _ => inferInstanceAs (Decidable (_ ∧ _))

theorem isPrintable_of_isAlphanum {c : Char} (h : c.isAlphanum) : IsPrintable c := by
  rw [isAlphanum_iff] at h
  unfold IsPrintable
  omega

theorem isPrintable_unitEscape (n : Nat) : ∀ c ∈ unitEscape n, IsPrintable c :=
  List.forall_mem_cons.2 ⟨by decide, List.forall_mem_cons.2 ⟨by decide, fun _ hc =>
    isPrintable_of_isAlphanum (Hex.isAlphanum_lowerDigits hc)⟩⟩

theorem isPrintable_escape (p : CodePoint) : ∀ c ∈ escape p, IsPrintable c := by
  unfold escape
  split
  · exact forall_mem_of_all rfl
  split
  · exact forall_mem_of_all rfl
  split
  · exact forall_mem_of_all rfl
  split
  · exact forall_mem_of_all rfl
  split
  · exact forall_mem_of_all rfl
  split
  · exact forall_mem_of_all rfl
  split
  · exact forall_mem_of_all rfl
  split
  · next h =>
    rw [Bool.and_eq_true, decide_eq_true_eq, decide_eq_true_eq] at h
    intro c hc
    rw [List.mem_singleton.1 hc, Char.ofNat, dif_pos (Or.inl (by omega))]
    exact h
  split
  · exact isPrintable_unitEscape _
  · exact List.forall_mem_append.2 ⟨isPrintable_unitEscape _, isPrintable_unitEscape _⟩

theorem isPrintable_quoted (t : Text) : ∀ c ∈ quoted t, IsPrintable c := by
  refine List.forall_mem_append.2 ⟨List.forall_mem_cons.2 ⟨by decide, fun c hc => ?_⟩,
    forall_mem_of_all rfl⟩
  obtain ⟨p, _, hp⟩ := List.mem_flatMap.1 hc
  exact isPrintable_escape p c hp

theorem forall_mem_separated {p : Char → Prop} {sep : List Char} (hsep : ∀ c ∈ sep, p c)
    {items : List (List Char)} (h : ∀ s ∈ items, ∀ c ∈ s, p c) :
    ∀ c ∈ separated sep items, p c := by
  induction items with
  | nil => exact fun _ hc => absurd hc List.not_mem_nil
  | cons s items ih =>
    have hs := h s List.mem_cons_self
    cases items with
    | nil => exact hs
    | cons t items =>
      exact List.forall_mem_append.2 ⟨List.forall_mem_append.2 ⟨hs, hsep⟩,
        ih fun u hu => h u (List.mem_cons_of_mem _ hu)⟩

def IsAscii (s : List Char) : Prop := ∀ c ∈ s, c.toNat < 0x80

theorem isAscii_of_printable {s : List Char} (h : ∀ c ∈ s, IsPrintable c) : IsAscii s :=
  fun c hc => Nat.lt_of_le_of_lt (h c hc).2 (by decide)

theorem isAscii_append {s t : List Char} (hs : IsAscii s) (ht : IsAscii t) : IsAscii (s ++ t) :=
  List.forall_mem_append.2 ⟨hs, ht⟩

theorem isAscii_quoted (t : Text) : IsAscii (quoted t) :=
  isAscii_of_printable (isPrintable_quoted t)

theorem isAscii_render_obj {ms : List (Text × Json)} (h : ∀ e ∈ ms, IsAscii (render e.2)) :
    IsAscii (render (.obj ms)) := by
  have hitems : ∀ s ∈ renderMembers ms, IsAscii s := by
    rw [renderMembers_eq]
    refine List.forall_mem_map.2 fun e he => isAscii_append (isAscii_quoted _) ?_
    exact List.forall_mem_cons.2 ⟨by decide, List.forall_mem_cons.2 ⟨by decide, h e he⟩⟩
  have hsep : IsAscii [',', ' '] := forall_mem_of_all rfl
  have hopen : IsAscii ['\x7b'] := forall_mem_of_all rfl
  have hclose : IsAscii ['\x7d'] := forall_mem_of_all rfl
  rw [render]
  exact isAscii_append (isAscii_append hopen (forall_mem_separated hsep hitems)) hclose

end EmitBridge.Json
