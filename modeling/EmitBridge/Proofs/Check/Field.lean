import EmitBridge.Check.Basic
import EmitBridge.Proofs.Json.Entries

/-! Fields of a record among the entries of a mapping. A field is read from the entry under its key,
or else from the one under its name; what no field is read from is left over. -/

namespace EmitBridge

namespace Checked

variable {α β : Type}

theorem seq_eq_passed {f : Checked (α → β)} {a : Checked α} {b : β}
    (h : (f <*> a) = .passed b) : ∃ g x, f = .passed g ∧ a = .passed x ∧ g x = b := by
  change both f a = .passed b at h
  cases f with
  | refused vs => cases a <;> cases h
  | passed g =>
    cases a with
    | refused ws => cases h
    | passed x =>
      cases h
      exact ⟨g, x, rfl, rfl, rfl⟩

theorem map_eq_passed {f : α → β} {a : Checked α} {b : β} (h : (f <$> a) = .passed b) :
    ∃ x, a = .passed x ∧ f x = b := by
  obtain ⟨_, x, hf, ha, hx⟩ := seq_eq_passed h
  cases hf
  exact ⟨x, ha, hx⟩

theorem under_eq_passed {name : String} {a : Checked α} {x : α}
    (h : a.under name = .passed x) : a = .passed x := by
  cases a with
  | passed y => exact h
  | refused vs => cases h

theorem seq_eq_passed_iff {f : Checked (α → β)} {a : Checked α} {b : β} :
    (f <*> a) = .passed b ↔ ∃ g x, f = .passed g ∧ a = .passed x ∧ g x = b := by
  refine ⟨seq_eq_passed, ?_⟩
  rintro ⟨g, x, rfl, rfl, rfl⟩
  rfl

theorem map_eq_passed_iff {f : α → β} {a : Checked α} {b : β} :
    (f <$> a) = .passed b ↔ ∃ x, a = .passed x ∧ f x = b := by
  refine ⟨map_eq_passed, ?_⟩
  rintro ⟨x, rfl, rfl⟩
  rfl

theorem under_eq_passed_iff {name : String} {a : Checked α} {x : α} :
    a.under name = .passed x ↔ a = .passed x := by
  refine ⟨under_eq_passed, ?_⟩
  rintro rfl
  rfl

theorem andThen_eq_passed_iff {a : Checked α} {f : α → Checked β} {b : β} :
    a.andThen f = .passed b ↔ ∃ x, a = .passed x ∧ f x = .passed b := by
  cases a <;> simp [andThen]

theorem toExcept_eq_ok {title : String} {a : Checked α} {x : α}
    (h : a.toExcept title = .ok x) : a = .passed x := by
  cases a with
  | passed y =>
    cases h
    rfl
  | refused vs => cases h

end Checked

namespace Check

variable {α : Type} {es : Entries Value}

theorem entries_map {check : Value → Checked α} {f : α → Value} {es : Entries α}
    (h : ∀ e ∈ es, check (f e.2) = .passed e.2) :
    entries check (es.map fun e => (e.1, f e.2)) = .passed es := by
  induction es with
  | nil => rfl
  | cons e es ih =>
    have hrest := ih fun d hd => h d (List.mem_cons_of_mem _ hd)
    rw [List.map_cons, entries, h e List.mem_cons_self, hrest]
    rfl

theorem entries_eq_passed_iff {check : Value → Checked α} {as : Entries α} :
    entries check es = .passed as ↔
      List.Forall₂ (fun e a => e.1 = a.1 ∧ check e.2 = .passed a.2) es as := by
  induction es generalizing as with
  | nil =>
    have hread : entries check [] = .passed [] := rfl
    rw [hread, Checked.passed.injEq]
    cases as with
    | nil => simp
    | cons a as => exact iff_of_false nofun nofun
  | cons e es ih =>
    rw [entries, Checked.seq_eq_passed_iff]
    simp only [Checked.map_eq_passed_iff, Checked.under_eq_passed_iff, ih]
    cases as with
    | nil => exact iff_of_false (by simp) nofun
    | cons a as =>
      rw [List.forall₂_cons]
      constructor
      · rintro ⟨g, bs, ⟨b, hb, rfl⟩, hbs, hcons⟩
        obtain ⟨rfl, rfl⟩ := List.cons.inj hcons
        exact ⟨⟨rfl, hb⟩, hbs⟩
      · rintro ⟨⟨hname, ha⟩, has⟩
        refine ⟨_, as, ⟨a.2, ha, rfl⟩, has, ?_⟩
        rw [hname]

theorem dict_eq_passed_iff {check : Value → Checked α} {v : Value} {as : Entries α} :
    dict check v = .passed as ↔ ∃ es, v = .dict es ∧
      List.Forall₂ (fun e a => e.1 = a.1 ∧ check e.2 = .passed a.2) es as := by
  cases v <;> simp [dict, refuse, entries_eq_passed_iff]

theorem option_eq_passed_iff {check : Value → Checked α} {v : Value} {x : Option α} :
    option check v = .passed x ↔
      v = .null ∧ x = none ∨ v ≠ .null ∧ ∃ a, check v = .passed a ∧ some a = x := by
  by_cases hv : v = .null
  · rw [hv, option]
    simp [pure, eq_comm]
  · have hread : option check v = some <$> check v := by
      cases v <;> first | exact absurd rfl hv | rfl
    rw [hread, Checked.map_eq_passed_iff]
    simp [hv]

theorem option_of_passed {check : Value → Checked α} {v : Value} {a : α} (hv : v ≠ .null)
    (h : check v = .passed a) : option check v = .passed (some a) := by
  rw [option, h]
  · rfl
  · exact hv

theorem optional_of_get? {f : Field} {absent a : α} {check : Value → Checked α} {v : Value}
    (hf : es.get? f.key = some v) (h : check v = .passed a) :
    f.optional absent check es = .passed a := by
  rw [Field.optional, Field.find?, hf]
  simp only [h]
  rfl

theorem optional_of_missing {f : Field} {absent : α} {check : Value → Checked α}
    (hk : es.get? f.key = none) (hn : es.get? f.name = none) :
    f.optional absent check es = .passed absent := by
  rw [Field.optional, Field.find?, hk, hn]
  rfl

theorem optional_eq_passed_iff {f : Field} (hf : f.key = f.name) {absent a : α}
    {check : Value → Checked α} :
    f.optional absent check es = .passed a ↔
      es.get? f.name = none ∧ absent = a ∨ ∃ v, es.get? f.name = some v ∧ check v = .passed a := by
  rw [Field.optional, Field.find?, hf]
  cases es.get? (Text.ofString f.name) with
  | none => simp [pure]
  | some v => simp [Checked.under_eq_passed_iff]

theorem required_eq_passed_iff {f : Field} (hf : f.key = f.name) {a : α}
    {check : Value → Checked α} :
    f.required check es = .passed a ↔ ∃ v, es.get? f.name = some v ∧ check v = .passed a := by
  rw [Field.required, Field.find?, hf]
  cases es.get? (Text.ofString f.name) with
  | none => simp [refuse, Checked.under]
  | some v => simp [Checked.under_eq_passed_iff]

theorem optional_of_name {f : Field} {x : Option α} {inj : α → Value} {check : Value → Checked α}
    (hk : es.get? f.key = none ∨ f.key = f.name) (hn : es.get? f.name = x.map inj)
    (h : ∀ a ∈ x, inj a ≠ .null ∧ check (inj a) = .passed a) :
    f.optional none (option check) es = .passed x := by
  cases x with
  | none =>
    rcases hk with hk | hk
    · exact optional_of_missing hk hn
    · exact optional_of_missing (hk ▸ hn) hn
  | some a =>
    obtain ⟨hnull, hcheck⟩ := h a rfl
    have hread := option_of_passed hnull hcheck
    rcases hk with hk | hk
    · rw [Field.optional, Field.find?, hk, hn]
      simp only [Option.map_some, hread]
      rfl
    · exact optional_of_get? (hk ▸ hn) hread

namespace Field

theorem claims_of_key {f : Field} {e : Text × Value} (he : e ∈ es) (hk : e.1 = f.key) :
    f.claims es e.1 = true := by
  obtain ⟨v, hv⟩ := Entries.exists_get?_of_mem he hk
  rw [claims, find?, hv, hk]
  exact beq_self_eq_true _

theorem claims_of_name {f : Field} {e : Text × Value} (he : e ∈ es) (hn : e.1 = f.name)
    (hk : es.contains f.key = false) : f.claims es e.1 = true := by
  obtain ⟨v, hv⟩ := Entries.exists_get?_of_mem he hn
  have hkey : es.get? (Text.ofString f.key) = none :=
    Entries.get?_eq_none_iff.mpr (Entries.contains_eq_false_iff.mp hk)
  rw [claims, find?, hkey, hv, hn]
  exact beq_self_eq_true _

theorem eq_of_claims {f : Field} {key : Text} (h : f.claims es key = true) :
    key = Text.ofString f.key ∨ key = Text.ofString f.name := by
  rw [claims, find?] at h
  cases hk : es.get? (Text.ofString f.key) with
  | some v =>
    rw [hk] at h
    exact .inl (beq_iff_eq.mp h).symm
  | none =>
    rw [hk] at h
    cases hn : es.get? (Text.ofString f.name) with
    | some v =>
      rw [hn] at h
      exact .inr (beq_iff_eq.mp h).symm
    | none =>
      rw [hn] at h
      cases h

end Field

variable {fields : List Field}

theorem mem_extras_iff {e : Text × Value} :
    e ∈ extras fields es ↔ e ∈ es ∧ ∀ f ∈ fields, f.claims es e.1 = false := by
  rw [extras, List.mem_filter, Bool.not_eq_true', List.any_eq_false]
  simp only [Bool.not_eq_true]

theorem key_ne_of_mem_extras {e : Text × Value} (he : e ∈ extras fields es) {f : Field}
    (hf : f ∈ fields) : e.1 ≠ f.key := by
  obtain ⟨hm, hclaims⟩ := mem_extras_iff.mp he
  intro hk
  have hown := Field.claims_of_key hm hk
  rw [hclaims f hf] at hown
  cases hown

theorem contains_key_of_mem_extras {e : Text × Value} (he : e ∈ extras fields es) {f : Field}
    (hf : f ∈ fields) (hn : e.1 = f.name) : es.contains f.key = true := by
  obtain ⟨hm, hclaims⟩ := mem_extras_iff.mp he
  by_contra hk
  have hown := Field.claims_of_name hm hn (Bool.eq_false_iff.mpr hk)
  rw [hclaims f hf] at hown
  cases hown

end Check

end EmitBridge
