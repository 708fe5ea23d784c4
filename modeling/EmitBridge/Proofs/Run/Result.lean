/-! Results of steps in a row, looked back at from what the last one came to. -/

namespace EmitBridge.Run

variable {ε δ α β : Type}

theorem exists_of_bind_eq_ok {x : Except ε α} {g : α → Except ε β} {b : β}
    (h : (x >>= g) = .ok b) : ∃ a, x = .ok a ∧ g a = .ok b := by
  cases x with
  | error e => cases h
  | ok a => exact ⟨a, rfl, h⟩

theorem exists_of_map_eq_ok {x : Except ε α} {g : α → β} {b : β} (h : (g <$> x) = .ok b) :
    ∃ a, x = .ok a ∧ g a = b := by
  cases x with
  | error e => cases h
  | ok a => exact ⟨a, rfl, Except.ok.inj h⟩

theorem map_eq_error_iff {x : Except ε α} {g : α → β} {e : ε} :
    (g <$> x) = .error e ↔ x = .error e := by
  cases x <;> simp [Functor.map, Except.map]

theorem bind_eq_error_iff {x : Except ε α} {g : α → Except ε β} {e : ε} :
    (x >>= g) = .error e ↔ x = .error e ∨ ∃ a, x = .ok a ∧ g a = .error e := by
  cases x with
  | error e =>
    show Except.error e = .error _ ↔ _
    simp
  | ok a =>
    show g a = .error _ ↔ _
    simp

theorem mapError_eq_error_iff {x : Except ε α} {g : ε → δ} {f : δ} :
    x.mapError g = .error f ↔ ∃ e, x = .error e ∧ g e = f := by
  cases x with
  | error e =>
    show Except.error (g e) = .error _ ↔ _
    simp
  | ok a =>
    show Except.ok a = .error _ ↔ _
    simp

theorem mapError_eq_ok_iff {x : Except ε α} {g : ε → δ} {a : α} :
    x.mapError g = .ok a ↔ x = .ok a := by
  cases x with
  | error e =>
    show Except.error (g e) = .ok _ ↔ _
    simp
  | ok a =>
    show Except.ok a = .ok _ ↔ _
    simp

def FailsWith (P : ε → Prop) (x : Except ε α) : Prop := ∀ e, x = .error e → P e

namespace FailsWith

variable {P : ε → Prop}

theorem ok (a : α) : FailsWith P (.ok a) := nofun

theorem error {e : ε} (h : P e) : FailsWith P (.error e : Except ε α) := by
  rintro _ ⟨⟩
  exact h

theorem mapError {f : δ → ε} (h : ∀ d, P (f d)) (x : Except δ α) : FailsWith P (x.mapError f) := by
  cases x with
  | ok a => exact ok a
  | error d => exact error (h d)

theorem bind {x : Except ε α} {g : α → Except ε β} (hx : FailsWith P x)
    (hg : ∀ a, FailsWith P (g a)) : FailsWith P (x >>= g) := by
  intro e h
  obtain h | ⟨a, -, h⟩ := bind_eq_error_iff.mp h
  · exact hx e h
  · exact hg a e h

end FailsWith

end EmitBridge.Run
