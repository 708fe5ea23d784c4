import EmitBridge.Proofs.Check.Field
import EmitBridge.Settings.Basic

/-! Where a setting comes from. Each one is looked up on its own: in the environment, then in the
file of settings, and then there is its default. -/

namespace EmitBridge

namespace Settings

def fileKeys (s : Surroundings) : Entries (Option Value) :=
  match s.envFile with
  | some text => lowerKeys (EnvFile.read (envBindings s) text.toList)
  | none => []

def told? (s : Surroundings) (field : String) : Option Value :=
  let key := Text.ofString (envPrefix ++ field)
  ((lowerKeys (envBindings s)).get? key).join.or ((fileKeys s).get? key).join

def allowsRemote (s : Surroundings) : Checked Bool :=
  match told? s "allow_remote" with
  | some v => Check.boolean v
  | none => .passed true

theorem get?_named (f : String → Option Value) (name : String) (names : List String) :
    Entries.get? (names.filterMap fun n => (f n).map fun v => (Text.ofString n, v))
      (Text.ofString name) = if name ∈ names then f name else none := by
  induction names with
  | nil => rfl
  | cons n names ih =>
    by_cases hn : name = n
    · subst hn
      rw [List.filterMap_cons, if_pos List.mem_cons_self]
      cases hf : f name with
      | some v => exact List.lookup_cons_self
      | none =>
        rw [hf] at ih
        exact ih.trans (ite_self _)
    · have hmem : name ∈ n :: names ↔ name ∈ names := by rw [List.mem_cons, or_iff_right hn]
      have hne : (Text.ofString name == Text.ofString n) = false :=
        beq_false_of_ne (Text.ofString_injective.ne hn)
      rw [List.filterMap_cons]
      simp only [hmem]
      cases f n with
      | some v =>
        show List.lookup _ (_ :: _) = _
        rw [List.lookup_cons, hne]
        exact ih
      | none => exact ih

theorem get?_collect {field : String} (h : field ∈ fields) (s : Surroundings) :
    (collect [] s).get? (Text.ofString field) = told? s field :=
  (get?_named _ field fields).trans (if_pos h)

theorem optional_allowRemote {es : Entries Value} {settings : Settings}
    (h : check es = .passed settings) :
    (Check.Field.plain "allow_remote").optional true Check.boolean es =
      .passed settings.allowRemote := by
  unfold check at h
  obtain ⟨_, _, h, -, hjson⟩ := Checked.seq_eq_passed h
  obtain ⟨_, _, h, -, hlevel⟩ := Checked.seq_eq_passed h
  obtain ⟨_, _, h, -, htimeout⟩ := Checked.seq_eq_passed h
  obtain ⟨_, x, h, hx, hremote⟩ := Checked.seq_eq_passed h
  obtain ⟨_, _, h, -, hsetting⟩ := Checked.seq_eq_passed h
  obtain ⟨_, _, h, -, hdir⟩ := Checked.seq_eq_passed h
  obtain ⟨_, -, hengine⟩ := Checked.map_eq_passed h
  rw [hx, ← hjson, ← hlevel, ← htimeout, ← hremote, ← hsetting, ← hdir, ← hengine]

theorem allowsRemote_of_read {s : Surroundings} {settings : Settings}
    (h : read [] s = .ok settings) : allowsRemote s = .passed settings.allowRemote := by
  have hfield := optional_allowRemote (Checked.toExcept_eq_ok h)
  have hget : (collect [] s).get? (Text.ofString "allow_remote") = told? s "allow_remote" :=
    get?_collect (by decide) s
  unfold Check.Field.optional Check.Field.find? Check.Field.plain at hfield
  rw [hget] at hfield
  unfold allowsRemote
  cases ht : told? s "allow_remote" with
  | some v =>
    rw [ht] at hfield
    exact Checked.under_eq_passed hfield
  | none =>
    rw [ht] at hfield
    exact hfield

end Settings

end EmitBridge
