import Mathlib.Tactic.SplitIfs
import EmitBridge.Text.Escape

/-! Texts without escape sequences. These are the texts that stripping leaves as they are; any
sequence makes a text shorter. -/

namespace EmitBridge.Escape

def ends (s : List Char) : Bool := (s.dropWhile isParameter).head?.any Char.isAlpha

def follows : List Char → Bool
  | '[' :: rest => ends rest
  | _ => false

def occurs : List Char → Bool
  | [] => false
  | c :: rest => c == escape && follows rest || occurs rest

theorem occurs_escape (rest : List Char) :
    occurs (escape :: rest) = (follows rest || occurs rest) := rfl

theorem occurs_cons {c : Char} (h : c ≠ escape) (rest : List Char) :
    occurs (c :: rest) = occurs rest := by
  rw [occurs, beq_false_of_ne h, Bool.false_and, Bool.false_or]

theorem follows_bracket (rest : List Char) : follows ('[' :: rest) = ends rest := rfl

theorem follows_cons {c : Char} (h : c ≠ '[') (rest : List Char) : follows (c :: rest) = false := by
  unfold follows
  split
  · next heq => exact absurd (List.cons.inj heq).1 h
  · rfl

theorem ends_parameter {c : Char} (h : isParameter c) (rest : List Char) :
    ends (c :: rest) = ends rest := by
  rw [ends, List.dropWhile_cons_of_pos h]
  rfl

theorem ends_cons {c : Char} (h : isParameter c = false) (rest : List Char) :
    ends (c :: rest) = c.isAlpha := by
  rw [ends, List.dropWhile_cons_of_neg (ne_true_of_eq_false h)]
  rfl

section Steps

variable (held rest : List Char) {c : Char}

theorem stripFrom_escape : stripFrom held (escape :: rest) = held ++ stripFrom [escape] rest := by
  rw [stripFrom]
  exact if_pos (beq_self_eq_true escape)

theorem stripFrom_nil_cons (h : c ≠ escape) :
    stripFrom [] (c :: rest) = c :: stripFrom [] rest := by
  rw [stripFrom, beq_false_of_ne h]
  rfl

theorem stripFrom_bracket : stripFrom [escape] ('[' :: rest) = stripFrom [escape, '['] rest := rfl

theorem stripFrom_broken (hc : c ≠ escape) (h : c ≠ '[') :
    stripFrom [escape] (c :: rest) = escape :: c :: stripFrom [] rest := by
  rw [stripFrom, beq_false_of_ne hc, beq_false_of_ne h]
  rfl

end Steps

def opening (params : List Char) : List Char := escape :: '[' :: params

section Opening

variable (params rest : List Char) {c : Char}

theorem stripFrom_opening (hc : c ≠ escape) : stripFrom (opening params) (c :: rest) =
    if isParameter c then stripFrom (opening (params ++ [c])) rest
    else if c.isAlpha then stripFrom [] rest
    else opening params ++ c :: stripFrom [] rest := by
  rw [stripFrom, beq_false_of_ne hc]
  rfl

end Opening

theorem length_stripFrom_le (held s : List Char) :
    (stripFrom held s).length ≤ held.length + s.length := by
  induction s generalizing held with
  | nil => exact Nat.le_refl _
  | cons c rest ih =>
    have hnone := ih []
    have hone := ih [c]
    have hmore := ih (held ++ [c])
    simp only [List.length_append, List.length_cons, List.length_nil] at hnone hone hmore
    unfold stripFrom
    split_ifs <;> simp only [List.length_append, List.length_cons] <;> omega

/-- Stripping leaves a text as it is just if there is no sequence in it; the same holds in the
middle of what may be a sequence. -/
structure KeepsPlain (s : List Char) : Prop where
  alone : stripFrom [] s = s ↔ occurs s = false
  escaped : stripFrom [escape] s = escape :: s ↔ follows s = false ∧ occurs s = false
  opened : ∀ params, stripFrom (opening params) s = opening params ++ s ↔
    ends s = false ∧ occurs s = false

namespace KeepsPlain

theorem nil : KeepsPlain [] where
  alone := iff_of_true rfl rfl
  escaped := iff_of_true rfl ⟨rfl, rfl⟩
  opened _ := iff_of_true (List.append_nil _).symm ⟨rfl, rfl⟩

variable {rest : List Char} {c : Char}

theorem again (h : KeepsPlain rest) (held : List Char) :
    stripFrom held (escape :: rest) = held ++ escape :: rest ↔ occurs (escape :: rest) = false := by
  rw [stripFrom_escape, List.append_cancel_left_eq, occurs_escape, Bool.or_eq_false_iff]
  exact h.escaped

theorem escape_cons (h : KeepsPlain rest) : KeepsPlain (escape :: rest) where
  alone := h.again []
  escaped := by
    rw [follows_cons (by decide)]
    exact (h.again [escape]).trans (and_iff_right rfl).symm
  opened params := by
    rw [ends_cons (by decide)]
    exact (h.again _).trans (and_iff_right rfl).symm

theorem escaped_cons (h : KeepsPlain rest) (hc : c ≠ escape) :
    stripFrom [escape] (c :: rest) = escape :: c :: rest ↔
      follows (c :: rest) = false ∧ occurs rest = false := by
  by_cases hb : c = '['
  · subst hb
    rw [stripFrom_bracket, follows_bracket]
    exact h.opened []
  · rw [stripFrom_broken rest hc hb, follows_cons hb, List.cons_inj_right, List.cons_inj_right,
      h.alone]
    exact (and_iff_right rfl).symm

theorem stripFrom_ne_append (params rest : List Char) (c : Char) :
    stripFrom [] rest ≠ opening params ++ c :: rest := by
  intro heq
  have hlength := length_stripFrom_le [] rest
  rw [heq] at hlength
  simp only [opening, List.length_append, List.length_cons, List.length_nil] at hlength
  omega

theorem opened_cons (h : KeepsPlain rest) (hc : c ≠ escape) (params : List Char) :
    stripFrom (opening params) (c :: rest) = opening params ++ c :: rest ↔
      ends (c :: rest) = false ∧ occurs rest = false := by
  rw [stripFrom_opening params rest hc]
  cases hp : isParameter c with
  | true =>
    rw [if_pos rfl, ends_parameter hp, ← h.opened (params ++ [c])]
    simp only [opening, List.cons_append, List.append_assoc, List.nil_append]
  | false =>
    rw [if_neg Bool.false_ne_true, ends_cons hp]
    cases ha : c.isAlpha with
    | true =>
      rw [if_pos rfl]
      exact iff_of_false (stripFrom_ne_append params rest c) fun h => Bool.noConfusion h.1
    | false =>
      rw [if_neg Bool.false_ne_true, List.append_cancel_left_eq, List.cons_inj_right, h.alone]
      exact (and_iff_right rfl).symm

theorem cons (h : KeepsPlain rest) (hc : c ≠ escape) : KeepsPlain (c :: rest) where
  alone := by
    rw [occurs_cons hc, stripFrom_nil_cons rest hc, List.cons_inj_right]
    exact h.alone
  escaped := by
    rw [occurs_cons hc]
    exact h.escaped_cons hc
  opened params := by
    rw [occurs_cons hc]
    exact h.opened_cons hc params

end KeepsPlain

theorem keepsPlain (s : List Char) : KeepsPlain s := by
  induction s with
  | nil => exact .nil
  | cons c rest ih =>
    by_cases hc : c = escape
    · subst hc
      exact ih.escape_cons
    · exact ih.cons hc

theorem strip_eq_self_iff (s : List Char) : strip s = s ↔ occurs s = false :=
  (keepsPlain s).alone

end EmitBridge.Escape
