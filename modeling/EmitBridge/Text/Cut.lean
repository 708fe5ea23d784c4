/-! Cutting a text at a separator. -/

namespace EmitBridge.Cut

def first (sep : Char) : List Char → List Char × Option (List Char)
  | [] => ([], none)
  | c :: rest =>
    if c == sep then ([], some rest)
    else let (before, after) := first sep rest; (c :: before, after)

def last (sep : Char) (s : List Char) : Option (List Char) × List Char :=
  let (after, before) := first sep s.reverse
  (before.map List.reverse, after.reverse)

def all (sep : Char) : List Char → List (List Char)
  | [] => [[]]
  | c :: rest =>
    if c == sep then [] :: all sep rest
    else match all sep rest with
      | [] => [[c]]
      | piece :: pieces => (c :: piece) :: pieces

def join (sep : Char) : List (List Char) → List Char
  | [] => []
  | [piece] => piece
  | piece :: pieces => piece ++ sep :: join sep pieces

theorem all_ne_nil (sep : Char) (s : List Char) : all sep s ≠ [] := by
  cases s with
  | nil => simp [all]
  | cons c rest =>
    rw [all]
    split
    · simp
    · split <;> simp

theorem join_all (sep : Char) (s : List Char) : join sep (all sep s) = s := by
  induction s with
  | nil => rfl
  | cons c rest ih =>
    rw [all]
    split
    · next h =>
      cases hall : all sep rest with
      | nil => exact absurd hall (all_ne_nil sep rest)
      | cons piece pieces => simp [join, ← hall, ih, (beq_iff_eq.1 h)]
    · cases hall : all sep rest with
      | nil => exact absurd hall (all_ne_nil sep rest)
      | cons piece pieces =>
        rw [hall] at ih
        cases pieces <;> simp_all [join]

end EmitBridge.Cut
