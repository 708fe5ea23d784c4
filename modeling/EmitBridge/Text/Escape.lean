/-! Escape sequences for terminals: an escape character, a bracket, digits with `;` or `?` among
them, and a letter. -/

namespace EmitBridge.Escape

def escape : Char := '\x1b'

def isParameter (c : Char) : Bool := c.isDigit || c == ';' || c == '?'

/-- The text without escape sequences, where `held` is the beginning of what may be one. -/
def stripFrom (held : List Char) : List Char → List Char
  | [] => held
  | c :: rest =>
    if c == escape then held ++ stripFrom [c] rest
    else if held.isEmpty then c :: stripFrom [] rest
    else if held.length == 1 then
      if c == '[' then stripFrom (held ++ [c]) rest else held ++ c :: stripFrom [] rest
    else if isParameter c then stripFrom (held ++ [c]) rest
    else if c.isAlpha then stripFrom [] rest
    else held ++ c :: stripFrom [] rest

def strip (s : List Char) : List Char := stripFrom [] s

theorem strip_of_no_escape {s : List Char} (h : escape ∉ s) : strip s = s := by
  unfold strip
  induction s with
  | nil => rfl
  | cons c rest ih =>
    have hc : c ≠ escape := fun e => h (e ▸ List.mem_cons_self ..)
    have hr : escape ∉ rest := fun m => h (List.mem_cons_of_mem _ m)
    simp [stripFrom, hc, ih hr]

end EmitBridge.Escape
