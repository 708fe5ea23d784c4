import EmitBridge.Proofs.Json.Spelling
import EmitBridge.Text.Escape

/-! Objects printed on several lines. They are read back as they were, and terminals find no escape
sequence in them. -/

namespace EmitBridge.Json

theorem areBlanks_lineBreak (level : Nat) : AreBlanks (lineBreak level) := by
  refine List.forall_mem_cons.2 ⟨rfl, fun c hc => ?_⟩
  rw [List.eq_of_mem_replicate hc]
  rfl

theorem renderMemberLines_eq (level : Nat) (ms : List (Text × Json)) :
    renderMemberLines level ms =
      ms.map fun e => memberText e.1 (renderLines (level + 1) e.2) := by
  induction ms with
  | nil => rfl
  | cons e ms ih =>
    rw [renderMemberLines, ih]
    rfl

theorem renderLines_obj_cons (level : Nat) (e : Text × Json) (ms : List (Text × Json)) :
    renderLines level (.obj (e :: ms)) =
      '{' :: (lineBreak (level + 1) ++
        (separated (',' :: lineBreak (level + 1))
            ((e :: ms).map fun e => memberText e.1 (renderLines (level + 1) e.2)) ++
          (lineBreak level ++ ['}']))) := by
  rw [renderLines, renderMemberLines_eq, block, List.map_cons]
  simp

theorem spells_renderLines_obj {level n : Nat} {ms : List (Text × Json)}
    (hn : (ms.map Prod.fst).Nodup)
    (h : ∀ e ∈ ms, IsJoined e.1.points ∧ Spells n e.2 (renderLines (level + 1) e.2)) :
    Spells (n + 1) (.obj ms) (renderLines level (.obj ms)) := by
  cases ms with
  | nil => exact .empty areBlanks_nil
  | cons e ms =>
    -- line breaks are blanks, so that the lines are one more spelling of the object
    have hmembers := spellsMembers_separated (areBlanks_lineBreak (level + 1))
      (areBlanks_lineBreak level) (List.cons_ne_nil e ms) h
    rw [renderLines_obj_cons]
    exact .obj (areBlanks_lineBreak _) hn hmembers

def IsShown (c : Char) : Prop := c = '\n' ∨ IsPrintable c

instance : DecidablePred IsShown := fun _ => inferInstanceAs (Decidable (_ ∨ _))

theorem isShown_lineBreak (level : Nat) : ∀ c ∈ lineBreak level, IsShown c := by
  refine List.forall_mem_cons.2 ⟨.inl rfl, fun c hc => ?_⟩
  rw [List.eq_of_mem_replicate hc]
  exact .inr (by decide)

theorem isShown_memberText {name : Text} {s : List Char} (hs : ∀ c ∈ s, IsShown c) :
    ∀ c ∈ memberText name s, IsShown c :=
  List.forall_mem_append.2 ⟨fun c hc => .inr (isPrintable_quoted name c hc),
    List.forall_mem_cons.2 ⟨by decide, List.forall_mem_cons.2 ⟨by decide, hs⟩⟩⟩

theorem isShown_renderLines_obj {level : Nat} {ms : List (Text × Json)}
    (h : ∀ e ∈ ms, ∀ c ∈ renderLines (level + 1) e.2, IsShown c) :
    ∀ c ∈ renderLines level (.obj ms), IsShown c := by
  cases ms with
  | nil => exact forall_mem_of_all rfl
  | cons e ms =>
    have hsep : ∀ c ∈ ',' :: lineBreak (level + 1), IsShown c :=
      List.forall_mem_cons.2 ⟨by decide, isShown_lineBreak _⟩
    have hitems : ∀ s ∈ (e :: ms).map fun e => memberText e.1 (renderLines (level + 1) e.2),
        ∀ c ∈ s, IsShown c :=
      List.forall_mem_map.2 fun d hd => isShown_memberText (h d hd)
    have hclose : ∀ c ∈ ['}'], IsShown c := forall_mem_of_all rfl
    rw [renderLines_obj_cons]
    refine List.forall_mem_cons.2 ⟨by decide, List.forall_mem_append.2 ⟨isShown_lineBreak _, ?_⟩⟩
    exact List.forall_mem_append.2 ⟨forall_mem_separated hsep hitems,
      List.forall_mem_append.2 ⟨isShown_lineBreak _, hclose⟩⟩

theorem escape_notMem_of_isShown {s : List Char} (h : ∀ c ∈ s, IsShown c) : Escape.escape ∉ s :=
  fun hmem => absurd (h _ hmem) (by decide)

section Mapping

variable (es : Entries Text)

def ofTexts : Json := .obj (es.map fun e => (e.1, .str e.2))

theorem isShown_renderLines_ofTexts : ∀ c ∈ (ofTexts es).renderLines 0, IsShown c := by
  refine isShown_renderLines_obj (List.forall_mem_map.2 fun e _ c hc => ?_)
  exact .inr (isPrintable_quoted e.2 c hc)

variable {es}

theorem parse_renderLines_ofTexts (hnames : (es.map Prod.fst).Nodup)
    (hjoined : ∀ e ∈ es, IsJoined e.1.points ∧ IsJoined e.2.points) {b : List Char}
    (hb : AreBlanks b) (n : Nat) :
    parse (n + 1) ((ofTexts es).renderLines 0 ++ b) = .ok (ofTexts es) := by
  refine parse_of_spells (spells_renderLines_obj ?_ ?_) hb
  · rwa [List.map_map]
  · exact List.forall_mem_map.2 fun e he => ⟨(hjoined e he).1, .str (hjoined e he).2⟩

end Mapping

end EmitBridge.Json
