import EmitBridge.Markup.Render
import EmitBridge.Proofs.Run.Result
import EmitBridge.Proofs.Text.Emoji

/-! Texts that are shown as they are written. They have no tags, no bracket with a backslash in
front, and no names of emoji. Of any other text a part is lost, and some of its syntax with it. -/

namespace EmitBridge.Markup

open Text

variable {console : Console} {c : Char} {position : Nat} {before body rest s : List Char}
  {inside : Option (List Char)} {opened : List Opened} {done shown : Styled} {ps : List Piece}

def IsBody (body : List Char) : Prop :=
  (∀ c ∈ body, c ≠ '[' ∧ c ≠ ']') ∧ ∀ c ∈ body.head?, beginsTag c = true

/-- A bracket in front of this text begins a tag. -/
def ClosesTag (s : List Char) : Prop :=
  ∃ body rest, body ≠ [] ∧ IsBody body ∧ s = body ++ ']' :: rest

def HasTag (s : List Char) : Prop := ∃ before rest, s = before ++ '[' :: rest ∧ ClosesTag rest

def HasEscape (s : List Char) : Prop := [backslash, '['] <:+: s

structure IsLiteral (s : List Char) : Prop where
  untagged : ¬HasTag s
  unescaped : ¬HasEscape s
  unnamed : ¬Emoji.IsNamedIn s

section Tags

theorem isBody_nil : IsBody [] := ⟨nofun, nofun⟩

theorem IsBody.snoc (h : IsBody body) (hopen : c ≠ '[') (hclose : c ≠ ']')
    (hbegins : body = [] → beginsTag c = true) : IsBody (body ++ [c]) := by
  refine ⟨fun d hd => ?_, fun d hd => ?_⟩
  · rcases List.mem_append.mp hd with hd | hd
    · exact h.1 d hd
    · exact List.mem_singleton.mp hd ▸ ⟨hopen, hclose⟩
  · cases body with
    | nil => exact Option.some.inj hd ▸ hbegins rfl
    | cons b body => exact h.2 d hd

theorem hasTag_cons_iff : HasTag (c :: s) ↔ c = '[' ∧ ClosesTag s ∨ HasTag s := by
  constructor
  · rintro ⟨before, rest, hs, hcloses⟩
    cases before with
    | nil =>
      cases hs
      exact .inl ⟨rfl, hcloses⟩
    | cons b before =>
      cases hs
      exact .inr ⟨before, rest, rfl, hcloses⟩
  · rintro (⟨rfl, hcloses⟩ | ⟨before, rest, rfl, hcloses⟩)
    · exact ⟨[], s, rfl, hcloses⟩
    · exact ⟨c :: before, rest, rfl, hcloses⟩

theorem hasTag_cons (h : c ≠ '[') : HasTag (c :: s) ↔ HasTag s := by
  rw [hasTag_cons_iff]
  exact or_iff_right fun hopen => h hopen.1

theorem hasTag_bracket (h : ¬ClosesTag s) : HasTag ('[' :: s) ↔ HasTag s := by
  rw [hasTag_cons_iff]
  exact or_iff_right fun hcloses => h hcloses.2

theorem not_hasTag_nil : ¬HasTag [] := by
  rintro ⟨before, rest, hs, -⟩
  exact List.append_ne_nil_of_right_ne_nil _ (List.cons_ne_nil _ _) hs.symm

theorem hasTag_append (h : IsBody body) (s : List Char) : HasTag (body ++ s) ↔ HasTag s := by
  have hopen : ∀ c ∈ body, c ≠ '[' := fun c hc => (h.1 c hc).1
  clear h
  induction body with
  | nil => rfl
  | cons c body ih =>
    obtain ⟨hc, hbody⟩ := List.forall_mem_cons.mp hopen
    exact (hasTag_cons hc).trans (ih hbody)

theorem ClosesTag.exists_of_append (h : ClosesTag (body ++ s)) (hbody : IsBody body) :
    ∃ more rest, body ++ more ≠ [] ∧ IsBody (body ++ more) ∧ s = more ++ ']' :: rest := by
  obtain ⟨whole, rest, hne, hwhole, hs⟩ := h
  rcases List.append_eq_append_iff.mp hs with ⟨more, rfl, rfl⟩ | ⟨more, rfl, hrest⟩
  · exact ⟨more, rest, hne, hwhole, rfl⟩
  · cases more with
    | nil =>
      rw [List.append_nil] at hbody ⊢
      exact ⟨[], rest, by rwa [List.append_nil], by rwa [List.append_nil], hrest.symm⟩
    | cons c more =>
      cases hrest
      exact absurd rfl (hbody.1 ']' (List.mem_append_right _ List.mem_cons_self)).2

theorem not_closesTag_nil (h : IsBody body) : ¬ClosesTag body := by
  intro hcloses
  rw [← List.append_nil body] at hcloses
  obtain ⟨more, rest, -, -, hs⟩ := hcloses.exists_of_append h
  exact List.append_ne_nil_of_right_ne_nil _ (List.cons_ne_nil _ _) hs.symm

theorem not_closesTag_open (h : IsBody body) : ¬ClosesTag (body ++ '[' :: rest) := by
  intro hcloses
  obtain ⟨more, rest', -, hmore, hs⟩ := hcloses.exists_of_append h
  cases more with
  | nil => cases hs
  | cons c more =>
    cases hs
    exact absurd rfl (hmore.1 '[' (List.mem_append_right _ List.mem_cons_self)).1

theorem not_closesTag_cons (h : beginsTag c = false) (s : List Char) : ¬ClosesTag (c :: s) := by
  intro hcloses
  obtain ⟨more, rest, hne, hmore, hs⟩ := ClosesTag.exists_of_append hcloses isBody_nil
  cases more with
  | nil => exact hne rfl
  | cons d more =>
    cases hs
    exact absurd (hmore.2 c rfl) (ne_true_of_eq_false h)

end Tags

section Pieces

def Piece.chars : Piece → List Char
  | text s => s
  | tag .. => []

def weight (ps : List Piece) : Nat := (ps.flatMap Piece.chars).countP isSyntax

theorem weight_append (ps qs : List Piece) : weight (ps ++ qs) = weight ps + weight qs := by
  rw [weight, List.flatMap_append, List.countP_append]
  rfl

theorem weight_text (s : List Char) : weight [.text s] = s.countP isSyntax := by
  rw [weight, List.flatMap_singleton]
  rfl

theorem weight_textPiece (s : List Char) : weight (textPiece s) = s.countP isSyntax := by
  cases s with
  | nil => rfl
  | cons c s => exact weight_text (c :: s)

theorem countP_backslashes (n : Nat) : (List.replicate n backslash).countP isSyntax = n := by
  rw [List.countP_replicate]
  rfl

theorem exists_trailing (before : List Char) :
    ∃ front, before = front ++ List.replicate (trailing before) backslash := by
  have hslashes : before.reverse.takeWhile (· == backslash) =
      List.replicate (trailing before) backslash := by
    refine List.eq_replicate_iff.mpr ⟨rfl, fun c hc => ?_⟩
    exact beq_iff_eq.mp (List.all_eq_true.mp List.all_takeWhile c hc)
  refine ⟨(before.reverse.dropWhile (· == backslash)).reverse, ?_⟩
  calc before = (before.reverse.takeWhile (· == backslash) ++
        before.reverse.dropWhile (· == backslash)).reverse := by
        rw [List.takeWhile_append_dropWhile, List.reverse_reverse]
    _ = _ := by rw [List.reverse_append, hslashes, List.reverse_replicate]

theorem weight_pieces_lt (position : Nat) (before body : List Char) :
    weight (pieces position before body) < (before ++ '[' :: body).countP isSyntax := by
  obtain ⟨front, hbefore⟩ := exists_trailing before
  have hopen : isSyntax '[' = true := rfl
  have hclose : isSyntax ']' = false := rfl
  unfold pieces
  generalize trailing before = n at hbefore
  subst hbefore
  have hfront : (front ++ List.replicate n backslash).take
      ((front ++ List.replicate n backslash).length - n) = front := by
    rw [List.length_append, List.length_replicate, Nat.add_sub_cancel, List.take_left]
  simp only [hfront, weight_append, weight_textPiece, countP_backslashes, List.countP_append,
    List.countP_cons, hopen, if_true]
  split
  · next hodd =>
    have hpiece : weight [.text ('[' :: body ++ [']'])] = body.countP isSyntax + 1 := by
      rw [weight_text, List.cons_append, List.countP_cons, List.countP_append,
        List.countP_singleton, hopen, hclose]
      rfl
    have hone := beq_iff_eq.mp hodd
    omega
  · show _ + _ + 0 < _
    omega

end Pieces

section Scan

def pending : Option (List Char) → List Char
  | none => []
  | some body => '[' :: body

/-- A text is cut up: without a tag it stays whole, and with one it loses syntax. -/
inductive Cuts (whole : List Char) (tagged : Prop) (ps : List Piece) : Prop
  | whole : ¬tagged → ps = textPiece whole → Cuts whole tagged ps
  | parts : tagged → weight ps < whole.countP isSyntax → Cuts whole tagged ps

theorem Cuts.congr {whole whole' : List Char} {tagged tagged' : Prop} (h : Cuts whole tagged ps)
    (hwhole : whole' = whole) (htagged : tagged' ↔ tagged) : Cuts whole' tagged' ps := by
  rwa [hwhole, propext htagged]

theorem Cuts.weight_le {whole : List Char} {tagged : Prop} (h : Cuts whole tagged ps) :
    weight ps ≤ whole.countP isSyntax := by
  cases h with
  | whole _ hps => exact Nat.le_of_eq (hps ▸ weight_textPiece whole)
  | parts _ hlt => exact Nat.le_of_lt hlt

theorem forall_isBody_none : ∀ body ∈ (none : Option (List Char)), IsBody body :=
  fun _ hbody => absurd hbody (Option.not_mem_none _)

theorem forall_isBody_some (h : IsBody body) : ∀ body' ∈ some body, IsBody body' :=
  fun _ hbody => Option.some.inj hbody ▸ h

theorem cuts_unclosed (h : IsBody body) : Cuts (before ++ '[' :: body) (HasTag ('[' :: body))
    (textPiece (before ++ '[' :: body)) := by
  refine .whole (fun htag => ?_) rfl
  rw [hasTag_bracket (not_closesTag_nil h), ← List.append_nil body, hasTag_append h] at htag
  exact not_hasTag_nil htag

theorem Cuts.outside (hc : c ≠ '[') (h : Cuts (before ++ [c] ++ rest) (HasTag rest) ps) :
    Cuts (before ++ c :: rest) (HasTag (c :: rest)) ps :=
  h.congr (by rw [List.append_assoc]; rfl) (hasTag_cons hc)

theorem Cuts.reopened (hbody : IsBody body)
    (h : Cuts (before ++ '[' :: body ++ '[' :: rest) (HasTag ('[' :: rest)) ps) :
    Cuts (before ++ '[' :: (body ++ '[' :: rest)) (HasTag ('[' :: (body ++ '[' :: rest))) ps := by
  refine h.congr (by rw [List.append_assoc]; rfl) ?_
  rw [hasTag_bracket (not_closesTag_open hbody), hasTag_append hbody]

theorem Cuts.unopened (hc : c ≠ '[') (hbegins : beginsTag c = false)
    (h : Cuts (before ++ ['[', c] ++ rest) (HasTag rest) ps) :
    Cuts (before ++ '[' :: c :: rest) (HasTag ('[' :: c :: rest)) ps := by
  refine h.congr (by rw [List.append_assoc]; rfl) ?_
  rw [hasTag_bracket (not_closesTag_cons hbegins rest), hasTag_cons hc]

theorem cuts_closed (hbody : IsBody body) (hne : body ≠ [])
    (hrest : weight ps ≤ rest.countP isSyntax) :
    Cuts (before ++ '[' :: (body ++ ']' :: rest)) (HasTag ('[' :: (body ++ ']' :: rest)))
      (pieces position before body ++ ps) := by
  refine .parts ⟨[], body ++ ']' :: rest, rfl, body, rest, hne, hbody, rfl⟩ ?_
  have hpieces := weight_pieces_lt position before body
  rw [weight_append]
  simp only [List.countP_append, List.countP_cons] at hpieces ⊢
  omega

theorem pending_snoc (body : List Char) (c : Char) (rest : List Char) :
    pending (some (body ++ [c])) ++ rest = pending (some body) ++ c :: rest := by
  rw [pending, pending, List.cons_append, List.cons_append, List.append_assoc]
  rfl

/-- What has been read before the bracket holds no tag, so that one can only begin at the bracket or
behind it. -/
theorem cuts_scan (h : ∀ body ∈ inside, IsBody body) :
    Cuts (before ++ (pending inside ++ s)) (HasTag (pending inside ++ s))
      (scan position before inside s) := by
  -- by the steps of the scan: the end of the text, a character outside of brackets, and one behind
  -- a bracket, which begins anew, is none of a tag, closes the tag, or belongs to it
  fun_induction scan position before inside s with
  | case1 position before =>
    refine .whole not_hasTag_nil ?_
    rw [pending, List.append_nil, List.append_nil]
  | case2 position before body =>
    rw [pending, List.append_nil]
    exact cuts_unclosed (h body rfl)
  | case3 position before c rest hc ih =>
    rw [beq_iff_eq.mp hc]
    exact ih (forall_isBody_some isBody_nil)
  | case4 position before c rest hc ih =>
    exact (ih forall_isBody_none).outside (mt beq_iff_eq.mpr hc)
  | case5 position before c rest body hc ih =>
    rw [beq_iff_eq.mp hc]
    exact (ih (forall_isBody_some isBody_nil)).reopened (h body rfl)
  | case6 position before c rest body hc hplain ih =>
    obtain ⟨hempty, hbegins⟩ := Bool.and_eq_true_iff.mp hplain
    rw [List.isEmpty_iff.mp hempty]
    exact (ih forall_isBody_none).unopened (mt beq_iff_eq.mpr hc) (Bool.not_eq_true' _ ▸ hbegins)
  | case7 position before c rest body hc hplain hclose ih =>
    rw [beq_iff_eq.mp hclose] at hplain ⊢
    -- a bracket alone is no body, so the closing one stands behind a tag
    have hne : body ≠ [] := fun hnil => hplain (hnil ▸ rfl)
    exact cuts_closed (h body rfl) hne (ih forall_isBody_none).weight_le
  | case8 position before c rest body hc hplain hclose ih =>
    have hbody : IsBody (body ++ [c]) := by
      refine (h body rfl).snoc (mt beq_iff_eq.mpr hc) (mt beq_iff_eq.mpr hclose) fun hnil => ?_
      by_contra hbegins
      exact hplain (by rw [hnil, eq_false_of_ne_true hbegins]; rfl)
    exact pending_snoc body c rest ▸ ih (forall_isBody_some hbody)

theorem cuts_whole (position : Nat) (s : List Char) :
    Cuts s (HasTag s) (scan position [] none s) := by
  have hcuts : Cuts ([] ++ (pending none ++ s)) (HasTag (pending none ++ s))
      (scan position [] none s) := cuts_scan forall_isBody_none
  exact hcuts

end Scan

section Plain

theorem countP_unescape (s : List Char) : (unescape s).countP isSyntax ≤ s.countP isSyntax := by
  fun_induction unescape s with
  | case1 => exact Nat.le_refl _
  | case2 c => exact Nat.le_refl _
  | case3 c d rest h ih =>
    obtain ⟨-, hd⟩ := Bool.and_eq_true_iff.mp h
    rw [beq_iff_eq.mp hd]
    simp only [List.countP_cons]
    omega
  | case4 c d rest h ih =>
    simp only [List.countP_cons] at ih ⊢
    omega

theorem hasEscape_cons (h : ¬(c == backslash && s.head? == some '[') = true) :
    HasEscape (c :: s) ↔ HasEscape s := by
  unfold HasEscape
  rw [List.infix_cons_iff]
  refine or_iff_right fun hprefix => h ?_
  obtain ⟨rest, hrest⟩ := hprefix
  cases hrest
  rfl

theorem unescape_of_not_hasEscape (h : ¬HasEscape s) : unescape s = s := by
  fun_induction unescape s with
  | case1 => rfl
  | case2 c => rfl
  | case3 c d rest hescape ih =>
    obtain ⟨hc, hd⟩ := Bool.and_eq_true_iff.mp hescape
    rw [beq_iff_eq.mp hc, beq_iff_eq.mp hd] at h
    exact absurd ⟨[], rest, rfl⟩ h
  | case4 c d rest hescape ih =>
    rw [ih fun hrest => h ((hasEscape_cons hescape).mpr hrest)]

theorem countP_unescape_lt (h : HasEscape s) :
    (unescape s).countP isSyntax < s.countP isSyntax := by
  fun_induction unescape s with
  | case1 => exact absurd (List.eq_nil_of_infix_nil h) (List.cons_ne_nil _ _)
  | case2 c => exact absurd h.length_le (Nat.not_succ_le_self 1)
  | case3 c d rest hescape ih =>
    obtain ⟨hc, hd⟩ := Bool.and_eq_true_iff.mp hescape
    have hslash : isSyntax backslash = true := rfl
    have hrest := countP_unescape rest
    rw [beq_iff_eq.mp hc, beq_iff_eq.mp hd]
    simp only [List.countP_cons, hslash, if_true]
    omega
  | case4 c d rest hescape ih =>
    have hlt := ih ((hasEscape_cons hescape).mp h)
    simp only [List.countP_cons] at hlt ⊢
    omega

theorem countP_sanitize (s : List Char) :
    (Console.sanitize s).countP isSyntax = s.countP isSyntax := by
  rw [Console.sanitize, List.countP_filter]
  refine List.countP_congr fun c _ => ?_
  have hkept : isSyntax c = true → Console.isDropped c = false := by
    intro hc
    have hmem := List.contains_iff_mem.mp hc
    simp only [List.mem_cons, List.not_mem_nil, or_false] at hmem
    obtain rfl | rfl | rfl := hmem <;> rfl
  rw [Bool.and_eq_true_iff, Bool.not_eq_true']
  exact and_iff_left_of_imp hkept

def finished (opened : List Opened) (done : Styled) : Styled :=
  ⟨done.chars, inOrder (done.spans ++ opened.map fun o => ⟨o.start, done.chars.length, o.style⟩)⟩

theorem plain_text (s : List Char) (opened : List Opened) (done : Styled) :
    plain console opened done (textPiece s) = .ok (finished opened
      { done with chars := done.chars ++ Console.sanitize (Emoji.replace (unescape s)) }) := by
  cases s with
  | nil =>
    show Except.ok (finished opened done) = _
    rw [show Console.sanitize (Emoji.replace (unescape [])) = [] from rfl, List.append_nil]
  | cons c s => rfl

theorem countP_plain (h : plain console opened done ps = .ok shown) :
    shown.chars.countP isSyntax ≤ done.chars.countP isSyntax + weight ps := by
  induction ps generalizing opened done with
  | nil =>
    cases h
    exact Nat.le_add_right _ _
  | cons p ps ih =>
    cases p with
    | text s =>
      have hrest := ih h
      have hreplace := Emoji.countP_replace_le (unescape s)
      have hunescape := countP_unescape s
      have hweight : weight (.text s :: ps) = s.countP isSyntax + weight ps := by
        rw [← weight_text, ← weight_append]
        rfl
      rw [List.countP_append, countP_sanitize] at hrest
      omega
    | tag position name parameters =>
      have hweight : weight (.tag position name parameters :: ps) = weight ps := rfl
      rw [hweight]
      rw [plain] at h
      split at h
      · obtain ⟨closed, -, h⟩ := Run.exists_of_bind_eq_ok h
        obtain ⟨spans, -, h⟩ := Run.exists_of_bind_eq_ok h
        have hrest := ih h
        exact hrest
      · obtain ⟨style, -, h⟩ := Run.exists_of_bind_eq_ok h
        exact ih h

end Plain

theorem scan_of_untagged (h : ¬HasTag s) (position : Nat) :
    scan position [] none s = textPiece s := by
  cases cuts_whole position s with
  | whole _ hps => exact hps
  | parts htag _ => exact absurd htag h

theorem plain_of_isLiteral (h : IsLiteral s) (position : Nat) (opened : List Opened)
    (done : Styled) : plain console opened done (scan position [] none s) =
      .ok (finished opened { done with chars := done.chars ++ Console.sanitize s }) := by
  rw [scan_of_untagged h.untagged, plain_text, unescape_of_not_hasEscape h.unescaped,
    Emoji.replace_of_not_isNamedIn h.unnamed]

theorem countP_plain_lt (h : ¬IsLiteral s)
    (hshown : plain console opened done (scan position [] none s) = .ok shown) :
    shown.chars.countP isSyntax < done.chars.countP isSyntax + s.countP isSyntax := by
  by_cases htag : HasTag s
  · cases cuts_whole position s with
    | whole huntagged _ => exact absurd htag huntagged
    | parts _ hlt => exact Nat.lt_of_le_of_lt (countP_plain hshown) (Nat.add_lt_add_left hlt _)
  rw [scan_of_untagged htag, plain_text] at hshown
  obtain rfl := Except.ok.inj hshown
  show (done.chars ++ _).countP isSyntax < _
  rw [List.countP_append, countP_sanitize]
  refine Nat.add_lt_add_left ?_ _
  by_cases hescape : HasEscape s
  · exact Nat.lt_of_le_of_lt (Emoji.countP_replace_le _) (countP_unescape_lt hescape)
  · rw [unescape_of_not_hasEscape hescape]
    exact Emoji.countP_replace_lt (by_contra fun hnamed => h ⟨htag, hescape, hnamed⟩)

/-- Rendering leaves a text as it is just if it is literal. -/
theorem render_eq_self_iff (console : Console) :
    (render console s).map Styled.chars = .ok (Console.sanitize s) ↔ IsLiteral s := by
  constructor
  · intro h
    obtain ⟨shown, hshown, hchars⟩ := Run.exists_of_map_eq_ok h
    by_contra hnot
    have hlt := countP_plain_lt hnot hshown
    rw [hchars, countP_sanitize] at hlt
    exact Nat.lt_irrefl _ (Nat.lt_of_lt_of_eq hlt (Nat.zero_add _))
  · intro h
    rw [render, plain_of_isLiteral h]
    rfl

theorem isLiteral_cons (h : isSyntax c = false) : IsLiteral (c :: s) ↔ IsLiteral s := by
  have hne (d : Char) (hd : isSyntax d = true) : c ≠ d := by
    rintro rfl
    exact absurd hd (ne_true_of_eq_false h)
  have hescape : HasEscape (c :: s) ↔ HasEscape s :=
    hasEscape_cons fun hc => hne backslash rfl (beq_iff_eq.mp (Bool.and_eq_true_iff.mp hc).1)
  have htag : HasTag (c :: s) ↔ HasTag s := hasTag_cons (hne '[' rfl)
  have hnamed : Emoji.IsNamedIn (c :: s) ↔ Emoji.IsNamedIn s :=
    Emoji.isNamedIn_cons (hne ':' rfl)
  constructor
  · intro hs
    exact ⟨mt htag.mpr hs.untagged, mt hescape.mpr hs.unescaped, mt hnamed.mpr hs.unnamed⟩
  · intro hs
    exact ⟨mt htag.mp hs.untagged, mt hescape.mp hs.unescaped, mt hnamed.mp hs.unnamed⟩

end EmitBridge.Markup
