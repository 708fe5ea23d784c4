import EmitBridge.Cli.Status
import EmitBridge.Proofs.Markup.Console
import EmitBridge.Proofs.Markup.Literal

/-! Lines that tell a user how a command went, and the texts that come through in them as they are
written. -/

namespace EmitBridge

namespace Markup

variable {console : Console}

theorem scan_of_plain {s : List Char} (h : '[' ∉ s) (position : Nat) (before : List Char) :
    scan position before none s = textPiece (before ++ s) := by
  induction s generalizing position before with
  | nil => rw [scan, List.append_nil]
  | cons c rest ih =>
    have hc : (c == '[') = false := beq_false_of_ne fun e => h (e ▸ List.mem_cons_self)
    have hrest : '[' ∉ rest := fun hm => h (List.mem_cons_of_mem _ hm)
    rw [scan]
    simp only [hc, Bool.false_eq_true, if_false]
    rw [ih hrest, List.append_assoc, List.singleton_append]

structure IsStyleName (name : List Char) : Prop where
  trimmed : Text.trimChars name = name
  nonempty : name.isEmpty = false
  opens : (name.head? == some '/') = false
  sets : (name.head? == some '@') = false
  normal : Style.normalName name = .ok name
  read : ∃ s?, Style.read? name = .ok s?

theorem close_same {name : List Char} (h : IsStyleName name) (position start : Nat) :
    close position ('/' :: name) none [⟨start, name, none⟩] = .ok (⟨start, name, none⟩, []) := by
  have hfind : [Opened.mk start name none].find? (·.name == name) = some ⟨start, name, none⟩ :=
    List.find?_cons_of_pos (beq_self_eq_true name)
  have herase : [Opened.mk start name none].eraseP (·.name == name) = [] :=
    List.eraseP_cons_of_pos (beq_self_eq_true name)
  rw [close]
  simp only [List.tail_cons, h.trimmed, h.nonempty, Bool.false_eq_true, if_false, h.normal, bind,
    Except.bind, hfind, herase]
  rfl

theorem render_signed {head color sign s : List Char} {n m : Nat} (hcolor : IsStyleName color)
    (hscan : scan 0 [] none (head ++ s) =
      [.tag 0 color none, .text sign, .tag n ('/' :: color) none] ++ scan m [' '] none s)
    (hsign : Console.sanitize (Emoji.replace (unescape sign)) = sign) :
    render console (head ++ s) =
      plain console [] ⟨sign, [⟨0, sign.length, color⟩]⟩ (scan m [' '] none s) := by
  have hslash : (('/' :: color).head? == some '/') = true := rfl
  have hclosed : Opened.close console sign.length ⟨0, color, none⟩ =
      .ok [⟨0, sign.length, color⟩] := by
    rw [Opened.close, Opened.isAction, if_neg (ne_true_of_eq_false hcolor.sets)]
    rfl
  rw [render, hscan]
  simp only [List.cons_append, List.nil_append, plain, hcolor.opens, hcolor.normal, hslash, if_true,
    Bool.false_eq_true, if_false, bind, Except.bind, Styled.empty, hsign, List.length_nil,
    close_same hcolor, hclosed]

theorem isStyleName_of_word {name : List Char} (hwords : Color.splitWords name = [name])
    (hlower : Style.lower name = name) (htrim : Text.trimChars name = name)
    (hattribute : Style.attribute? name = none) (hrgb : Color.arguments? "rgb(".toList name = none)
    (hnonempty : name.isEmpty = false) (hopens : (name.head? == some '/') = false)
    (hsets : (name.head? == some '@') = false) : IsStyleName name := by
  obtain ⟨isColor, hcolor⟩ : ∃ b, Color.isColor name = .ok b := by
    unfold Color.isColor
    split
    · exact ⟨true, rfl⟩
    · rw [hrgb]
      exact ⟨false, rfl⟩
  have hread : Style.read? name =
      .ok (if isColor then some ⟨[], some name, none, none⟩ else none) := by
    rw [Style.read?, hwords, Style.readWords, hlower, hattribute]
    simp only [hcolor]
    rfl
  refine ⟨htrim, hnonempty, hopens, hsets, ?_, _, hread⟩
  rw [Style.normalName, hread]
  cases isColor with
  | true => rfl
  | false => exact congrArg Except.ok ((congrArg Style.lower htrim).trans hlower)

theorem isStyleName_green : IsStyleName "green".toList :=
  isStyleName_of_word (by decide) (by decide +kernel) (by decide) (by decide) (by decide)
    rfl rfl rfl

theorem allStyles_finished {p : List Char → Prop} {t : Styled} {opened : List Opened}
    (h : t.AllStyles p) (hopened : ∀ o ∈ opened, p o.style) : (finished opened t).AllStyles p := by
  intro s hs
  rw [finished, inOrder, List.mem_mergeSort, List.mem_reverse, List.mem_append] at hs
  rcases hs with hs | hs
  · exact h s hs
  · obtain ⟨o, ho, rfl⟩ := List.mem_map.mp hs
    exact hopened o ho

theorem checkStyles_finished {style chars : List Char} {start stop : Nat} (h : IsStyleName style) :
    console.checkStyles (finished [] ⟨chars, [⟨start, stop, style⟩]⟩) = .ok () :=
  Console.checkStyles_of_readable
    (allStyles_finished (fun _ hs => List.mem_singleton.mp hs ▸ h.read) nofun)

end Markup

namespace Status

open Text Console

variable {console : Console} {s : List Char} {message text : String}

section Displayed

theorem isControl_of_isDropped {c : Char} (h : isDropped c = true) : IsControl c := by
  have hmem := List.contains_iff_mem.mp h
  simp only [List.mem_cons, List.not_mem_nil, or_false] at hmem
  exact .inl (by omega)

theorem sanitize_of_not_isControl (h : ∀ c ∈ s, ¬IsControl c) : sanitize s = s := by
  refine List.filter_eq_self.mpr fun c hc => ?_
  rw [Bool.not_eq_true']
  exact eq_false_of_ne_true fun hdropped => h c hc (isControl_of_isDropped hdropped)

theorem shown_of_not_isControl (console : Console) {t : Styled} (h : ∀ c ∈ t.chars, ¬IsControl c) :
    console.shown t = t.chars.take (t.chars.length - console.excess t.chars) :=
  shown_of_line (notMem_of_isControl h (by decide)) (notMem_of_isControl h (by decide))

theorem displayed_of_not_isControl (h : ∀ c ∈ s, ¬IsControl c) :
    displayed console s = s.take (s.length - console.excess s) := by
  rw [displayed, sanitize_of_not_isControl h]
  exact shown_of_not_isControl console (t := ⟨s, []⟩) h

theorem countP_displayed (console : Console) (s : List Char) :
    (displayed console s).countP isSyntax ≤ s.countP isSyntax := by
  rw [displayed, ← Markup.countP_sanitize s]
  exact countP_shown (t := ⟨sanitize s, []⟩) rfl rfl rfl

end Displayed

theorem take_append_take_eq_iff {s t : List Char} {m n : Nat} (hm : m ≤ s.length)
    (hn : n ≤ t.length) :
    s.take (s.length - m) ++ t.take (t.length - n) = s ++ t ↔ m = 0 ∧ n = 0 := by
  constructor
  · intro h
    have hlength := congrArg List.length h
    simp only [List.length_append, List.length_take] at hlength
    omega
  · rintro ⟨rfl, rfl⟩
    rw [Nat.sub_zero, Nat.sub_zero, List.take_length, List.take_length]

theorem error_eq_iff (h : ∀ c ∈ text.toList, ¬IsControl c) :
    error console text = "✗ " ++ text ++ "\n" ↔ ¬Emoji.IsNamedIn text.toList ∧
      console.Keeps "✗ ".toList ∧ console.Keeps text.toList := by
  have hsign : ∀ c ∈ "✗ ".toList, ¬IsControl c := by simp [IsControl]
  have hline : error console text = "✗ " ++ text ++ "\n" ↔
      displayed console "✗ ".toList ++ displayed console (Emoji.replace text.toList) =
        "✗ ".toList ++ text.toList := by
    rw [error, ← String.toList_inj, String.toList_ofList, String.toList_append,
      String.toList_append]
    exact List.append_left_inj _
  rw [hline, ← excess_eq_zero_iff, ← excess_eq_zero_iff]
  by_cases hnamed : Emoji.IsNamedIn text.toList
  · refine iff_of_false (fun htold => ?_) fun hno => hno.1 hnamed
    have hlt := Emoji.countP_replace_lt hnamed
    have hle := countP_displayed console (Emoji.replace text.toList)
    have hsignle := countP_displayed console "✗ ".toList
    have hcount := congrArg (List.countP isSyntax) htold
    simp only [List.countP_append] at hcount
    omega
  · rw [Emoji.replace_of_not_isNamedIn hnamed, and_iff_right hnamed,
      displayed_of_not_isControl hsign, displayed_of_not_isControl h]
    exact take_append_take_eq_iff (excess_le _) (excess_le _)

theorem success_eq (message : String) : success console message =
    Markup.plain console [] ⟨['✓'], [⟨0, 1, "green".toList⟩]⟩
      (Markup.scan 16 [] none (' ' :: message.toList)) >>= fun t =>
        (fun shown => String.ofList (shown ++ ['\n'])) <$> console.print t := by
  have hscan : Markup.scan 0 [] none
      (("[" ++ "green" ++ "]" ++ "✓" ++ "[/" ++ "green" ++ "] ").toList ++ message.toList) =
        [.tag 0 "green".toList none, .text ['✓'], .tag 8 ('/' :: "green".toList) none] ++
          Markup.scan 17 [' '] none message.toList := rfl
  rw [success, signed, String.toList_append,
    Markup.render_signed Markup.isStyleName_green hscan rfl]
  rfl

theorem exists_signed {color sign : String} {n m : Nat} (h : '[' ∉ message.toList)
    (hcolor : Markup.IsStyleName color.toList)
    (hscan : Markup.scan 0 [] none (("[" ++ color ++ "]" ++ sign ++ "[/" ++ color ++ "] ").toList
        ++ message.toList) =
      [.tag 0 color.toList none, .text sign.toList, .tag n ('/' :: color.toList) none] ++
        Markup.scan m [' '] none message.toList)
    (hsign : sanitize (Emoji.replace (Markup.unescape sign.toList)) = sign.toList) :
    ∃ line, signed console color sign message = .ok line := by
  rw [signed, String.toList_append, Markup.render_signed hcolor hscan hsign,
    Markup.scan_of_plain h, Markup.plain_text]
  simp only [bind, Except.bind, print, Markup.checkStyles_finished hcolor]
  exact ⟨_, rfl⟩

theorem exists_success (h : '[' ∉ message.toList) : ∃ line, success console message = .ok line :=
  exists_signed h Markup.isStyleName_green rfl rfl

theorem success_of_isLiteral (h : ∀ c ∈ message.toList, ¬IsControl c)
    (hliteral : Markup.IsLiteral message.toList) : success console message =
      .ok (String.ofList (('✓' :: ' ' :: message.toList).take
        (('✓' :: ' ' :: message.toList).length -
          console.excess ('✓' :: ' ' :: message.toList)) ++ ['\n'])) := by
  have hplain : ∀ c ∈ '✓' :: ' ' :: message.toList, ¬IsControl c := by
    have hsign : ∀ c ∈ ['✓', ' '], ¬IsControl c := by simp [IsControl]
    exact List.forall_mem_append.mpr ⟨hsign, h⟩
  have hblank : Markup.IsLiteral (' ' :: message.toList) := (Markup.isLiteral_cons rfl).mpr hliteral
  have hchars : sanitize (' ' :: message.toList) = ' ' :: message.toList :=
    sanitize_of_not_isControl (List.forall_mem_cons.mp hplain).2
  have hshown := shown_of_not_isControl console
    (t := Markup.finished [] ⟨'✓' :: ' ' :: message.toList, [⟨0, 1, "green".toList⟩]⟩) hplain
  rw [success_eq, Markup.plain_of_isLiteral hblank, hchars]
  simp only [bind, Except.bind, print, List.cons_append, List.nil_append,
    Markup.checkStyles_finished Markup.isStyleName_green, hshown]
  rfl

theorem line_eq_iff (shown : List Char) (text : String) :
    String.ofList (shown ++ ['\n']) = "✓ " ++ text ++ "\n" ↔ shown = '✓' :: ' ' :: text.toList := by
  rw [← String.toList_inj, String.toList_ofList, String.toList_append, String.toList_append]
  exact List.append_left_inj _

theorem take_excess_eq_iff (console : Console) {s : List Char} {text : String}
    (hblank : text.toList.countP isBlank = s.countP isBlank) :
    ('✓' :: ' ' :: s).take (('✓' :: ' ' :: s).length - console.excess ('✓' :: ' ' :: s)) =
        '✓' :: ' ' :: text.toList ↔
      text.toList = s ∧ console.excess ('✓' :: ' ' :: s) = 0 := by
  constructor
  · intro htold
    -- the line has all the blanks of the message, of which some would be cut off
    have hcount := countP_take_excess console ('✓' :: ' ' :: s)
    rw [htold] at hcount
    simp only [List.countP_cons, hblank] at hcount
    have hnone : console.excess ('✓' :: ' ' :: s) = 0 := by omega
    rw [hnone, Nat.sub_zero, List.take_length] at htold
    exact ⟨(List.cons.inj (List.cons.inj htold).2).2.symm, hnone⟩
  · rintro ⟨htext, hnone⟩
    rw [hnone, Nat.sub_zero, List.take_length, htext]

theorem success_ne_of_not_isLiteral (hliteral : ¬Markup.IsLiteral message.toList)
    (hmarks : text.toList.countP isSyntax = message.toList.countP isSyntax) :
    success console message ≠ .ok ("✓ " ++ text ++ "\n") := by
  intro hsuccess
  rw [success_eq] at hsuccess
  obtain ⟨t, ht, hprint⟩ := Run.exists_of_bind_eq_ok hsuccess
  obtain ⟨shown, hshown, htold⟩ := Run.exists_of_map_eq_ok hprint
  obtain ⟨-, -, hshown⟩ := Run.exists_of_bind_eq_ok hshown
  obtain rfl := Except.ok.inj hshown
  have htold := (line_eq_iff _ text).mp htold
  -- the line has all the syntax of the message, of which some is lost
  have hlt := Markup.countP_plain_lt (mt (Markup.isLiteral_cons rfl).mp hliteral) ht
  have hle : (console.shown t).countP isSyntax ≤ t.chars.countP isSyntax :=
    countP_shown rfl rfl rfl t
  have hsign : isSyntax '✓' = false := rfl
  have hspace : isSyntax ' ' = false := rfl
  rw [htold] at hle
  simp only [List.countP_cons, List.countP_nil, hsign, hspace, Bool.false_eq_true,
    if_false] at hlt hle
  omega

/-- A success is told as a text just if this text is its message, the message is literal, and
nothing is cut off. The text may differ from the message, but not in how much syntax and how many
blanks it has. -/
theorem success_eq_ok_iff (h : ∀ c ∈ message.toList, ¬IsControl c)
    (hmarks : text.toList.countP isSyntax = message.toList.countP isSyntax)
    (hblank : text.toList.countP isBlank = message.toList.countP isBlank) :
    success console message = .ok ("✓ " ++ text ++ "\n") ↔ text = message ∧
      Markup.IsLiteral message.toList ∧ console.Keeps ("✓ " ++ message).toList := by
  have hwhole : ("✓ " ++ message).toList = '✓' :: ' ' :: message.toList := by
    rw [String.toList_append]
    rfl
  rw [← excess_eq_zero_iff, hwhole]
  by_cases hliteral : Markup.IsLiteral message.toList
  · rw [success_of_isLiteral h hliteral, and_iff_right hliteral]
    refine Iff.trans ⟨Except.ok.inj, congrArg Except.ok⟩ ((line_eq_iff _ text).trans ?_)
    rw [take_excess_eq_iff console hblank, String.toList_inj]
  · exact iff_of_false (success_ne_of_not_isLiteral hliteral hmarks) fun hall => hliteral hall.2.1

end Status

end EmitBridge
