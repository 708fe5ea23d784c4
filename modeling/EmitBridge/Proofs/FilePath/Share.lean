import EmitBridge.Proofs.FilePath.Host

/-! Absolute paths with drives. Their normal form has a separator and names behind a letter or a
share, and is read as just these. -/

namespace EmitBridge.Win32Path

variable {s server share drive rest : List Char} {names : List (List Char)} {c : Char}

theorem isSlash_eq_false_iff : isSlash c = false ↔ c ≠ '/' ∧ c ≠ separator := by
  simp [isSlash]

theorem unified_of_notMem (h : '/' ∉ s) : unified s = s := by
  refine (List.map_congr_left fun c hc => ?_).trans (List.map_id s)
  have hslash : c ≠ '/' := fun he => h (he ▸ hc)
  simp [hslash]

theorem notMem_of_plain (h : ∀ c ∈ s, isSlash c = false) : '/' ∉ s ∧ separator ∉ s :=
  ⟨fun hm => absurd (h _ hm) (by decide), fun hm => absurd (h _ hm) (by decide)⟩

theorem unified_of_plain (h : ∀ c ∈ s, isSlash c = false) : unified s = s :=
  unified_of_notMem (notMem_of_plain h).1

theorem unified_cons_plain (hc : isSlash c = false) (s : List Char) :
    unified (c :: s) = c :: unified s := by
  have hkept : (if c == '/' then separator else c) = c :=
    if_neg (by simpa using (isSlash_eq_false_iff.mp hc).1)
  simp only [unified, List.map_cons, hkept]

theorem unified_cons_slash (hc : isSlash c = true) (s : List Char) :
    unified (c :: s) = separator :: unified s := by
  have hroot : (if c == '/' then separator else c) = separator := by
    rcases (Bool.or_eq_true _ _).mp hc with h | h
    · rw [if_pos h]
    · rw [beq_iff_eq.mp h]
      rfl
  simp only [unified, List.map_cons, hroot]

theorem isSlash_of_isLetter (hc : isLetter c = true) : isSlash c = false := by
  rw [isSlash_eq_false_iff]
  constructor <;> (rintro rfl; cases hc)

theorem unified_append (s t : List Char) : unified (s ++ t) = unified s ++ unified t :=
  List.map_append

def below (rest : List Char) : List (List Char) :=
  (Cut.all separator (rest.dropWhile (· == separator))).foldl (PosixPath.step true) []

def AreNames (names : List (List Char)) : Prop :=
  ∀ t ∈ names, PosixPath.IsName t ∧ separator ∉ t

theorem areNames_below (h : '/' ∉ rest) : AreNames (below rest) := by
  have hpiece : ∀ t ∈ Cut.all separator (rest.dropWhile (· == separator)), '/' ∉ t :=
    fun t ht hm => h ((List.dropWhile_sublist _).subset (Cut.subset_of_mem_all ht hm))
  intro t ht
  refine ⟨PosixPath.isName_foldl_step (fun _ hm => absurd hm List.not_mem_nil) hpiece t ht, ?_⟩
  rcases PosixPath.mem_foldl_step ht with hnone | hm
  · exact absurd hnone List.not_mem_nil
  · exact Cut.notMem_of_mem_all hm

theorem AreNames.pieces (h : AreNames names) : ∀ t ∈ names, t ≠ [] ∧ separator ∉ t := by
  refine fun t ht => ⟨?_, (h t ht).2⟩
  rintro rfl
  exact absurd (h [] ht).1.1.1 (by decide)

theorem AreNames.segments (h : AreNames names) : ∀ t ∈ names, t ≠ [] ∧ '/' ∉ t :=
  fun t ht => ⟨(h.pieces t ht).1, (h t ht).1.1.2⟩

theorem AreNames.notMem_join (h : AreNames names) : '/' ∉ Cut.join separator names := by
  intro hm
  rcases Cut.mem_join hm with hsep | ⟨t, ht, hc⟩
  · exact absurd hsep (by decide)
  · exact (h t ht).1.1.2 hc

theorem AreNames.unified_join (h : AreNames names) :
    unified (Cut.join '/' names) = Cut.join separator names := by
  refine @Cut.map_join '/' _ _ fun t ht c hc => ?_
  have hslash : c ≠ '/' := fun he => (h t ht).1.1.2 (he ▸ hc)
  simp [hslash]

theorem AreNames.posix_join (h : AreNames names) :
    (Cut.join separator names).map (fun c => if c == separator then '/' else c) =
      Cut.join '/' names := by
  refine @Cut.map_join separator _ _ fun t ht c hc => ?_
  have hsep : c ≠ separator := fun he => (h t ht).2 (he ▸ hc)
  simp [hsep]

def onDrive (drive : List Char) (names : List (List Char)) : Win32Path :=
  ⟨String.ofList drive, "\\", names.map String.ofList⟩

theorem isEmpty_of_drive (hne : drive ≠ []) : (String.ofList drive).isEmpty = false := by
  rw [Url.isEmpty_eq_toList, String.toList_ofList, List.isEmpty_eq_false_iff]
  exact hne

theorem isAbsolute_onDrive (hne : drive ≠ []) (names : List (List Char)) :
    (onDrive drive names).isAbsolute = true := by
  rw [isAbsolute, onDrive, isEmpty_of_drive hne]
  rfl

theorem segments_onDrive (hne : drive ≠ []) (names : List (List Char)) :
    (onDrive drive names).segments = (String.ofList drive ++ "\\") :: names.map String.ofList := by
  rw [segments, onDrive, isEmpty_of_drive hne]
  rfl

theorem toPosixChars_onDrive (h : AreNames names) (drive : List Char) :
    (onDrive drive names).toPosixChars =
      drive.map (fun c => if c == separator then '/' else c) ++ '/' :: Cut.join '/' names := by
  have hchars : (onDrive drive names).toChars =
      drive ++ separator :: Cut.join separator names := by
    have hroot : "\\".toList = [separator] := rfl
    rw [toChars, onDrive]
    simp [hroot, Function.comp_def]
  rw [toPosixChars, hchars, List.map_append, List.map_cons, h.posix_join]
  rfl

theorem ofChars_of_splitRoot (h : AreNames names)
    (hs : splitRoot (unified s) = (drive, [separator], Cut.join separator names)) :
    ofChars s = onDrive drive names := by
  have hparts : (Cut.all separator (Cut.join separator names)).filter PosixPath.isProper = names :=
    PosixPath.filter_all_join rfl (fun t ht => (h t ht).1.1.1) fun t ht => (h t ht).2
  rw [ofChars, hs]
  simp only [hparts]
  rfl

theorem normal_eq (s : List Char) :
    normal s =
      let d := splitDrive (unified s)
      let front := if d.2.head? == some separator then d.1 ++ [separator] else d.1
      let segments := (Cut.all separator (if d.2.head? == some separator
        then d.2.dropWhile (· == separator) else d.2)).foldl
          (PosixPath.step (front.getLast? == some separator)) []
      if front.isEmpty && segments.isEmpty then ['.']
      else front ++ Cut.join separator segments := rfl

theorem normal_of_rooted (h : splitDrive (unified s) = (drive, separator :: rest)) :
    normal s = drive ++ separator :: Cut.join separator (below (separator :: rest)) := by
  have hlast : (drive ++ [separator]).getLast? = some separator := List.getLast?_concat
  rw [normal_eq, h]
  simp [hlast, below]

theorem normal_of_bare (hne : drive ≠ []) (hlast : drive.getLast? ≠ some separator)
    (h : splitDrive (unified s) = (drive, [])) : normal s = drive := by
  have hrooted : (drive.getLast? == some separator) = false := beq_false_of_ne hlast
  have hnone : (Cut.all separator []).foldl (PosixPath.step false) [] = [] := rfl
  have hjoin : Cut.join separator [] = [] := rfl
  rw [normal_eq, h]
  simp [hrooted, hne, hnone, hjoin]

section Letter

theorem splitDrive_letter (hc : isLetter c) (hrest : '/' ∉ rest) :
    splitDrive (c :: ':' :: rest) = ([c, ':'], rest) := by
  obtain ⟨hslash, hsep⟩ := isSlash_eq_false_iff.mp (isSlash_of_isLetter hc)
  have hunified : unified (c :: ':' :: rest) = c :: ':' :: rest :=
    unified_of_notMem (by simp [hslash.symm, hrest])
  unfold splitDrive
  simp [hunified, hsep]

theorem normal_of_letter {d : Char} (hc : isLetter c) (hd : isSlash d) (rest : List Char) :
    ∃ names, AreNames names ∧
      normal (c :: ':' :: d :: rest) = c :: ':' :: separator :: Cut.join separator names := by
  have hunified : unified (c :: ':' :: d :: rest) = c :: ':' :: separator :: unified rest := by
    rw [unified_cons_plain (isSlash_of_isLetter hc), unified_cons_plain rfl, unified_cons_slash hd]
  have hno : '/' ∉ separator :: unified rest := by
    simpa [separator] using notMem_unified rest
  have hdrive : splitDrive (unified (c :: ':' :: d :: rest)) =
      ([c, ':'], separator :: unified rest) := by
    rw [hunified]
    exact splitDrive_letter hc hno
  exact ⟨below (separator :: unified rest), areNames_below hno, normal_of_rooted hdrive⟩

theorem ofChars_of_letter {d : Char} (hc : isLetter c) (h : AreNames names)
    (htail : unified (d :: rest) = separator :: Cut.join separator names) :
    ofChars (c :: ':' :: d :: rest) = onDrive [c, ':'] names := by
  refine ofChars_of_splitRoot h ?_
  have hdrop : (separator :: Cut.join separator names).dropWhile (· == separator) =
      Cut.join separator names := by
    rw [List.dropWhile_cons, if_pos (beq_self_eq_true separator), Cut.dropWhile_join h.pieces]
  rw [splitRoot_letter hc, htail, hdrop]
  rfl

theorem segments_letter (hc : isLetter c) (rest : List Char) : ∃ root parts,
    (ofChars (c :: ':' :: rest)).segments = String.ofList (c :: ':' :: root) :: parts := by
  have hdrive : (String.ofList [c, ':']).isEmpty = false := isEmpty_of_drive (List.cons_ne_nil _ _)
  rw [ofChars, splitRoot_letter hc, segments, hdrive]
  refine ⟨_, _, congrArg (· :: _) String.ofList_append.symm⟩

end Letter

section Share

variable {after : List Char}

def shareText (server share : List Char) : List Char :=
  separator :: separator :: (server ++ separator :: share)

theorem shareText_ne_nil (server share : List Char) : shareText server share ≠ [] :=
  List.cons_ne_nil _ _

/-- A server and a share that are read as such. A question mark alone marks a device. -/
structure IsShare (server share : List Char) : Prop where
  server_ne_nil : server ≠ []
  server_plain : ∀ c ∈ server, isSlash c = false
  share_ne_nil : share ≠ []
  share_plain : ∀ c ∈ share, isSlash c = false
  notDevice : server ≠ ['?']

theorem findIdx?_of_notMem (h : separator ∉ s) : s.findIdx? (· == separator) = none := by
  rw [List.findIdx?_eq_none_iff]
  exact fun c hc => beq_false_of_ne fun he => h (he ▸ hc)

theorem find_of_notMem {start : Nat} (h : separator ∉ s.drop start) : find s start = none := by
  rw [find, findIdx?_of_notMem h]
  rfl

theorem find_append {front : List Char} {start : Nat} (hstart : start ≤ front.length)
    (h : separator ∉ front.drop start) (rest : List Char) :
    find (front ++ separator :: rest) start = some front.length := by
  have hplace : (separator :: rest).findIdx? (· == separator) = some 0 := by
    rw [List.findIdx?_cons, if_pos (beq_self_eq_true separator)]
  rw [find, List.drop_append_of_le_length hstart, List.findIdx?_append, findIdx?_of_notMem h,
    hplace]
  simp [Nat.add_sub_cancel' hstart]

theorem eq_of_toUpper {c d : Char} (hd : d.isUpper = false) (h : c.toUpper = d) : c = d := by
  by_cases hlower : c.val ≥ 'a'.val ∧ c.val ≤ 'z'.val
  · have hall : ∀ n < 26, (Char.ofNat (97 + n)).toUpper.isUpper = true := by decide
    have hlow : 97 ≤ c.toNat := UInt32.le_iff_toNat_le.1 hlower.1
    have hhigh : c.toNat ≤ 122 := UInt32.le_iff_toNat_le.1 hlower.2
    have hupper : c.toUpper.isUpper = true :=
      of_toNat_range (p := fun c => c.toUpper.isUpper = true) hall hlow (by omega)
    rw [h, hd] at hupper
    cases hupper
  · have hsame : c.toUpper = c := dif_neg hlower
    rw [← hsame, h]

namespace IsShare

theorem unified_text {a b d : Char} (h : IsShare server share) (ha : isSlash a = true)
    (hb : isSlash b = true) (hd : isSlash d = true) (rest : List Char) :
    unified (a :: b :: (server ++ d :: (share ++ rest))) =
      shareText server share ++ unified rest := by
  rw [unified_cons_slash ha, unified_cons_slash hb, unified_append, unified_cons_slash hd,
    unified_append, unified_of_plain h.server_plain, unified_of_plain h.share_plain]
  simp [shareText]

theorem unified_shareText (h : IsShare server share) :
    unified (shareText server share) = shareText server share := by
  have hunified := h.unified_text (a := separator) (b := separator) (d := separator) rfl rfl rfl []
  have hnil : unified [] = [] := rfl
  rwa [hnil, List.append_nil, List.append_nil] at hunified

theorem find_server (h : IsShare server share) (after : List Char) :
    find (shareText server share ++ after) 2 = some (server.length + 2) := by
  have hstart : 2 ≤ (separator :: separator :: server).length := Nat.le_add_left 2 _
  have hfound := find_append hstart (notMem_of_plain h.server_plain).2 (share ++ after)
  simpa [shareText] using hfound

theorem drop_server (server share : List Char) :
    (shareText server share).drop (server.length + 3) = share := by
  have htext : shareText server share =
      (separator :: separator :: (server ++ [separator])) ++ share := by
    simp [shareText]
  rw [htext, List.drop_left' (by simp)]

theorem find_end (h : IsShare server share) :
    find (shareText server share) (server.length + 3) = none := by
  refine find_of_notMem ?_
  rw [drop_server]
  exact (notMem_of_plain h.share_plain).2

theorem find_share (h : IsShare server share) (rest : List Char) :
    find (shareText server share ++ separator :: rest) (server.length + 3) =
      some (shareText server share).length := by
  refine find_append (by simp [shareText]) ?_ rest
  rw [drop_server]
  exact (notMem_of_plain h.share_plain).2

theorem take_ne_marker (h : IsShare server share) (after : List Char) {f : Char → Char}
    (hmark : ∀ c, f c = '?' → c = '?') (hsep : ∀ c, f c = separator → c = separator) (n : Nat)
    (tail : List Char) : ((shareText server share ++ after).take (n + 4)).map f ≠
      separator :: separator :: '?' :: separator :: tail := by
  intro he
  obtain ⟨a, server, rfl⟩ := List.exists_cons_of_ne_nil h.server_ne_nil
  cases server with
  | nil =>
    have ha : f a = '?' := by
      simp only [shareText, List.cons_append, List.take_succ_cons, List.map_cons,
        List.cons.injEq] at he
      exact he.2.2.1
    exact h.notDevice (by rw [hmark a ha])
  | cons b server =>
    have hb : f b = separator := by
      simp only [shareText, List.cons_append, List.take_succ_cons, List.map_cons,
        List.cons.injEq] at he
      exact he.2.2.2.1
    have hplain := h.server_plain b (by simp)
    rw [hsep b hb] at hplain
    cases hplain

theorem splitShare? (h : IsShare server share)
    (hafter : after = [] ∨ ∃ rest, after = separator :: rest) :
    splitShare? (shareText server share ++ after) =
      some (shareText server share, after.drop 1) := by
  have hguard : ((shareText server share ++ after).take 2 != [separator, separator] ||
      (shareText server share ++ after).getD 2 ' ' == separator) = false := by
    obtain ⟨a, server, rfl⟩ := List.exists_cons_of_ne_nil h.server_ne_nil
    have ha : a ≠ separator := (isSlash_eq_false_iff.mp (h.server_plain a List.mem_cons_self)).2
    simp [shareText, ha]
  rw [Win32Path.splitShare?, hguard, h.find_server]
  rcases hafter with rfl | ⟨rest, rfl⟩
  · simp [h.find_end]
  · have hlength : (shareText server share).length ≠ server.length + 3 := by
      have hpos : 0 < share.length := List.length_pos_of_ne_nil h.share_ne_nil
      simp only [shareText, List.length_cons, List.length_append]
      omega
    simp [h.find_share, hlength]

theorem splitRoot (h : IsShare server share)
    (hafter : after = [] ∨ ∃ rest, after = separator :: rest) :
    splitRoot (shareText server share ++ after) =
      (shareText server share, [separator], after.drop 1) := by
  have htwo : ((shareText server share ++ after).take 2 == [separator, separator]) = true := rfl
  have hextended : splitExtended (shareText server share ++ after) =
      ([], shareText server share ++ after) := by
    have hmarker := h.take_ne_marker after (f := id) (fun _ => id) (fun _ => id) 0 []
    rw [List.map_id] at hmarker
    exact if_neg fun he => hmarker (beq_iff_eq.mp he)
  rw [splitRoot_eq, htwo]
  simp only [if_true, hextended, h.splitShare? hafter]
  rfl

theorem splitDrive (h : IsShare server share) (hno : '/' ∉ after)
    (hafter : after = [] ∨ ∃ rest, after = separator :: rest) :
    splitDrive (shareText server share ++ after) = (shareText server share, after) := by
  have hunified : unified (shareText server share ++ after) = shareText server share ++ after := by
    rw [unified_append, h.unified_shareText, unified_of_notMem hno]
  have htwo : ((shareText server share ++ after).take 2 == [separator, separator]) = true := rfl
  have hmarker : (upperAscii ((shareText server share ++ after).take 8) ==
      "\\\\?\\UNC\\".toList) = false := by
    have hmark : ∀ c : Char, c.toUpper = '?' → c = '?' := fun _ => eq_of_toUpper (by decide)
    have hsep : ∀ c : Char, c.toUpper = separator → c = separator :=
      fun _ => eq_of_toUpper (by decide)
    exact beq_false_of_ne (h.take_ne_marker after hmark hsep 4 _)
  -- the server is found between the second slash and the third, the share before the fourth
  unfold Win32Path.splitDrive
  simp only [hunified, htwo, hmarker, if_true, Bool.false_eq_true, if_false, h.find_server]
  rcases hafter with rfl | ⟨rest, rfl⟩
  · simp [h.find_end]
  · simp [h.find_share]

theorem ofChars (h : IsShare server share) (hnames : AreNames names)
    (hs : unified s = shareText server share ++ separator :: Cut.join separator names) :
    ofChars s = onDrive (shareText server share) names := by
  refine ofChars_of_splitRoot hnames ?_
  rw [hs, h.splitRoot (.inr ⟨_, rfl⟩)]
  rfl

theorem ofChars_normal (h : IsShare server share) (hno : '/' ∉ after)
    (hafter : after = [] ∨ ∃ rest, after = separator :: rest)
    (hs : unified s = shareText server share ++ after) :
    ∃ names, AreNames names ∧
      Win32Path.ofChars (normal s) = onDrive (shareText server share) names := by
  have hdrive : Win32Path.splitDrive (unified s) = (shareText server share, after) := by
    rw [hs]
    exact h.splitDrive hno hafter
  rcases hafter with rfl | ⟨rest, rfl⟩
  · -- the normal form is the share alone, which is read with a root all the same
    have hlast : (shareText server share).getLast? ≠ some separator := by
      obtain ⟨c, hc⟩ := List.getLast?_isSome.mpr h.share_ne_nil |> Option.isSome_iff_exists.mp
      have hlast : (shareText server share).getLast? = some c := by
        rw [shareText, List.getLast?_cons, List.getLast?_cons, List.getLast?_append,
          List.getLast?_cons, hc]
        rfl
      rw [hlast]
      rintro ⟨⟩
      exact (notMem_of_plain h.share_plain).2 (List.mem_of_getLast? hc)
    refine ⟨[], nofun, ofChars_of_splitRoot (fun _ hm => absurd hm List.not_mem_nil) ?_⟩
    have hroot : Win32Path.splitRoot (shareText server share ++ []) =
        (shareText server share, [separator], []) := h.splitRoot (.inl rfl)
    rw [List.append_nil] at hroot
    have hbare : normal s = shareText server share :=
      normal_of_bare (List.cons_ne_nil _ _) hlast hdrive
    rw [hbare, h.unified_shareText, hroot]
    rfl
  · have hnames : AreNames (below (separator :: rest)) := areNames_below hno
    refine ⟨below (separator :: rest), hnames, h.ofChars hnames ?_⟩
    have htail : unified (separator :: Cut.join separator (below (separator :: rest))) =
        separator :: Cut.join separator (below (separator :: rest)) :=
      unified_of_notMem (by simpa [separator] using hnames.notMem_join)
    rw [normal_of_rooted hdrive, unified_append, h.unified_shareText, htail]

end IsShare

theorem exists_share {d : Char} (hd : isSlash d = true) (hc : isSlash c = false)
    (hplain : ∀ e ∈ server, isSlash e = false) (rest : List Char) : ∃ share after,
      unified (separator :: separator :: (server ++ d :: c :: rest)) =
        shareText server share ++ after ∧ share ≠ [] ∧ (∀ e ∈ share, isSlash e = false) ∧
      '/' ∉ after ∧ (after = [] ∨ ∃ more, after = separator :: more) := by
  have hsep : c ≠ separator := (isSlash_eq_false_iff.mp hc).2
  -- a slash of either kind ends the share
  let share := (unified (c :: rest)).takeWhile (· != separator)
  let after := (unified (c :: rest)).dropWhile (· != separator)
  have hsplit : share ++ after = unified (c :: rest) := List.takeWhile_append_dropWhile
  have hno : '/' ∉ share ++ after := hsplit ▸ notMem_unified (c :: rest)
  refine ⟨share, after, ?_, ?_, ?_, fun hm => hno (List.mem_append_right _ hm), ?_⟩
  · rw [unified_cons_slash rfl, unified_cons_slash rfl, unified_append, unified_cons_slash hd,
      unified_of_plain hplain, ← hsplit]
    simp [shareText]
  · have hpos : share = c :: (unified rest).takeWhile (· != separator) := by
      show (unified (c :: rest)).takeWhile _ = _
      rw [unified_cons_plain hc, List.takeWhile_cons, if_pos (by simpa using hsep)]
    rw [hpos]
    exact List.cons_ne_nil _ _
  · intro e he
    refine isSlash_eq_false_iff.mpr ⟨?_, ?_⟩
    · rintro rfl
      exact hno (List.mem_append_left _ he)
    · simpa using List.mem_takeWhile_imp he
  · cases hafter : after with
    | nil => exact .inl rfl
    | cons e more =>
      have hstop := List.head?_dropWhile_not (fun c => c != separator) (unified (c :: rest))
      have hsame : (unified (c :: rest)).dropWhile (fun c => c != separator) = e :: more := hafter
      rw [hsame] at hstop
      obtain rfl : e = separator := by simpa using hstop
      exact .inr ⟨more, rfl⟩

theorem isAbsoluteText_cases (h : isAbsoluteText s = true) :
    (∃ c d rest, s = c :: ':' :: d :: rest ∧ isLetter c = true ∧ isSlash d = true) ∨
    ∃ server c d rest, s = separator :: separator :: (server ++ d :: c :: rest) ∧ server ≠ [] ∧
      (∀ e ∈ server, isSlash e = false) ∧ isSlash d = true ∧ isSlash c = false := by
  unfold isAbsoluteText at h
  split at h
  · next rest =>
    right
    have hsplit : rest.takeWhile (fun c => !isSlash c) ++ rest.dropWhile (fun c => !isSlash c) =
        rest := List.takeWhile_append_dropWhile
    have hdrop : rest.drop (rest.takeWhile fun c => !isSlash c).length =
        rest.dropWhile fun c => !isSlash c := by
      have hleft : (rest.takeWhile (fun c => !isSlash c) ++ rest.dropWhile fun c => !isSlash c).drop
          (rest.takeWhile fun c => !isSlash c).length = rest.dropWhile fun c => !isSlash c :=
        List.drop_left
      rwa [hsplit] at hleft
    simp only [hdrop] at h
    split at h
    · next d c more hcases =>
      have hd : isSlash d = true := by
        have hstop := List.head?_dropWhile_not (fun c => !isSlash c) rest
        rw [hcases] at hstop
        simpa using hstop
      have hboth : rest.takeWhile (fun c => !isSlash c) ≠ [] ∧ isSlash c = false := by
        simpa using h
      refine ⟨rest.takeWhile fun c => !isSlash c, c, d, more, ?_, hboth.1, fun e he => ?_, hd,
        hboth.2⟩
      · rw [← hcases, hsplit]
        rfl
      · simpa using List.mem_takeWhile_imp he
    · cases h
  · next c d rest =>
    simp only [Bool.and_eq_true] at h
    exact .inl ⟨c, d, rest, rfl, h⟩
  · cases h

end Share

end EmitBridge.Win32Path
