import EmitBridge.Proofs.FilePath.Uri

/-! The addresses of paths with drives. A drive letter stands in the path of the address, and a
server is its authority. -/

namespace EmitBridge

open Percent

namespace Win32Path

def IsDrive (drive : List Char) : Prop :=
  drive = [] ∨ (∃ c, isLetter c ∧ drive = [c, ':']) ∨ ∃ rest, drive = '\\' :: '\\' :: rest

theorem take_two {s : List Char} (h : (s.take 2 == [separator, separator]) = true) :
    ∃ rest, s = '\\' :: '\\' :: rest := by
  match s with
  | [] => cases h
  | [_] => simp at h
  | a :: b :: rest =>
    simp only [List.take_succ_cons, List.take_zero, beq_iff_eq, List.cons.injEq] at h
    exact ⟨rest, by rw [h.1, h.2.1]; rfl⟩

theorem splitExtended_marker (s : List Char) :
    (splitExtended s).1 = [] ∨ ∃ rest, (splitExtended s).1 = '\\' :: '\\' :: rest := by
  unfold splitExtended
  split
  · next h =>
    obtain ⟨rest, rfl⟩ : ∃ rest, s = '\\' :: '\\' :: rest := by
      apply take_two
      rw [beq_iff_eq] at h ⊢
      have h2 := congrArg (List.take 2) h
      rwa [List.take_take] at h2
    simp only
    split
    · exact .inr ⟨_, rfl⟩
    · exact .inr ⟨_, rfl⟩
  · exact .inl rfl

theorem le_of_find {s : List Char} {start i : Nat} (h : find s start = some i) : start ≤ i := by
  rw [find] at h
  obtain ⟨k, _, rfl⟩ := Option.map_eq_some_iff.1 h
  exact Nat.le_add_right _ _

theorem splitShare?_share {s share rest : List Char} (h : splitShare? s = some (share, rest)) :
    ∃ tail, share = '\\' :: '\\' :: tail := by
  rw [splitShare?] at h
  split at h
  · cases h
  · next hs =>
    simp only [Bool.or_eq_true, not_or, bne_iff_ne, ne_eq, not_not] at hs
    obtain ⟨t, rfl⟩ := take_two (beq_iff_eq.2 hs.1)
    obtain ⟨i, hi, h⟩ := Option.bind_eq_some_iff.1 h
    split at h
    · cases h
      exact ⟨t, rfl⟩
    · next j hj =>
      split at h
      · cases h
      · cases h
        have hij := le_of_find hj
        have hi2 := le_of_find hi
        obtain ⟨k, rfl⟩ := Nat.exists_eq_add_of_le (show 2 ≤ j by omega)
        exact ⟨t.take k, by rw [Nat.add_comm]; rfl⟩

theorem splitLetter_eq (marker s : List Char) :
    splitLetter marker s =
      let d := match s with
        | c :: ':' :: rest => if isLetter c then ([c, ':'], rest) else ([], s)
        | _ => ([], s)
      (marker ++ d.1, if d.2.head? == some separator then [separator] else [],
        d.2.dropWhile (· == separator)) := rfl

theorem isDrive_splitLetter {marker : List Char} (s : List Char)
    (h : marker = [] ∨ ∃ rest, marker = '\\' :: '\\' :: rest) :
    IsDrive (splitLetter marker s).1 := by
  have hletter : ∃ drive, (splitLetter marker s).1 = marker ++ drive ∧
      (drive = [] ∨ ∃ c, isLetter c ∧ drive = [c, ':']) := by
    refine ⟨_, congrArg Prod.fst (splitLetter_eq marker s), ?_⟩
    split
    · next c rest =>
      split
      · next hc => exact .inr ⟨c, hc, rfl⟩
      · exact .inl rfl
    · exact .inl rfl
  obtain ⟨drive, hd, hcases⟩ := hletter
  rw [hd]
  rcases h with rfl | ⟨rest, rfl⟩
  · rcases hcases with hnil | hc
    · exact .inl hnil
    · exact .inr (.inl hc)
  · exact .inr (.inr ⟨_, rfl⟩)

theorem splitRoot_eq (s : List Char) :
    splitRoot s =
      let m := if s.take 2 == [separator, separator] then splitExtended s else ([], s)
      match splitShare? m.2 with
      | some (share, rest) =>
        (if m.1.isEmpty then share else m.1 ++ share.drop 1, [separator], rest)
      | none => splitLetter m.1 m.2 := rfl

theorem splitRoot_cases (s : List Char) :
    ∃ m, (m = splitExtended s ∨ m = ([], s)) ∧
      ((∃ share rest, splitShare? m.2 = some (share, rest) ∧
        splitRoot s = (if m.1.isEmpty then share else m.1 ++ share.drop 1, [separator], rest)) ∨
      splitRoot s = splitLetter m.1 m.2) := by
  have hmarker (b : Bool) : (if b then splitExtended s else ([], s)) = splitExtended s ∨
      (if b then splitExtended s else ([], s)) = ([], s) := by
    cases b
    · exact .inr rfl
    · exact .inl rfl
  refine ⟨_, hmarker (s.take 2 == [separator, separator]), ?_⟩
  rw [splitRoot_eq]
  simp only
  generalize (if s.take 2 == [separator, separator] then splitExtended s else ([], s)) = m
  cases h : splitShare? m.2 with
  | none => exact .inr rfl
  | some share => exact .inl ⟨share.1, share.2, rfl, rfl⟩

theorem isDrive_splitRoot (s : List Char) : IsDrive (splitRoot s).1 := by
  obtain ⟨m, hm, hs⟩ := splitRoot_cases s
  have hmarker : m.1 = [] ∨ ∃ rest, m.1 = '\\' :: '\\' :: rest := by
    rcases hm with rfl | rfl
    · exact splitExtended_marker s
    · exact .inl rfl
  rcases hs with ⟨share, rest, hshare, he⟩ | he
  · obtain ⟨tail, htail⟩ := splitShare?_share hshare
    rw [he]
    refine .inr (.inr ?_)
    rcases hmarker with hm | ⟨rest, hm⟩
    · exact ⟨tail, by simp [hm, htail]⟩
    · exact ⟨rest ++ share.drop 1, by simp [hm]⟩
  · rw [he]
    exact isDrive_splitLetter m.2 hmarker

theorem splitRoot_root (s : List Char) :
    (splitRoot s).2.1 = [] ∨ (splitRoot s).2.1 = [separator] := by
  have hroot (b : Bool) : (if b then [separator] else []) = [] ∨
      (if b then [separator] else []) = [separator] := by
    cases b
    · exact .inl rfl
    · exact .inr rfl
  obtain ⟨m, -, ⟨share, rest, -, he⟩ | he⟩ := splitRoot_cases s
  · exact .inr (by rw [he])
  · rw [he, splitLetter_eq]
    exact hroot _

def urlPath (p : Win32Path) : List Char :=
  match p.drive.toList with
  | [c, ':'] => '/' :: c :: ':' :: '/' :: (p.toPosixChars.drop 2).dropWhile (· == '/')
  | _ => (p.toPosixChars.drop 2).dropWhile (· != '/')

theorem toPosixChars_of_server {p : Win32Path} {rest : List Char}
    (hd : p.drive.toList = '\\' :: '\\' :: rest) (hr : p.root.toList = [separator]) :
    ∃ server tail, p.toPosixChars = '/' :: '/' :: (server ++ '/' :: tail) ∧ '/' ∉ server := by
  have hchars : p.toChars = '\\' :: '\\' ::
      (rest ++ separator :: Cut.join separator (p.parts.map String.toList)) := by
    rw [toChars, hd, hr]
    simp
  have hslash : '/' ∈ (rest ++ separator :: Cut.join separator (p.parts.map String.toList)).map
      fun c => if c == separator then '/' else c :=
    List.mem_map.2 ⟨separator, by simp, rfl⟩
  obtain ⟨server, tail, he, hno⟩ := List.eq_append_cons_of_mem hslash
  refine ⟨server, tail, ?_, hno⟩
  rw [toPosixChars, hchars, List.map_cons, List.map_cons, he]
  rfl

theorem letter_or_server {s : List Char} (h : (ofChars s).isAbsolute) :
    (ofChars s).root.toList = [separator] ∧
      ((∃ c, isLetter c ∧ (ofChars s).drive.toList = [c, ':']) ∨
        ∃ rest, (ofChars s).drive.toList = '\\' :: '\\' :: rest) := by
  have hdrive : (ofChars s).drive.toList = (splitRoot (unified s)).1 := String.toList_ofList
  have hroot : (ofChars s).root.toList = (splitRoot (unified s)).2.1 := String.toList_ofList
  rw [isAbsolute, Bool.and_eq_true] at h
  simp only [Url.isEmpty_eq_toList, hdrive, hroot] at h ⊢
  constructor
  · refine (splitRoot_root _).resolve_left fun hnil => ?_
    rw [hnil] at h
    exact absurd h.2 (by decide)
  · refine (isDrive_splitRoot _).resolve_left fun hnil => ?_
    rw [hnil] at h
    exact absurd h.1 (by decide)

theorem isAbsolute_of_toUri? {p : Win32Path} {uri : List Char} (h : p.toUri? = some uri) :
    p.isAbsolute := by
  rw [toUri?] at h
  split at h
  · cases h
  · next ha => simpa using ha

theorem toUri?_eq_of_letter {p : Win32Path} {c : Char} (hd : p.drive.toList = [c, ':'])
    (h : p.isAbsolute) : p.toUri? = some ("file://".toList ++ '/' :: c :: ':' :: '/' ::
      encode PosixPath.isUriPlain ((p.toPosixChars.drop 2).dropWhile (· == '/'))) := by
  rw [toUri?, if_neg (by simp [h]), hd]
  rfl

theorem toUri?_of_letter {p : Win32Path} {c : Char} {uri : List Char}
    (hd : p.drive.toList = [c, ':']) (h : p.toUri? = some uri) :
    uri = "file://".toList ++ '/' :: c :: ':' :: '/' ::
      encode PosixPath.isUriPlain ((p.toPosixChars.drop 2).dropWhile (· == '/')) :=
  Option.some.inj (h.symm.trans (toUri?_eq_of_letter hd (isAbsolute_of_toUri? h)))

theorem toUri?_eq_of_server {p : Win32Path} {rest : List Char}
    (hd : p.drive.toList = '\\' :: '\\' :: rest) (h : p.isAbsolute) :
    p.toUri? = some ("file:".toList ++ encode PosixPath.isUriPlain p.toPosixChars) := by
  rw [toUri?, if_neg (by simp [h]), hd]
  cases rest <;> rfl

theorem toUri?_of_server {p : Win32Path} {rest uri : List Char}
    (hd : p.drive.toList = '\\' :: '\\' :: rest) (h : p.toUri? = some uri) :
    uri = "file:".toList ++ encode PosixPath.isUriPlain p.toPosixChars :=
  Option.some.inj (h.symm.trans (toUri?_eq_of_server hd (isAbsolute_of_toUri? h)))

theorem separated_of_isLetter {c : Char} (h : isLetter c) :
    c ≠ '?' ∧ c ≠ '#' ∧ Url.isBreak c = false := by
  refine ⟨?_, ?_, Bool.eq_false_iff.2 fun hb => ?_⟩
  · rintro rfl
    cases h
  · rintro rfl
    cases h
  · simp only [Url.isBreak, Bool.or_eq_true, beq_iff_eq] at hb
    rcases hb with (rfl | rfl) | rfl <;> cases h

theorem verbatimChars_letter [HostNames] {c : Char} (hc : isLetter c) (rest : List Char) :
    Url.verbatimChars ("file://".toList ++
      '/' :: c :: ':' :: '/' :: encode PosixPath.isUriPlain rest) =
      .ok ⟨"file", "", String.ofList ('/' :: c :: ':' :: '/' :: encode PosixPath.isUriPlain rest),
        "", "", none⟩ := by
  refine PosixPath.verbatimChars_local (fun d hd => ?_) ⟨_, rfl⟩
  simp only [List.mem_cons] at hd
  rcases hd with rfl | rfl | rfl | rfl | hd
  · decide
  · exact separated_of_isLetter hc
  · decide
  · decide
  · exact PosixPath.separated_encode hd

theorem decode_letter {c : Char} (hc : isLetter c) (rest : List Char) :
    decode ('/' :: c :: ':' :: '/' :: encode PosixPath.isUriPlain rest) =
      '/' :: c :: ':' :: '/' :: rest := by
  have hne : c ≠ '%' := by
    rintro rfl
    cases hc
  rw [decode, decodeFrom_cons (by decide), decodeFrom_cons hne, decodeFrom_cons (by decide),
    decodeFrom_cons (by decide), ← decode, decode_encode rfl]

theorem verbatimChars_server [HostNames] {server : List Char} (h : '/' ∉ server)
    (tail : List Char) :
    Url.verbatimChars ("file:".toList ++
      encode PosixPath.isUriPlain ('/' :: '/' :: (server ++ '/' :: tail))) =
      .ok ⟨"file", String.ofList (encode PosixPath.isUriPlain server),
        String.ofList (encode PosixPath.isUriPlain ('/' :: tail)), "", "", none⟩ := by
  obtain ⟨ha, hc⟩ := PosixPath.authority_encode h
  have hsplit : encode PosixPath.isUriPlain (server ++ '/' :: tail) =
      encode PosixPath.isUriPlain server ++ encode PosixPath.isUriPlain ('/' :: tail) :=
    List.flatMap_append
  rw [PosixPath.encode_slash, PosixPath.encode_slash, hsplit]
  exact PosixPath.verbatimChars_below ha hc (fun _ hc => PosixPath.separated_encode hc)
    ⟨_, PosixPath.encode_slash tail⟩

theorem verbatimChars_of_toUri? [HostNames] {s uri : List Char}
    (h : (ofChars s).toUri? = some uri) :
    ∃ u, Url.verbatimChars uri = .ok u ∧ u.scheme = "file" ∧ (∃ rest, u.path.toList = '/' :: rest) ∧
      decode u.path.toList = (ofChars s).urlPath := by
  obtain ⟨hroot, ⟨c, hc, hd⟩ | ⟨rest, hd⟩⟩ := letter_or_server (isAbsolute_of_toUri? h)
  · rw [toUri?_of_letter hd h, verbatimChars_letter hc]
    refine ⟨_, rfl, rfl, ⟨_, String.toList_ofList⟩, ?_⟩
    rw [String.toList_ofList, decode_letter hc, urlPath, hd]
    rfl
  · obtain ⟨server, tail, hchars, hno⟩ := toPosixChars_of_server hd hroot
    rw [toUri?_of_server hd h, hchars, verbatimChars_server hno]
    refine ⟨_, rfl, rfl, ⟨encode PosixPath.isUriPlain tail, ?_⟩, ?_⟩
    · rw [String.toList_ofList, PosixPath.encode_slash]
    · have hdrop : (server ++ '/' :: tail).dropWhile (· != '/') = '/' :: tail := by
        rw [List.dropWhile_append_of_pos]
        · rfl
        · intro c hc
          simpa using ne_of_mem_of_not_mem hc hno
      rw [String.toList_ofList, decode_encode rfl, urlPath, hd, hchars]
      cases rest <;> exact hdrop.symm

end Win32Path

namespace FilePath

def IsRead (p : FilePath) : Prop := ∃ s, p = .posix (.ofChars s) ∨ p = .win32 (.ofChars s)

def urlPath : FilePath → List Char
  | posix p => p.toChars
  | win32 p => p.urlPath

theorem verbatimChars_of_toUri? [HostNames] {p : FilePath} (hp : p.IsRead) {uri : List Char}
    (h : p.toUri? = some uri) :
    ∃ u, Url.verbatimChars uri = .ok u ∧ u.scheme = "file" ∧ (∃ rest, u.path.toList = '/' :: rest) ∧
      decode u.path.toList = p.urlPath := by
  obtain ⟨s, rfl | rfl⟩ := hp
  · obtain ⟨⟨rest, hslash⟩, rfl⟩ := PosixPath.toUri?_ofChars h
    refine ⟨_, PosixPath.verbatimChars_file ⟨rest, hslash⟩, rfl,
      ⟨encode PosixPath.isUriPlain rest, ?_⟩, ?_⟩
    · rw [PosixPath.fileUrl, String.toList_ofList, hslash, PosixPath.encode_slash]
    · rw [PosixPath.fileUrl, String.toList_ofList, decode_encode rfl]
      rfl
  · exact Win32Path.verbatimChars_of_toUri? h

end FilePath

end EmitBridge
