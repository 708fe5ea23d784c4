import EmitBridge.FilePath.Win32
import EmitBridge.Proofs.Text.Percent
import EmitBridge.Proofs.Url.Authority

/-! The addresses of files. A path is written into its address with a stricter rule than the one
by which addresses are requoted. -/

namespace EmitBridge

open Percent

theorem Url.isPlainScheme_file : Url.IsPlainScheme "file".toList :=
  ⟨⟨'f', _, rfl, by decide⟩, forall_mem_of_all rfl, by decide⟩

namespace PosixPath

theorem isUriPlain_slash : isUriPlain '/' = true := rfl

theorem mem_encode {s : List Char} {c : Char} (h : c ∈ encode isUriPlain s) :
    isUriPlain c ∧ c ∈ s ∨ c = '%' ∨ c.isAlphanum := by
  obtain ⟨d, hd, hc⟩ := List.mem_flatMap.1 h
  split at hc
  · next hp =>
    rw [List.mem_singleton.1 hc]
    exact .inl ⟨hp, hd⟩
  · obtain ⟨b, _, hc⟩ := List.mem_flatMap.1 hc
    exact .inr (Percent.Part.mem_escape hc)

theorem isAsciiChar_of_mem_encode {s : List Char} {c : Char} (h : c ∈ encode isUriPlain s) :
    isAsciiChar c = true := by
  rcases mem_encode h with ⟨hp, -⟩ | rfl | hc
  · simp only [isUriPlain, Bool.or_eq_true, List.contains_eq_mem, decide_eq_true_eq] at hp
    rcases hp with hc | hm
    · exact Url.isAsciiChar_of_isAlphanum hc
    · exact forall_mem_of_all (p := fun c => isAsciiChar c = true) rfl c hm
  · rfl
  · exact Url.isAsciiChar_of_isAlphanum hc

theorem ne_of_mem_encode {s : List Char} {c d : Char} (h : c ∈ encode isUriPlain s)
    (hd : (isUriPlain d = false ∨ d ∉ s) ∧ d ≠ '%' ∧ d.isAlphanum = false) : c ≠ d := by
  rintro rfl
  rcases mem_encode h with ⟨hp, hm⟩ | hc | hc
  · rcases hd.1 with hn | hn
    · rw [hn] at hp
      cases hp
    · exact hn hm
  · exact hd.2.1 hc
  · rw [hd.2.2] at hc
    cases hc

theorem encode_slash (s : List Char) :
    encode isUriPlain ('/' :: s) = '/' :: encode isUriPlain s := by
  rw [encode, List.flatMap_cons, if_pos isUriPlain_slash]
  rfl

theorem encode_join {sep : Char} (hsep : isUriPlain sep = true) (pieces : List (List Char)) :
    encode isUriPlain (Cut.join sep pieces) =
      Cut.join sep (pieces.map (encode isUriPlain)) := by
  induction pieces with
  | nil => rfl
  | cons piece pieces ih =>
    cases pieces with
    | nil => rfl
    | cons next pieces =>
      have hjoin : Cut.join sep (piece :: next :: pieces) =
          piece ++ sep :: Cut.join sep (next :: pieces) := rfl
      rw [hjoin, encode, List.flatMap_append, List.flatMap_cons, if_pos hsep, ← encode, ← encode,
        ih]
      rfl

theorem all_encode {sep : Char} (hsep : isUriPlain sep = true ∧ sep ≠ '%' ∧ sep.isAlphanum = false)
    (s : List Char) :
    Cut.all sep (encode isUriPlain s) = (Cut.all sep s).map (encode isUriPlain) := by
  have hjoin := encode_join hsep.1 (Cut.all sep s)
  rw [Cut.join_all] at hjoin
  rw [hjoin]
  refine Cut.all_join (fun hnil => Cut.all_ne_nil sep s (List.map_eq_nil_iff.1 hnil)) ?_
  intro piece hpiece hm
  obtain ⟨p, hp, rfl⟩ := List.mem_map.1 hpiece
  exact ne_of_mem_encode hm ⟨.inr (Cut.notMem_of_mem_all hp), hsep.2⟩ rfl

theorem take_of_take_encode (n : Nat) {s t : List Char} (ht : (encode isUriPlain s).take n = t)
    (hno : '%' ∉ t) : s.take n = t := by
  induction n generalizing s t with
  | zero => simpa using ht
  | succ n ih =>
    cases s with
    | nil => simpa [encode] using ht
    | cons c s =>
      by_cases hc : isUriPlain c = true
      · rw [encode, List.flatMap_cons, if_pos hc, ← encode, List.singleton_append,
          List.take_succ_cons] at ht
        subst ht
        rw [List.take_succ_cons, ih rfl fun hm => hno (List.mem_cons_of_mem _ hm)]
      · obtain ⟨b, bs, hbs⟩ := List.exists_cons_of_ne_nil (encodePoint_ne_nil c)
        rw [encode, List.flatMap_cons, if_neg hc, hbs] at ht
        subst ht
        exact absurd List.mem_cons_self hno

theorem separated_encode {s : List Char} {c : Char} (h : c ∈ encode isUriPlain s) :
    c ≠ '?' ∧ c ≠ '#' ∧ Url.isBreak c = false := by
  have hne {d : Char} (hd : isUriPlain d = false ∧ d ≠ '%' ∧ d.isAlphanum = false) : c ≠ d :=
    ne_of_mem_encode h ⟨.inl hd.1, hd.2⟩
  refine ⟨hne (by decide), hne (by decide), Bool.eq_false_iff.2 fun hb => ?_⟩
  simp only [Url.isBreak, Bool.or_eq_true, beq_iff_eq] at hb
  rcases hb with (hb | hb) | hb <;> exact hne (by decide) hb

theorem authority_encode [HostNames] {server : List Char} (h : '/' ∉ server) :
    (∀ c ∈ encode isUriPlain server, Url.leavesAuthority c = false) ∧
      Url.checkAuthority (encode isUriPlain server) = .ok () := by
  constructor
  · intro c hc
    obtain ⟨hq, hf, hb⟩ := separated_encode hc
    have hs : c ≠ '/' := ne_of_mem_encode hc ⟨.inr h, by decide⟩
    simp [Url.leavesAuthority, Url.endsAuthority, hq, hf, hs, hb]
  · have hno {d : Char} (hd : isUriPlain d = false ∧ d ≠ '%' ∧ d.isAlphanum = false) :
        d ∉ encode isUriPlain server := fun hm => ne_of_mem_encode hm ⟨.inl hd.1, hd.2⟩ rfl
    have hslash := hno (show isUriPlain '\\' = false ∧ _ by decide)
    have hopen := hno (show isUriPlain '[' = false ∧ _ by decide)
    have hclose := hno (show isUriPlain ']' = false ∧ _ by decide)
    have hbrackets : Url.checkBrackets (encode isUriPlain server) = .ok () := by
      simp [Url.checkBrackets, hslash, hopen, hclose]
    rw [Url.checkAuthority, hbrackets]
    exact Url.checkCompatible_of_ascii fun _ hm => isAsciiChar_of_mem_encode hm

def fileUrl (path : List Char) : Url :=
  ⟨"file", "", String.ofList (encode isUriPlain path), "", "", none⟩

theorem verbatimChars_below [HostNames] {authority path : List Char}
    (ha : ∀ c ∈ authority, Url.leavesAuthority c = false)
    (hc : Url.checkAuthority authority = .ok ())
    (hp : ∀ c ∈ path, c ≠ '?' ∧ c ≠ '#' ∧ Url.isBreak c = false) (hs : ∃ rest, path = '/' :: rest) :
    Url.verbatimChars ("file://".toList ++ (authority ++ path)) =
      .ok ⟨"file", String.ofList authority, String.ofList path, "", "", none⟩ := by
  obtain ⟨rest, rfl⟩ := hs
  have hroot : Url.rooted ('/' :: rest) = '/' :: rest := if_pos (by simp)
  have hnil {p : Char → Prop} : ∀ c ∈ ([] : List Char), p c := fun _ h => absurd h List.not_mem_nil
  have hsplit : Url.verbatimChars
      (Url.unsplit "file".toList authority ('/' :: rest) [] []) = _ :=
    Url.verbatimChars_unsplit Url.isPlainScheme_file ha hp hnil hnil
  rw [Url.isPlainScheme_file.unsplit_eq, hroot, hc] at hsplit
  simp only [List.isEmpty_nil, if_true, List.append_nil] at hsplit
  exact hsplit

theorem verbatimChars_local [HostNames] {path : List Char}
    (hp : ∀ c ∈ path, c ≠ '?' ∧ c ≠ '#' ∧ Url.isBreak c = false) (hs : ∃ rest, path = '/' :: rest) :
    Url.verbatimChars ("file://".toList ++ path) =
      .ok ⟨"file", "", String.ofList path, "", "", none⟩ := by
  have h := @verbatimChars_below _ [] path (fun _ h => absurd h List.not_mem_nil) rfl hp hs
  rwa [List.nil_append] at h

theorem verbatimChars_file [HostNames] {path : List Char} (h : ∃ rest, path = '/' :: rest) :
    Url.verbatimChars ("file://".toList ++ encode isUriPlain path) = .ok (fileUrl path) := by
  obtain ⟨rest, rfl⟩ := h
  exact verbatimChars_local (fun _ hc => separated_encode hc) ⟨_, encode_slash rest⟩

theorem splitRoot_cases (s : List Char) :
    (splitRoot s).1 = [] ∨ ∃ rest, (splitRoot s).1 = '/' :: rest := by
  unfold splitRoot
  simp only
  split
  · exact .inl rfl
  · exact .inr ⟨_, rfl⟩
  · exact .inr ⟨_, rfl⟩

theorem toUri?_ofChars {s uri : List Char} (h : (ofChars s).toUri? = some uri) :
    (∃ rest, (ofChars s).toChars = '/' :: rest) ∧
      uri = "file://".toList ++ encode isUriPlain (ofChars s).toChars := by
  rw [toUri?] at h
  split at h
  · next ha =>
    refine ⟨?_, (Option.some.inj h).symm⟩
    rcases splitRoot_cases s with hr | ⟨rest, hr⟩
    · simp [isAbsolute, ofChars, hr] at ha
    · refine ⟨rest ++ Cut.join '/' ((ofChars s).parts.map String.toList), ?_⟩
      have hroot : (ofChars s).root.toList = '/' :: rest := by
        simp only [ofChars, hr, String.toList_ofList]
      rw [toChars, hroot]
      rfl
  · cases h

end PosixPath

theorem FilePath.toUri?_file {p : FilePath} {uri : List Char} (h : p.toUri? = some uri) :
    ∃ rest, uri = "file".toList ++ ':' :: rest := by
  cases p with
  | posix p =>
    rw [FilePath.toUri?, PosixPath.toUri?] at h
    split at h
    · cases h
      exact ⟨_, rfl⟩
    · cases h
  | win32 p =>
    rw [FilePath.toUri?, Win32Path.toUri?] at h
    split at h
    · cases h
    · split at h
      · cases h
        exact ⟨_, rfl⟩
      · cases h
        exact ⟨_, rfl⟩

end EmitBridge
