import EmitBridge.Proofs.FilePath.Normal
import EmitBridge.Proofs.Location.Route

/-! Absolute paths as locations. The address of such a path holds its normal form, and comes back as
a path with slashes unless that looks like one with a drive. -/

namespace EmitBridge

namespace Url

theorem splitScheme_of_head {c : Char} (hc : isSchemeChar c = false) (rest : List Char) :
    (splitScheme (c :: rest)).1 = [] := by
  by_cases hcolon : c = ':'
  · subst hcolon
    rfl
  · have hfirst : Cut.first ':' (c :: rest) =
        (c :: (Cut.first ':' rest).1, (Cut.first ':' rest).2) := if_neg (by simpa using hcolon)
    rw [splitScheme, hfirst]
    cases (Cut.first ':' rest).2 with
    | none => rfl
    | some after => simp [hc]

theorem scheme_of_head [HostNames] {c : Char} (hc : isSchemeChar c = false) (hlow : 0x20 < c.toNat)
    {rest : List Char} {u : Url} (h : verbatimChars (c :: rest) = .ok u) : u.scheme = "" := by
  have hkept : (c != '\t' && c != '\r' && c != '\n') = true := by
    have hne {d : Char} (hd : d.toNat ≤ 0x20) : c ≠ d := by
      rintro rfl
      omega
    simp [hne (d := '\t') (by decide), hne (d := '\r') (by decide), hne (d := '\n') (by decide)]
  have hcleaned : cleaned (c :: rest) =
      c :: rest.filter (fun c => c != '\t' && c != '\r' && c != '\n') := by
    rw [cleaned, List.dropWhile_cons_of_neg (by simpa using hlow),
      List.filter_cons_of_pos (p := fun c => c != '\t' && c != '\r' && c != '\n') hkept]
  rw [verbatimChars_eq, hcleaned] at h
  generalize rest.filter _ = tail at h
  cases hcheck : checkAuthority (splitAuthority (splitScheme (c :: tail)).2).1 with
  | error e =>
    rw [hcheck] at h
    cases h
  | ok _ =>
    rw [hcheck, splitScheme_of_head hc] at h
    cases h
    rfl

end Url

namespace PosixPath

variable {path : List Char}

def fileText (path : List Char) : String :=
  String.ofList ("file://".toList ++ Percent.encode isUriPlain path)

theorem render_fileUrl (h : ∃ rest, path = '/' :: rest) :
    (fileUrl path).render = .ok (fileText path) := by
  have hparts : (fileUrl path).parts = .ok ⟨none, none, none, none⟩ := rfl
  rw [Url.render_eq Url.isPlainScheme_file, hparts, Location.shownPath_fileUrl h]
  have htext : Url.unsplit "file".toList [] (Percent.encode isUriPlain path) [] [] =
      "file://".toList ++ Percent.encode isUriPlain path := by
    obtain ⟨rest, rfl⟩ := h
    rw [Url.isPlainScheme_file.unsplit_eq, encode_slash, Url.rooted_slash]
    simp
  exact congrArg (fun l => Except.ok (String.ofList l)) htext

theorem verbatim_fileText [HostNames] (h : ∃ rest, path = '/' :: rest) :
    Url.verbatim (fileText path) = .ok (fileUrl path) := by
  have htext : (fileText path).toList = "file://".toList ++ Percent.encode isUriPlain path :=
    String.toList_ofList
  rw [Url.verbatim, htext]
  exact verbatimChars_file h

theorem rawPath_fileUrl (path : List Char) :
    (fileUrl path).rawPath.toList = Percent.encode isUriPlain path := by
  rw [Url.rawPath, if_neg (by simp [fileUrl])]
  exact String.toList_ofList

theorem decodedPath_fileUrl (path : List Char) : (fileUrl path).decodedPath.toList = path := by
  rw [Url.decodedPath, String.toList_ofList, rawPath_fileUrl, Percent.decode_encode rfl]

theorem toUri?_normal (rest : List Char) :
    (ofChars (normal ('/' :: rest))).toUri? =
      some ("file://".toList ++ Percent.encode isUriPlain (normal ('/' :: rest))) := by
  rw [toUri?, if_pos (isAbsolute_ofChars_normal rest), toChars_ofChars_normal]

end PosixPath

namespace Location

open PosixPath

theorem schemedUrl?_eq_none [HostNames] {s : String}
    (h : ∀ v, Url.verbatim s = .ok v → v.scheme = "") : schemedUrl? s = none := by
  cases hu : schemedUrl? s with
  | none => rfl
  | some u =>
    obtain ⟨v, k, hv, hne, -, -⟩ := normalized_of_schemedUrl? hu
    rw [h v hv] at hne
    cases hne

theorem schemedUrl?_of_notMem [HostNames] {s : String} (h : ':' ∉ s.toList) :
    schemedUrl? s = none := by
  refine schemedUrl?_eq_none fun v hv => ?_
  have hno : ':' ∉ Url.cleaned s.toList := fun hm => h (Url.mem_cleaned hm).1
  obtain ⟨-, rfl⟩ := Url.verbatimChars_eq_ok hv
  rw [Url.splitScheme, Cut.first_of_notMem hno]
  rfl

theorem schemedUrl?_of_head [HostNames] {c : Char} (hc : Url.isSchemeChar c = false)
    (hlow : 0x20 < c.toNat) {s : String} {rest : List Char} (hs : s.toList = c :: rest) :
    schemedUrl? s = none := by
  refine schemedUrl?_eq_none fun v hv => ?_
  rw [Url.verbatim, hs] at hv
  exact Url.scheme_of_head hc hlow hv

theorem hasDrive_slash (rest : List Char) : hasDrive ('/' :: rest) = false := by
  unfold hasDrive
  split
  · next h =>
    obtain ⟨rfl, -⟩ := List.cons.inj h
    rfl
  · rfl

theorem isAbsoluteText_slash (rest : List Char) :
    Win32Path.isAbsoluteText ('/' :: rest) = false := by
  unfold Win32Path.isAbsoluteText
  split
  · next h => cases h
  · next h =>
    obtain ⟨rfl, -⟩ := List.cons.inj h
    rfl
  · rfl

theorem directoryOfText_slash (cwd : PosixPath) (rest : List Char) :
    directoryOfText cwd ('/' :: rest) = .posix (.ofChars ('/' :: rest)) := by
  rw [directoryOfText, if_neg (ne_true_of_eq_false (isAbsoluteText_slash rest))]
  exact congrArg FilePath.posix (if_pos (isAbsolute_ofChars_slash rest))

theorem toUrl_rooted [HostNames] (cwd : PosixPath) {s : String} {rest : List Char}
    (hs : s.toList = '/' :: rest) (hnull : '\x00' ∉ s.toList) :
    toUrl cwd none (.string s) = .ok (fileUrl (normal s.toList)) := by
  have hne : ¬(s.toList = [] ∨ '\x00' ∈ s.toList) := by
    rw [hs] at hnull ⊢
    exact fun h => h.elim nofun hnull
  rw [toUrl_string, textToUrl_eq, if_neg hne, hs]
  rw [if_neg (ne_true_of_eq_false (hasDrive_slash rest)),
    schemedUrl?_of_head (by decide) (by decide) hs, pathToUrl_eq]
  have hnamed : namedPath cwd none ('/' :: rest) =
      .ok (.posix (.ofChars (normal ('/' :: rest)))) := by
    have hjoin : join cwd.toChars ('/' :: rest) = '/' :: rest := if_pos rfl
    rw [namedPath, if_neg (ne_true_of_eq_false (isAbsoluteText_slash rest)), baseDirectory]
    simp only [Except.map, resolvePath, hjoin]
  have haddress : addressOf ('/' :: rest) (.posix (.ofChars (normal ('/' :: rest)))) =
      .ok (fileUrl (normal ('/' :: rest))) := by
    rw [addressOf, FilePath.toUri?, toUri?_normal]
    simp only [verbatimChars_file (exists_normal_eq rest), Except.mapError]
  rw [hnamed, ← haddress]
  generalize normal ('/' :: rest) = path
  rfl

theorem toPath_of_local [HostNames] {u : Url} (hscheme : u.scheme = "file")
    {host : Option (List Char)} (hhost : u.host = .ok host)
    (hlocal : ∀ h ∈ host, h = "localhost".toList) {rest : List Char}
    (hpath : u.decodedPath.toList = '/' :: rest) :
    toPath u = .ok (if hasDrive rest then .win32 (.ofChars rest)
      else .posix (.ofChars ('/' :: rest))) := by
  have hnone : (!(host.getD []).isEmpty && host.getD [] != "localhost".toList) = false := by
    cases host with
    | none => rfl
    | some h => rw [Option.getD_some, hlocal h rfl, bne_self_eq_false, Bool.and_false]
  rw [toPath, if_neg (by simp [hscheme]), hhost, hpath]
  simp only [Except.mapError, bind, Except.bind, hnone, Bool.false_eq_true, if_false]
  split <;> rfl

theorem toPath_fileUrl [HostNames] {path rest : List Char} (h : path = '/' :: rest) :
    toPath (fileUrl path) =
      .ok (if hasDrive rest then .win32 (.ofChars rest) else .posix (.ofChars path)) := by
  have hpath : (fileUrl path).decodedPath.toList = '/' :: rest := (decodedPath_fileUrl path).trans h
  rw [h]
  rw [h] at hpath
  have hhost : (fileUrl ('/' :: rest)).host = .ok none := rfl
  exact toPath_of_local rfl hhost nofun hpath

end Location

end EmitBridge
