import EmitBridge.Location
import EmitBridge.Proofs.FilePath.Drive
import EmitBridge.Proofs.Text.CodePoint
import EmitBridge.Proofs.Url.Normal

/-! The routes by which a location comes to its canonical address: an address object, a text that
spells an address, and a path. -/

namespace EmitBridge.Location

open Url

theorem isPlainScheme_of_supported {scheme : String} (h : supportedSchemes.contains scheme) :
    IsPlainScheme scheme.toList := by
  simp only [supportedSchemes, List.contains_eq_mem, List.mem_cons, List.not_mem_nil, or_false,
    decide_eq_true_eq] at h
  rcases h with rfl | rfl | rfl <;>
    exact ⟨⟨_, _, rfl, by decide⟩, forall_mem_of_all rfl, by decide⟩

theorem not_drive_of_supported {scheme : String} (h : supportedSchemes.contains scheme)
    (rest : List Char) : hasDrive (scheme.toList ++ rest) = false ∧
      Win32Path.isAbsoluteText (scheme.toList ++ rest) = false ∧
      (scheme.toList ++ rest).head? ≠ some '/' := by
  simp only [supportedSchemes, List.contains_eq_mem, List.mem_cons, List.not_mem_nil, or_false,
    decide_eq_true_eq] at h
  rcases h with rfl | rfl | rfl <;> exact ⟨rfl, rfl, by simp⟩

theorem checkScheme_eq_ok {u v : Url} {location : Value} (h : checkScheme u location = .ok v) :
    v = u ∧ supportedSchemes.contains u.scheme := by
  rw [checkScheme] at h
  split at h
  · next hs =>
    cases h
    exact ⟨rfl, hs⟩
  · cases h

theorem textToUrl_eq [HostNames] (cwd : PosixPath) (base : Option Value) (s : String) :
    textToUrl cwd base s =
      if s.toList = [] ∨ '\x00' ∈ s.toList then .error (.emit (.location (.string s) none))
      else if hasDrive s.toList then pathToUrl cwd base s.toList
      else match schemedUrl? s with
        | some u => checkScheme u (.string s)
        | none => pathToUrl cwd base s.toList := by
  rw [textToUrl, String.contains_char_eq, isEmpty_eq_toList]
  refine if_congr ?_ rfl rfl
  rw [Bool.or_eq_true, List.isEmpty_iff, decide_eq_true_iff]

theorem toUrl_string [HostNames] (cwd : PosixPath) (base : Option Value) (s : String) :
    toUrl cwd base (.string s) = textToUrl cwd base s := by
  show textToUrl cwd base (Text.ofString s).toString = _
  rw [Text.toString_ofString]

theorem shownPath_fileUrl {path : List Char} (h : ∃ rest, path = '/' :: rest) :
    (PosixPath.fileUrl path).shownPath = Percent.encode PosixPath.isUriPlain path := by
  obtain ⟨rest, rfl⟩ := h
  rw [PosixPath.encode_slash]
  apply shownPath_of_slash
  rw [PosixPath.fileUrl, String.toList_ofList, PosixPath.encode_slash]

def namedPath [HostNames] (cwd : PosixPath) (base : Option Value) (s : List Char) :
    Except Failure FilePath :=
  if Win32Path.isAbsoluteText s then .ok (.win32 (.ofChars (Win32Path.normal s)))
  else (baseDirectory cwd base).map fun d => resolvePath d s

theorem isRead_of_namedPath [HostNames] {cwd : PosixPath} {base : Option Value} {s : List Char}
    {p : FilePath} (h : namedPath cwd base s = .ok p) : p.IsRead := by
  rw [namedPath] at h
  split at h
  · exact ⟨_, .inr (Except.ok.inj h).symm⟩
  · obtain ⟨d, -, hd⟩ := Run.exists_of_map_eq_ok h
    cases d with
    | posix d => exact ⟨_, .inl hd.symm⟩
    | win32 d => exact ⟨_, .inr hd.symm⟩

def addressOf [HostNames] (s : List Char) (p : FilePath) : Except Failure Url :=
  match p.toUri? with
  | some uri => (verbatimChars uri).mapError urlFailure
  | none => .error (.emit ((EmitError.location (.string (String.ofList s))
      (some ("Cannot express path as a file URL: " ++ String.ofList s))).becauseOf "ValueError"))

theorem pathToUrl_eq [HostNames] (cwd : PosixPath) (base : Option Value) (s : List Char) :
    pathToUrl cwd base s = namedPath cwd base s >>= addressOf s := by
  unfold pathToUrl namedPath
  split
  · rfl
  · cases baseDirectory cwd base <;> rfl

theorem addressOf_eq_ok [HostNames] {s : List Char} {p : FilePath} {u : Url}
    (h : addressOf s p = .ok u) :
    ∃ uri, p.toUri? = some uri ∧ verbatimChars uri = .ok u := by
  unfold addressOf at h
  split at h
  · next uri huri => exact ⟨uri, huri, Run.mapError_eq_ok_iff.mp h⟩
  · cases h

theorem pathToUrl_eq_ok [HostNames] {cwd : PosixPath} {base : Option Value} {s : List Char}
    {u : Url} (h : pathToUrl cwd base s = .ok u) :
    ∃ p uri, namedPath cwd base s = .ok p ∧ p.toUri? = some uri ∧ verbatimChars uri = .ok u := by
  rw [pathToUrl_eq] at h
  obtain ⟨p, hp, h⟩ := Run.exists_of_bind_eq_ok h
  obtain ⟨uri, huri, hv⟩ := addressOf_eq_ok h
  exact ⟨p, uri, hp, huri, hv⟩

theorem scheme_of_path [HostNames] {cwd : PosixPath} {base : Option Value} {s : List Char} {u : Url}
    (h : pathToUrl cwd base s = .ok u) : u.scheme = "file" := by
  obtain ⟨p, uri, _, huri, hv⟩ := pathToUrl_eq_ok h
  obtain ⟨rest, rfl⟩ := FilePath.toUri?_file huri
  exact isPlainScheme_file.scheme_of_verbatim hv

structure IsCanonical (u : Url) : Prop where
  scheme : supportedSchemes.contains u.scheme
  separated : u.Separated
  hasParts : ∀ a, u.parts = .ok a → u.HasParts a

theorem isCanonical_of_verbatim [HostNames] {s : List Char} {u : Url} (h : verbatimChars s = .ok u)
    (hs : supportedSchemes.contains u.scheme) : IsCanonical u :=
  ⟨hs, separated_of_verbatim h, fun _ ha =>
    hasParts_of_read (separated_of_verbatim h) (known_of_verbatim h) ha⟩

theorem schemedUrl?_eq_some [HostNames] {s : String} {u : Url} (h : schemedUrl? s = some u) :
    parse s = .ok u ∧ u.scheme.isEmpty = false := by
  rw [schemedUrl?] at h
  split at h
  · next v hv =>
    split at h
    · cases h
    · next hs =>
      cases h
      exact ⟨hv, Bool.eq_false_iff.2 hs⟩
  · cases h

theorem scheme_of_parse [HostNames] {s : String} {u : Url} (h : parse s = .ok u) :
    ∃ v, verbatim s = .ok v ∧ v.scheme = u.scheme := by
  obtain ⟨v, hv, h⟩ := Run.exists_of_bind_eq_ok h
  refine ⟨v, hv, ?_⟩
  split at h
  · cases h
    rfl
  · obtain ⟨k, -, h⟩ := Run.exists_of_bind_eq_ok h
    cases h
    rfl

theorem normalized_of_schemedUrl? [HostNames] {s : String} {u : Url} (h : schemedUrl? s = some u) :
    ∃ v k, verbatim s = .ok v ∧ v.scheme.isEmpty = false ∧ v.normalKnown = .ok k ∧
      u = v.normalized k.1 k.2 := by
  obtain ⟨hp, hne⟩ := schemedUrl?_eq_some h
  obtain ⟨v, hv, hscheme⟩ := scheme_of_parse hp
  rw [← hscheme] at hne
  rw [parse_eq hv hne] at hp
  obtain ⟨k, hk, hu⟩ := Run.exists_of_map_eq_ok hp
  exact ⟨v, k, hv, hne, hk, hu.symm⟩

theorem isCanonical_of_parse [HostNames] {s : String} {u : Url} (h : schemedUrl? s = some u)
    (hs : supportedSchemes.contains u.scheme) : IsCanonical u := by
  obtain ⟨v, k, hv, -, hk, rfl⟩ := normalized_of_schemedUrl? h
  obtain ⟨hsep, hparts⟩ :=
    hasParts_normalized (checked_of_verbatim hv) (separated_of_verbatim hv) hk
  refine ⟨hs, hsep, fun a ha => ?_⟩
  cases hparts.parts.symm.trans ha
  exact hparts

theorem isCanonical_of_path [HostNames] {cwd : PosixPath} {base : Option Value} {s : List Char}
    {u : Url} (h : pathToUrl cwd base s = .ok u) : IsCanonical u := by
  obtain ⟨p, uri, _, _, hv⟩ := pathToUrl_eq_ok h
  exact isCanonical_of_verbatim hv (by rw [scheme_of_path h]; rfl)

inductive TextRoute [HostNames] (cwd : PosixPath) (base : Option Value) (u : Url) : Prop
  | path {s : List Char} : pathToUrl cwd base s = .ok u → TextRoute cwd base u
  | spelled {s : String} : schemedUrl? s = some u → supportedSchemes.contains u.scheme →
      TextRoute cwd base u

theorem textRoute_of_textToUrl [HostNames] {cwd : PosixPath} {base : Option Value} {s : String}
    {u : Url} (h : textToUrl cwd base s = .ok u) : TextRoute cwd base u := by
  rw [textToUrl_eq] at h
  split at h
  · cases h
  · split at h
    · exact .path h
    · split at h
      · next v hv =>
        obtain ⟨rfl, hs⟩ := checkScheme_eq_ok h
        exact .spelled hv hs
      · exact .path h

inductive Route [HostNames] (cwd : PosixPath) (base : Option Value) (u : Url) : Prop
  | text : TextRoute cwd base u → Route cwd base u
  | copied {s : String} : verbatim s = .ok u → supportedSchemes.contains u.scheme →
      Route cwd base u

theorem route_of_toUrl [HostNames] {cwd : PosixPath} {base : Option Value} {location : Value}
    {u : Url} (h : toUrl cwd base location = .ok u) : Route cwd base u := by
  unfold toUrl at h
  split at h
  · next v =>
    split at h
    · exact .text (.path h)
    · obtain ⟨s, -, h⟩ := Run.exists_of_bind_eq_ok h
      obtain ⟨w, hw, h⟩ := Run.exists_of_bind_eq_ok h
      obtain ⟨rfl, hs⟩ := checkScheme_eq_ok h
      exact .copied (Run.mapError_eq_ok_iff.mp hw) hs
  · exact .text (textRoute_of_textToUrl h)
  · split at h
    · exact .text (textRoute_of_textToUrl h)
    · cases h

theorem isCanonical_of_toUrl [HostNames] {cwd : PosixPath} {base : Option Value} {location : Value}
    {u : Url} (h : toUrl cwd base location = .ok u) : IsCanonical u := by
  cases route_of_toUrl h with
  | text htext =>
    cases htext with
    | path hpath => exact isCanonical_of_path hpath
    | spelled hparse hs => exact isCanonical_of_parse hparse hs
  | copied hv hs => exact isCanonical_of_verbatim hv hs

def workDirectory : PosixPath := ⟨"/", ["work"]⟩

theorem ok_of_toOption {ε α : Type} {x : Except ε α} {a : α} (h : x.toOption = some a) :
    x = .ok a := by
  cases x with
  | error e => cases h
  | ok b => exact congrArg Except.ok (Option.some.inj h)

end EmitBridge.Location
