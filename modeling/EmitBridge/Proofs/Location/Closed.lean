import EmitBridge.Proofs.FilePath.Chars
import EmitBridge.Proofs.Location.Route
import EmitBridge.Proofs.Url.Host

/-! Which locations come to a well-formed address or fail as locations, by the routes that they
take. -/

namespace EmitBridge.Location

open HostNames.AsciiOnly

open Url

structure IsWellFormed (u : Url) : Prop where
  scheme : supportedSchemes.contains u.scheme
  host : u.scheme ≠ "file" → u.HasHost
  rooted : u.scheme = "file" → ∃ rest, u.rawPath.toList = '/' :: rest
  noNull : u.scheme = "file" → '\x00' ∉ u.decodedPath.toList

def IsLocationError (e : Failure) : Prop :=
  ∃ err : EmitError Value, e = .emit err ∧ err.kind = .location

def FailsAsLocation {α : Type} (r : Except Failure α) : Prop :=
  ∀ e, r = .error e → IsLocationError e

def IsClosed (r : Except Failure Url) : Prop :=
  FailsAsLocation r ∧ ∀ u, r = .ok u → IsWellFormed u

def IsPlace [HostNames] (u : Url) : Prop :=
  (∃ a, u.parts = .ok a) ∧ (u.scheme = "file" → ∃ host, u.host = .ok host)

def IsLegible [HostNames] (r : Except UrlError Url) : Prop := ∃ u, r = .ok u ∧ IsPlace u

def copy [HostNames] (u : Url) : Except UrlError Url := u.render.bind verbatim

def IsBaseText [HostNames] (s : List Char) : Prop :=
  "file:".toList.isPrefixOf s → IsLegible (verbatimChars s)

def IsBase [HostNames] : Option Value → Prop
  | none | some .null | some (.path _) => True
  | some (.url u) =>
    if u.scheme.isEmpty then IsBaseText u.decodedPath.toList else IsLegible (copy u)
  | some (.bytes _) => False
  | some v => ∃ t, v.text? = some t ∧ IsBaseText t.toString.toList

def IsSettledPath [HostNames] (cwd : PosixPath) (base : Option Value) (s : List Char) : Prop :=
  (Win32Path.isAbsoluteText s ∨ IsBase base) ∧
    ∀ p uri, namedPath cwd base s = .ok p → p.toUri? = some uri → '\x00' ∉ p.urlPath

def IsGrounded (u : Url) : Prop :=
  (u.authority ≠ "" ∨ ∃ rest, u.path.toList = '/' :: rest) ∧
    '\x00' ∉ Percent.decode u.path.toList

def IsSettledText [HostNames] (cwd : PosixPath) (base : Option Value) (s : String) : Prop :=
  s.toList ≠ [] → '\x00' ∉ s.toList →
    if hasDrive s.toList then IsSettledPath cwd base s.toList
    else match schemedUrl? s with
      | some u => supportedSchemes.contains u.scheme →
          if u.scheme = "file" then IsGrounded u else u.HasHost
      | none => IsSettledPath cwd base s.toList

def IsSettledUrl [HostNames] (u : Url) : Prop :=
  ∃ v, copy u = .ok v ∧ (supportedSchemes.contains v.scheme →
    if v.scheme = "file" then IsGrounded v else v.HasHost)

def IsSettled [HostNames] (cwd : PosixPath) (base : Option Value) : Value → Prop
  | .url u =>
    if u.scheme.isEmpty && !u.decodedPath.isEmpty then IsSettledPath cwd base u.decodedPath.toList
    else IsSettledUrl u
  | .path p => IsSettledText cwd base p.toString
  | v => ∀ t, v.text? = some t → IsSettledText cwd base t.toString

theorem isLocationError_location (v : Value) (message : Option String) :
    IsLocationError (.emit (.location v message)) := ⟨_, rfl, rfl⟩

theorem not_isLocationError_fault (f : Fault) : ¬IsLocationError (.fault f) := by
  rintro ⟨err, he, _⟩
  cases he

namespace FailsAsLocation

theorem ok {α : Type} (a : α) : FailsAsLocation (.ok a : Except Failure α) := nofun

theorem error_iff {α : Type} (e : Failure) :
    FailsAsLocation (.error e : Except Failure α) ↔ IsLocationError e :=
  ⟨fun h => h e rfl, fun h _ he => Except.error.inj he ▸ h⟩

theorem not_fault {α : Type} (f : Fault) :
    ¬FailsAsLocation (.error (.fault f) : Except Failure α) := fun h =>
  not_isLocationError_fault f ((error_iff _).1 h)

end FailsAsLocation

namespace IsClosed

theorem ok_iff (u : Url) : IsClosed (.ok u) ↔ IsWellFormed u :=
  ⟨fun h => h.2 u rfl, fun h => ⟨.ok u, fun _ hu => Except.ok.inj hu ▸ h⟩⟩

theorem error_iff (e : Failure) : IsClosed (.error e) ↔ IsLocationError e :=
  ⟨fun h => h.1 e rfl, fun h => ⟨(FailsAsLocation.error_iff e).2 h, nofun⟩⟩

end IsClosed

theorem isWellFormed_file_iff {u : Url} (hs : u.scheme = "file")
    (hr : u.authority ≠ "" → IsRooted u.path.toList) : IsWellFormed u ↔ IsGrounded u := by
  have hwell : IsWellFormed u ↔ (∃ rest, u.rawPath.toList = '/' :: rest) ∧
      '\x00' ∉ Percent.decode u.rawPath.toList := by
    constructor
    · intro h
      have hnull := h.noNull hs
      rw [decodedPath, String.toList_ofList] at hnull
      exact ⟨h.rooted hs, hnull⟩
    · rintro ⟨hroot, hnull⟩
      refine ⟨by rw [hs]; rfl, fun h => absurd hs h, fun _ => hroot, fun _ => ?_⟩
      rwa [decodedPath, String.toList_ofList]
  rw [hwell, IsGrounded, rawPath]
  split
  · next h =>
    rw [Bool.and_eq_true, isEmpty_eq_toList, List.isEmpty_iff] at h
    have ha : u.authority ≠ "" := by simpa using h.2
    rw [h.1]
    exact iff_of_true ⟨⟨[], rfl⟩, by decide⟩ ⟨.inl ha, by decide⟩
  · next h =>
    refine and_congr_left fun _ => ⟨.inr, fun hor => hor.elim (fun ha => ?_) id⟩
    refine (hr ha).resolve_left fun hnil => h ?_
    rw [Bool.and_eq_true, isEmpty_eq_toList, hnil]
    exact ⟨rfl, by simpa using ha⟩

theorem isWellFormed_host_iff {u : Url} (hs : supportedSchemes.contains u.scheme)
    (hf : u.scheme ≠ "file") : IsWellFormed u ↔ u.HasHost :=
  ⟨fun h => h.host hf, fun h => ⟨hs, fun _ => h, fun hs => absurd hs hf, fun hs => absurd hs hf⟩⟩

theorem exists_render_iff (u : Url) : (∃ s, u.render = .ok s) ↔ ∃ a, u.parts = .ok a := by
  unfold render
  cases u.parts with
  | error e =>
    refine iff_of_false ?_ ?_
    · rintro ⟨s, hs⟩
      cases hs
    · rintro ⟨a, ha⟩
      cases ha
  | ok a => exact iff_of_true ⟨_, rfl⟩ ⟨a, rfl⟩

theorem exists_parts_of_host [HostNames] {u : Url} {host : Option (List Char)}
    (h : u.host = .ok host) : ∃ a, u.parts = .ok a := by
  obtain ⟨raw, hraw, -⟩ := Run.exists_of_bind_eq_ok h
  obtain ⟨a, ha, -⟩ := Run.exists_of_map_eq_ok hraw
  exact ⟨a, ha⟩

theorem failsAsLocation_toPath_iff [HostNames] (u : Url) :
    FailsAsLocation (toPath u) ↔ IsPlace u := by
  by_cases hs : u.scheme = "file"
  · rw [IsPlace, forall_prop_of_true hs, toPath, if_neg (by simp [hs])]
    cases hhost : u.host with
    | error e =>
      refine iff_of_false (FailsAsLocation.not_fault _) ?_
      rintro ⟨-, host, ⟨⟩⟩
    | ok host =>
      refine iff_of_true ?_ ⟨exists_parts_of_host hhost, host, rfl⟩
      simp only [Except.mapError, bind, Except.bind]
      split
      · exact .ok _
      · split
        · split
          · exact .ok _
          · exact .ok _
        · exact .ok _
  · rw [IsPlace, and_iff_left fun h => absurd h hs, toPath, if_pos (by simpa using hs),
      ← exists_render_iff]
    cases u.render with
    | error e => exact iff_of_false (FailsAsLocation.not_fault _) (by rintro ⟨s, hs⟩; cases hs)
    | ok s =>
      exact iff_of_true ((FailsAsLocation.error_iff _).2 (isLocationError_location _ _)) ⟨s, rfl⟩

theorem failsAsLocation_bind_toPath_iff [HostNames] (r : Except UrlError Url) :
    FailsAsLocation (r.mapError urlFailure >>= toPath) ↔ IsLegible r := by
  cases r with
  | error e => exact iff_of_false (FailsAsLocation.not_fault _) (by rintro ⟨u, hu, _⟩; cases hu)
  | ok u =>
    refine (failsAsLocation_toPath_iff u).trans ⟨fun h => ⟨u, rfl, h⟩, ?_⟩
    rintro ⟨v, hv, h⟩
    cases hv
    exact h

theorem failsAsLocation_directoryOfBase_iff [HostNames] (cwd : PosixPath) (s : List Char) :
    FailsAsLocation (directoryOfBase cwd s) ↔ IsBaseText s := by
  rw [directoryOfBase, IsBaseText]
  split
  · next hf =>
    rw [forall_prop_of_true hf]
    exact failsAsLocation_bind_toPath_iff _
  · next hf => exact iff_of_true (.ok _) fun h => absurd h hf

theorem failsAsLocation_baseDirectory_iff [HostNames] (cwd : PosixPath) (base : Option Value) :
    FailsAsLocation (baseDirectory cwd base) ↔ IsBase base := by
  rw [baseDirectory.eq_def]
  split
  · exact iff_of_true (.ok _) trivial
  · exact iff_of_true (.ok _) trivial
  · next u =>
    rw [IsBase]
    split
    · exact failsAsLocation_directoryOfBase_iff cwd _
    · -- the address is shown as text, which is read as an address again
      rw [← failsAsLocation_bind_toPath_iff, copy]
      cases u.render with
      | error e => exact Iff.rfl
      | ok s => exact Iff.rfl
  · exact iff_of_true (.ok _) trivial
  · exact iff_of_false (FailsAsLocation.not_fault _) id
  · next v hnull hurl hpath hbytes =>
    have hbase : IsBase (some v) ↔ ∃ t, v.text? = some t ∧ IsBaseText t.toString.toList := by
      rw [IsBase]
      all_goals assumption
    rw [hbase]
    cases v.text? with
    | some t =>
      refine (failsAsLocation_directoryOfBase_iff cwd _).trans ⟨fun h => ⟨t, rfl, h⟩, ?_⟩
      rintro ⟨t', ht, h⟩
      cases ht
      exact h
    | none => exact iff_of_false (FailsAsLocation.not_fault _) nofun

theorem failsAsLocation_namedPath_iff [HostNames] (cwd : PosixPath) (base : Option Value)
    (s : List Char) :
    FailsAsLocation (namedPath cwd base s) ↔ Win32Path.isAbsoluteText s ∨ IsBase base := by
  rw [namedPath, ← failsAsLocation_baseDirectory_iff cwd]
  split
  · next h => exact iff_of_true (.ok _) (.inl h)
  · next h =>
    rw [or_iff_right h]
    cases baseDirectory cwd base with
    | error e => exact (FailsAsLocation.error_iff e).trans (FailsAsLocation.error_iff e).symm
    | ok d => exact iff_of_true (.ok _) (.ok d)

section Directory

variable {cwd : PosixPath} {base : Option Value}

theorem isBase_none [HostNames] : IsBase none := trivial

theorem isBase_path [HostNames] (d : FilePath) : IsBase (some (.path d)) := trivial

theorem failsAsLocation_addressOf [HostNames] (s : List Char) {p : FilePath} (hp : p.IsRead) :
    FailsAsLocation (addressOf s p) := by
  rw [addressOf]
  cases huri : p.toUri? with
  | none => exact (FailsAsLocation.error_iff _).mpr ⟨_, rfl, rfl⟩
  | some uri =>
    obtain ⟨u, hu, -⟩ := FilePath.verbatimChars_of_toUri? hp huri
    simp only [hu, Except.mapError]
    exact .ok u

theorem failsAsLocation_pathToUrl [HostNames] (hb : IsBase base) (s : List Char) :
    FailsAsLocation (pathToUrl cwd base s) := by
  have hnamed := (failsAsLocation_namedPath_iff cwd base s).mpr (.inr hb)
  rw [pathToUrl_eq]
  cases hp : namedPath cwd base s with
  | error e => exact (FailsAsLocation.error_iff e).mpr (hnamed e hp)
  | ok p => exact failsAsLocation_addressOf s (isRead_of_namedPath hp)

theorem failsAsLocation_checkScheme (u : Url) (location : Value) :
    FailsAsLocation (checkScheme u location) := by
  rw [checkScheme]
  split
  · exact .ok u
  · exact (FailsAsLocation.error_iff _).mpr (isLocationError_location _ _)

theorem failsAsLocation_textToUrl [HostNames] (hb : IsBase base) (s : String) :
    FailsAsLocation (textToUrl cwd base s) := by
  rw [textToUrl_eq]
  split
  · exact (FailsAsLocation.error_iff _).mpr (isLocationError_location _ _)
  split
  · exact failsAsLocation_pathToUrl hb s.toList
  · cases schemedUrl? s with
    | none => exact failsAsLocation_pathToUrl hb s.toList
    | some u => exact failsAsLocation_checkScheme u (.string s)

end Directory

theorem isClosed_addressOf_iff [HostNames] (s : List Char) {p : FilePath} (hp : p.IsRead) :
    IsClosed (addressOf s p) ↔ ∀ uri, p.toUri? = some uri → '\x00' ∉ p.urlPath := by
  rw [addressOf]
  cases huri : p.toUri? with
  | none =>
    refine iff_of_true ⟨?_, nofun⟩ nofun
    exact (FailsAsLocation.error_iff _).2 ⟨_, rfl, rfl⟩
  | some uri =>
    obtain ⟨u, hu, hscheme, hslash, hdecode⟩ := FilePath.verbatimChars_of_toUri? hp huri
    simp only [hu, Except.mapError]
    rw [IsClosed.ok_iff, isWellFormed_file_iff hscheme fun _ => .inr hslash, IsGrounded, hdecode]
    constructor
    · rintro ⟨_, hnull⟩ _ _
      exact hnull
    · exact fun h => ⟨.inr hslash, h uri rfl⟩

theorem isClosed_pathToUrl_iff [HostNames] (cwd : PosixPath) (base : Option Value) (s : List Char) :
    IsClosed (pathToUrl cwd base s) ↔ IsSettledPath cwd base s := by
  rw [pathToUrl_eq, IsSettledPath, ← failsAsLocation_namedPath_iff cwd]
  cases hp : namedPath cwd base s with
  | error e =>
    refine (IsClosed.error_iff e).trans ⟨fun h => ⟨(FailsAsLocation.error_iff e).2 h, nofun⟩, ?_⟩
    exact fun h => (FailsAsLocation.error_iff e).1 h.1
  | ok p =>
    refine (isClosed_addressOf_iff s (isRead_of_namedPath hp)).trans ⟨fun h => ⟨.ok p, ?_⟩, ?_⟩
    · rintro q uri hq huri
      cases hq
      exact h uri huri
    · rintro ⟨_, h⟩ uri huri
      exact h p uri rfl huri

theorem isClosed_checkScheme_iff (u : Url) (location : Value) :
    IsClosed (checkScheme u location) ↔
      (supportedSchemes.contains u.scheme → IsWellFormed u) := by
  rw [checkScheme]
  split
  · next hs => exact (IsClosed.ok_iff u).trans ⟨fun h _ => h, fun h => h hs⟩
  · next hs =>
    exact iff_of_true ((IsClosed.error_iff _).2 (isLocationError_location _ _))
      fun h => absurd h hs

theorem authority_ne_nil_iff [HostNames] {u : Url} (k : List Char × Authority) :
    (u.normalized k.1 k.2).authority ≠ "" ↔ k.1 ≠ [] := by
  rw [normalized, ne_eq, ← String.toList_eq_nil_iff, String.toList_ofList]

theorem isWellFormed_schemedUrl?_iff [HostNames] {s : String} {u : Url} (h : schemedUrl? s = some u)
    (hs : supportedSchemes.contains u.scheme) :
    IsWellFormed u ↔ if u.scheme = "file" then IsGrounded u else u.HasHost := by
  split
  · next hf =>
    obtain ⟨v, k, hv, -, hk, rfl⟩ := normalized_of_schemedUrl? h
    refine isWellFormed_file_iff hf fun ha => ?_
    exact isRooted_normalized (isRooted_of_verbatim hv) hk ((authority_ne_nil_iff k).1 ha)
  · next hf => exact isWellFormed_host_iff hs hf

theorem hasHost_schemedUrl?_iff [HostNames] {s : String} {u : Url} (h : schemedUrl? s = some u)
    (hascii : ∀ c ∈ s.toList, isAsciiChar c = true) (hs : hostSchemes.contains u.scheme) :
    u.HasHost ↔ u.authority ≠ "" := by
  obtain ⟨v, k, hv, -, hk, rfl⟩ := normalized_of_schemedUrl? h
  have hplain : ∀ c ∈ v.authority.toList, isAsciiChar c = true := fun c hc =>
    hascii c (authority_subset_of_verbatim hv hc)
  rw [hasHost_normalized_iff (checked_of_verbatim hv) hplain hs hk, authority_ne_nil_iff]

theorem isClosed_textToUrl_iff [HostNames] (cwd : PosixPath) (base : Option Value) (s : String) :
    IsClosed (textToUrl cwd base s) ↔ IsSettledText cwd base s := by
  rw [textToUrl_eq, IsSettledText]
  split
  · next h =>
    refine iff_of_true ((IsClosed.error_iff _).2 (isLocationError_location _ _)) fun hne hnull => ?_
    exact (h.elim hne hnull).elim
  · next h =>
    rw [not_or] at h
    rw [forall_prop_of_true h.1, forall_prop_of_true h.2]
    split
    · exact isClosed_pathToUrl_iff cwd base _
    · cases hu : schemedUrl? s with
      | none => exact isClosed_pathToUrl_iff cwd base _
      | some u =>
        refine (isClosed_checkScheme_iff u _).trans (forall_congr' fun hs => ?_)
        exact isWellFormed_schemedUrl?_iff hu hs

theorem isRooted_of_copy [HostNames] {u v : Url} (h : copy u = .ok v)
    (ha : v.authority.toList ≠ []) :
    IsRooted v.path.toList := by
  obtain ⟨s, -, hv⟩ := Run.exists_of_bind_eq_ok h
  exact isRooted_of_verbatim hv ha

theorem isClosed_copy_iff [HostNames] (u : Url) (location : Value) :
    IsClosed (((copy u).mapError urlFailure).bind fun v => checkScheme v location) ↔
      IsSettledUrl u := by
  rw [IsSettledUrl]
  cases hv : copy u with
  | error e =>
    refine iff_of_false (fun h => not_isLocationError_fault _ ((IsClosed.error_iff _).1 h)) ?_
    rintro ⟨v, hv, _⟩
    cases hv
  | ok v =>
    refine (isClosed_checkScheme_iff v location).trans ?_
    have hwell (hs : supportedSchemes.contains v.scheme) :
        IsWellFormed v ↔ if v.scheme = "file" then IsGrounded v else v.HasHost := by
      split
      · next hf =>
        refine isWellFormed_file_iff hf fun ha => isRooted_of_copy hv ?_
        simpa using ha
      · next hf => exact isWellFormed_host_iff hs hf
    constructor
    · exact fun h => ⟨v, rfl, fun hs => (hwell hs).1 (h hs)⟩
    · rintro ⟨w, hw, h⟩ hs
      cases hw
      exact (hwell hs).2 (h hs)

theorem isSettledPath_of_noNull [HostNames] {cwd : PosixPath} {base : Option Value} {d : FilePath}
    (hb : baseDirectory cwd base = .ok d) (hd : '\x00' ∉ d.toChars) {s : List Char}
    (hs : '\x00' ∉ s) : IsSettledPath cwd base s := by
  have hnull {t u : List Char} (h : MadeOf t u) (hu : '\x00' ∉ u) : '\x00' ∉ t := fun hm =>
    (h _ hm).elim (by simp [IsPunctuation]) hu
  refine ⟨.inr ((failsAsLocation_baseDirectory_iff cwd base).1 (hb ▸ .ok d)), fun p uri hp _ => ?_⟩
  rw [namedPath] at hp
  split at hp
  · cases hp
    refine hnull (FilePath.madeOf_urlPath (.inr rfl)) (hnull (Win32Path.madeOf_normal s) hs)
  · have hboth : '\x00' ∉ d.toChars ++ s := fun hm => (List.mem_append.1 hm).elim hd hs
    rw [hb, Except.map, Except.ok.injEq] at hp
    cases d with
    | posix d =>
      rw [← hp]
      refine hnull (FilePath.madeOf_urlPath (.inl rfl)) (hnull (PosixPath.madeOf_normal _) ?_)
      exact hnull (PosixPath.madeOf_join d.toChars s) hboth
    | win32 d =>
      rw [← hp]
      refine hnull (FilePath.madeOf_urlPath (.inr rfl)) (hnull (Win32Path.madeOf_normal _) ?_)
      exact hnull (Win32Path.madeOf_join d.toChars s) hboth

theorem isClosed_iff_isSettled [HostNames] (cwd : PosixPath) (base : Option Value)
    (location : Value) :
    IsClosed (toUrl cwd base location) ↔ IsSettled cwd base location := by
  rw [toUrl.eq_def]
  split
  · next u =>
    rw [IsSettled]
    split
    · exact isClosed_pathToUrl_iff cwd base _
    · refine Iff.trans (iff_of_eq (congrArg IsClosed ?_)) (isClosed_copy_iff u (.url u))
      rw [copy]
      cases u.render with
      | error e => rfl
      | ok s => rfl
  · exact isClosed_textToUrl_iff cwd base _
  · next hurl hpath =>
    have hsettled : IsSettled cwd base location ↔
        ∀ t, location.text? = some t → IsSettledText cwd base t.toString := by
      rw [IsSettled]
      all_goals assumption
    rw [hsettled]
    cases location.text? with
    | some t =>
      refine (isClosed_textToUrl_iff cwd base _).trans ⟨?_, fun h => h t rfl⟩
      rintro h t' ht
      cases ht
      exact h
    | none =>
      refine iff_of_true ((IsClosed.error_iff _).2 (isLocationError_location _ _)) fun t ht => ?_
      cases ht

/-- What a location comes to is well-formed, or a failure of the location, exactly if the location
settles where it leads. Every path without NUL does so below a directory without NUL, and so does
every address in ASCII that asks for a host and has an authority. -/
theorem isClosed_toUrl_iff [HostNames] (cwd : PosixPath) (base : Option Value) :
    (∀ location, IsClosed (toUrl cwd base location) ↔ IsSettled cwd base location) ∧
      (∀ d s, baseDirectory cwd base = .ok d → '\x00' ∉ d.toChars → '\x00' ∉ s →
        IsSettledPath cwd base s) ∧
      ∀ s u, schemedUrl? s = some u → (∀ c ∈ s.toList, isAsciiChar c = true) →
        hostSchemes.contains u.scheme → (u.HasHost ↔ u.authority ≠ "") :=
  ⟨isClosed_iff_isSettled cwd base, fun _ _ hb hd hs => isSettledPath_of_noNull hb hd hs,
    fun _ _ hu hascii hs => hasHost_schemedUrl?_iff hu hascii hs⟩

theorem isClosed_below_drive :
    (baseDirectory workDirectory (some (.string "C:\\lib")) = .ok (.win32 ⟨"C:", "\\", ["lib"]⟩) ∧
      '\x00' ∉ (FilePath.win32 ⟨"C:", "\\", ["lib"]⟩).toChars ∧ '\x00' ∉ "../a b.ts".toList ∧
      IsClosed (toUrl workDirectory (some (.string "C:\\lib"))
        (.url ⟨"", "", "../a%20b.ts", "", "", none⟩))) ∧
    ∃ u, schemedUrl? "https://h/mod.ts" = some u ∧
      (∀ c ∈ "https://h/mod.ts".toList, isAsciiChar c = true) ∧
      hostSchemes.contains u.scheme ∧ u.HasHost := by
  have hb : baseDirectory workDirectory (some (.string "C:\\lib")) =
      .ok (.win32 ⟨"C:", "\\", ["lib"]⟩) := ok_of_toOption (by decide +kernel)
  have hd : '\x00' ∉ (FilePath.win32 ⟨"C:", "\\", ["lib"]⟩).toChars := by decide +kernel
  have hs : '\x00' ∉ "../a b.ts".toList := by decide +kernel
  have hpath : (Url.decodedPath ⟨"", "", "../a%20b.ts", "", "", none⟩).toList =
      "../a b.ts".toList := by decide +kernel
  have hu : schemedUrl? "https://h/mod.ts" =
      some ⟨"https", "h", "/mod.ts", "", "", some ⟨none, none, some ['h'], none⟩⟩ := by
    decide +kernel
  have hascii : ∀ c ∈ "https://h/mod.ts".toList, isAsciiChar c = true :=
    List.all_eq_true.1 (by decide +kernel)
  obtain ⟨hiff, hsettled, hhost⟩ := isClosed_toUrl_iff workDirectory (some (.string "C:\\lib"))
  refine ⟨⟨hb, hd, hs, (hiff _).2 ?_⟩, _, hu, hascii, by decide, ?_⟩
  · rw [IsSettled, if_pos (by decide +kernel), hpath]
    exact hsettled _ _ hb hd hs
  · exact (hhost _ _ hu hascii (by decide)).2 (by decide)

theorem hostless_address_of_text : ∃ u, toUrl workDirectory none (.string "http:mod.ts") = .ok u ∧
    u.render = .ok "http:///mod.ts" ∧ ¬IsWellFormed u := by
  refine ⟨⟨"http", "", "mod.ts", "", "", some ⟨none, none, some [], none⟩⟩, ?_, ?_, fun h => ?_⟩
  · rw [toUrl_string, textToUrl_eq]
    apply ok_of_toOption
    decide +kernel
  · decide +kernel
  · obtain ⟨host, hh, hne⟩ := h.host (by decide)
    cases hh
    exact hne rfl

end EmitBridge.Location
