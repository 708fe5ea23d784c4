import EmitBridge.Proofs.ImportMap.Loaded
import EmitBridge.Proofs.Location.Written

/-! What a load of an import map file can fail with: the failure of its location, or one that tells
of the import map. -/

namespace EmitBridge

open HostNames.AsciiOnly

open Run Event Url

namespace Location

def IsReadable [HostNames] : Value → Prop
  | .url u => (u.scheme.isEmpty && !u.decodedPath.isEmpty) = true ∨
      ∃ v, copy u = .ok v ∧ (supportedSchemes.contains v.scheme → ∃ a, v.parts = .ok a)
  | _ => True

def IsShown (r : Except Failure Url) : Prop :=
  FailsAsLocation r ∧ ∀ u, r = .ok u → ∃ a, u.parts = .ok a

theorem isShown_path [HostNames] (cwd : PosixPath) (s : List Char) : IsShown
    (pathToUrl cwd none s) :=
  ⟨failsAsLocation_pathToUrl isBase_none s, fun _ hu => exists_parts_of_path hu⟩

theorem isShown_text [HostNames] (cwd : PosixPath) (s : String) : IsShown (textToUrl cwd none s) :=
  ⟨failsAsLocation_textToUrl isBase_none s,
    fun u hu => (exists_render_iff u).mp (exists_render_of_text hu)⟩

theorem isShown_url_iff [HostNames] (cwd : PosixPath) (u : Url) :
    IsShown (toUrl cwd none (.url u)) ↔ IsReadable (.url u) := by
  rw [toUrl, IsReadable]
  split
  · next h => exact iff_of_true (isShown_path cwd _) (.inl h)
  · next h =>
    rw [or_iff_right h, copy]
    have hfails {e : UrlError} : ¬IsShown (.error (urlFailure e)) := fun h =>
      FailsAsLocation.not_fault _ h.1
    cases u.render with
    | error e => exact iff_of_false hfails (by rintro ⟨v, hv, -⟩; cases hv)
    | ok s =>
      simp only [Except.bind]
      cases hv : verbatim s with
      | error e =>
        simp only [Except.mapError, bind, Except.bind, hv]
        exact iff_of_false hfails (by rintro ⟨v, hv, -⟩; cases hv)
      | ok v =>
        simp only [Except.mapError, bind, Except.bind, hv, Except.ok.injEq, exists_eq_left']
        refine (and_iff_right (failsAsLocation_checkScheme v _)).trans ⟨fun h hs => ?_, ?_⟩
        · exact h v (if_pos hs)
        · intro h w hw
          obtain ⟨rfl, hs⟩ := checkScheme_eq_ok hw
          exact h hs

theorem isShown_iff [HostNames] (cwd : PosixPath) (location : Value) :
    IsShown (toUrl cwd none location) ↔ IsReadable location := by
  by_cases h : ∃ u, location = .url u
  · obtain ⟨u, rfl⟩ := h
    exact isShown_url_iff cwd u
  · have hreadable : IsReadable location := by
      cases location <;> first | trivial | exact absurd ⟨_, rfl⟩ h
    refine iff_of_true ?_ hreadable
    unfold toUrl
    split
    · exact absurd ⟨_, rfl⟩ h
    · exact isShown_text cwd _
    · split
      · exact isShown_text cwd _
      · exact ⟨(FailsAsLocation.error_iff _).mpr (isLocationError_location _ _), nofun⟩

end Location

namespace Url

def HasDirectory [HostNames] (s : String) : Prop :=
  ∃ u, Url.verbatim s = .ok u ∧ (relativeSchemes.contains u.scheme →
    (∃ a, Authority.read u.authority.toList = .ok a) ∧
      (u.scheme = "" → normalPath (parentPath u.path.toList) ≠ []))

end Url

namespace SerializedImportMap

variable {w : World} {b : Bridge} {setting location : Value}

theorem exists_make_iff [HostNames] {s : String} {u : Url} (hu : Url.verbatim s = .ok u)
    (imports : Option Section) (scopes : Option Scopes) :
    (∃ r, make u.parentDirectory imports scopes = .ok r) ↔ HasDirectory s := by
  have hmade : (∃ r, make u.parentDirectory imports scopes = .ok r) ↔
      ∃ text, u.parentDirectory.render = .ok text ∧ text.toList.getLast? = some '/' := by
    simp only [make_eq_ok_iff]
    constructor
    · rintro ⟨r, text, ht, hlast, -⟩
      exact ⟨text, ht, hlast⟩
    · rintro ⟨text, ht, hlast⟩
      exact ⟨_, text, ht, hlast, rfl⟩
  rw [hmade, HasDirectory, hu]
  simp only [Except.ok.injEq, exists_eq_left']
  by_cases hrel : relativeSchemes.contains u.scheme
  · rw [render_parentDirectory hrel, forall_prop_of_true hrel]
    cases ha : Authority.read u.authority.toList with
    | error e => exact iff_of_false nofun nofun
    | ok a =>
      simp only [Except.map, Except.ok.injEq, exists_eq_left', String.toList_ofList, exists_eq',
        true_and]
      exact getLast?_parentText_iff hrel
        (fun h => isRooted_of_verbatim hu (mt String.toList_eq_nil_iff.mp h)) ha
  · rw [render_parentDirectory_of_rootless hrel]
    exact iff_of_true ⟨_, rfl, by decide⟩ fun h => absurd h hrel

theorem make_error {base : Url} {imports : Option Section} {scopes : Option Scopes} {e : Failure}
    (h : make base imports scopes = .error e) : ∀ err, e ≠ .emit err := by
  rintro err rfl
  cases hr : base.render with
  | error e =>
    rw [make_of_unreadable hr] at h
    cases h
  | ok text =>
    rw [make_eq hr] at h
    split at h <;> cases h

def IsImportMapError (e : Failure) : Prop := ∃ err, e = .emit err ∧ err.kind = .importMap

theorem ofLoadFailure_cases (specifier : String) (e : Failure) :
    IsImportMapError e ∧ ofLoadFailure specifier e = e ∨
      ¬IsImportMapError e ∧ ∃ problem,
        ofLoadFailure specifier e = failure specifier problem (some e.name) := by
  unfold ofLoadFailure
  split
  · exact .inl ⟨⟨_, rfl, rfl⟩, rfl⟩
  · next hother =>
    refine .inr ⟨?_, _, rfl⟩
    rintro ⟨⟨kind, message, details, stage, cause, subject⟩, rfl, rfl⟩
    exact hother _ _ _ _ _ rfl

theorem ofResponse_cases [HostNames] (room : Nat) (specifier : String)
    (response : Option LoadResponse) :
    (∃ m d, response = some (.module m) ∧ ImportMapDocument.read room m.content = .ok d ∧
      ofResponse room specifier response =
        (Url.verbatim m.specifier).mapError Location.urlFailure >>= fun u => .ok (d, u)) ∨
    (∃ problem cause,
      ofResponse room specifier response = .error (failure specifier problem cause)) ∨
    ∃ m f, response = some (.module m) ∧
      ImportMapDocument.read room m.content = .error (.tooDeep f) := by
  unfold ofResponse
  split
  · exact .inr (.inl ⟨_, _, rfl⟩)
  · next m =>
    cases hd : ImportMapDocument.read room m.content with
    | ok d => exact .inl ⟨m, d, rfl, hd, rfl⟩
    | error r =>
      cases r with
      | tooDeep f => exact .inr (.inr ⟨m, f, rfl, hd⟩)
      | _ => exact .inr (.inl ⟨_, _, rfl⟩)
  · exact .inr (.inl ⟨_, _, rfl⟩)

structure IsUsable [HostNames] (w : World) (m : ModuleResponse) : Prop where
  directory : ∀ d, ImportMapDocument.read w.nesting.importMap m.content = .ok d →
    HasDirectory m.specifier
  shallow : ∀ f, ImportMapDocument.read w.nesting.importMap m.content ≠ .error (.tooDeep f)

/-- How a load of an import map file fails: as its location does, as the bridge does if that tells
of an import map, or by telling of the import map at its address, with any other failure of the
bridge as the cause. -/
inductive IsTold [HostNames] (w : World) (b : Bridge) (setting location : Value) : Failure → Prop
  | location {e : Failure} : Location.toUrl w.cwd none location = .error e →
    Location.IsLocationError e → IsTold w b setting location e
  | passed {specifier : String} {e : Failure} : specifierOf w location = .ok specifier →
    (b.load w (fileRequest setting specifier)).outcome = .error e → IsImportMapError e →
      IsTold w b setting location e
  | made {specifier : String} {err : EmitError Value} : specifierOf w location = .ok specifier →
    err.kind = .importMap → err.specifier? = some (.string specifier) →
      (∀ e, (b.load w (fileRequest setting specifier)).outcome = .error e →
        ¬IsImportMapError e ∧ err.cause = some e.name) →
      IsTold w b setting location (.emit err)

theorem specifierOf_eq_error [HostNames] {e : Failure} (hl : Location.IsReadable location)
    (h : specifierOf w location = .error e) :
    Location.toUrl w.cwd none location = .error e ∧ Location.IsLocationError e := by
  obtain ⟨hfails, hparts⟩ := (Location.isShown_iff w.cwd location).mpr hl
  rw [specifierOf] at h
  rcases bind_eq_error_iff.mp h with h | ⟨u, hu, h⟩
  · exact ⟨h, hfails e h⟩
  · obtain ⟨text, ht⟩ := (Location.exists_render_iff u).mpr (hparts u hu)
    rw [ht] at h
    cases h

theorem isReadable_of_told [HostNames] (h : ∀ e, specifierOf w location = .error e →
    Location.toUrl w.cwd none location = .error e ∧ Location.IsLocationError e) :
    Location.IsReadable location := by
  refine (Location.isShown_iff w.cwd location).mp ⟨fun e he => ?_, fun u hu => ?_⟩
  · refine (h e ?_).2
    rw [specifierOf, he]
    rfl
  · cases hp : u.parts with
    | ok a => exact ⟨a, rfl⟩
    | error e =>
      have hrender : u.render = .error e := by
        rw [Url.render, hp]
        rfl
      have herror : specifierOf w location = .error (Location.urlFailure e) := by
        rw [specifierOf, hu]
        show u.render.mapError Location.urlFailure = _
        rw [hrender]
        rfl
      have hfailed := (h _ herror).1
      rw [hu] at hfailed
      cases hfailed

theorem outcome_load_of_error [HostNames] {e : Failure} (h : specifierOf w location = .error e) :
    (load w b setting location).outcome = .error e := by
  rw [outcome_load, h]
  rfl

theorem isTold_of_loadFailure [HostNames] {specifier : String} {e : Failure}
    (hs : specifierOf w location = .ok specifier)
    (h : (b.load w (fileRequest setting specifier)).outcome = .error e) :
    IsTold w b setting location (ofLoadFailure specifier e) := by
  rcases ofLoadFailure_cases specifier e with ⟨himport, hsame⟩ | ⟨hother, problem, hmade⟩
  · rw [hsame]
    exact .passed hs h himport
  · rw [hmade]
    refine .made hs rfl rfl fun e' he' => ?_
    cases h.symm.trans he'
    exact ⟨hother, rfl⟩

theorem isTold_of_response [HostNames] {specifier : String} {response : Option LoadResponse}
    {e : Failure} (hs : specifierOf w location = .ok specifier)
    (hresponse : (b.load w (fileRequest setting specifier)).outcome = .ok response)
    (hanswer : ∀ m, response = some (.module m) → IsUsable w m)
    (h : (ofResponse w.nesting.importMap specifier response >>= fun p =>
      make p.2.parentDirectory p.1.imports p.1.scopes) = .error e) :
    IsTold w b setting location e := by
  rcases ofResponse_cases w.nesting.importMap specifier response with
    ⟨m, d, rfl, hd, hread⟩ | ⟨problem, cause, hrefused⟩ | ⟨m, f, rfl, hdeep⟩
  · obtain ⟨u, hu, hdirectory⟩ := (hanswer m rfl).directory d hd
    obtain ⟨r, hr⟩ := (exists_make_iff hu d.imports d.scopes).mpr ⟨u, hu, hdirectory⟩
    rw [hread, hu] at h
    have hmake : make u.parentDirectory d.imports d.scopes = .error e := h
    rw [hr] at hmake
    cases hmake
  · rw [hrefused] at h
    cases h
    refine .made hs rfl rfl fun e' he' => ?_
    cases hresponse.symm.trans he'
  · exact absurd hdeep ((hanswer m rfl).shallow f)

theorem isTold_of_error [HostNames] {e : Failure} (hl : Location.IsReadable location)
    (hanswer : ∀ m, Answers w b setting location m → IsUsable w m)
    (h : (load w b setting location).outcome = .error e) : IsTold w b setting location e := by
  cases hs : specifierOf w location with
  | error e' =>
    rw [outcome_load_of_error hs] at h
    cases h
    obtain ⟨hu, hlocation⟩ := specifierOf_eq_error hl hs
    exact .location hu hlocation
  | ok specifier =>
    rw [outcome_load_of_specifier hs] at h
    rcases bind_eq_error_iff.mp h with h | ⟨response, hresponse, h⟩
    · obtain ⟨e', he', rfl⟩ := mapError_eq_error_iff.mp h
      exact isTold_of_loadFailure hs he'
    · have hbridge := mapError_eq_ok_iff.mp hresponse
      refine isTold_of_response hs hbridge (fun m hm => hanswer m ⟨specifier, hs, ?_⟩) h
      rw [hbridge, hm]

theorem IsTold.exists_emit [HostNames] {e : Failure} (h : IsTold w b setting location e)
    {specifier : String} (hs : specifierOf w location = .ok specifier) : ∃ err, e = .emit err := by
  cases h with
  | location hu =>
    rw [specifierOf, hu] at hs
    cases hs
  | passed _ _ himport =>
    obtain ⟨err, rfl, -⟩ := himport
    exact ⟨err, rfl⟩
  | made => exact ⟨_, rfl⟩

theorem hasDirectory_of_told [HostNames] {m : ModuleResponse} {d : ImportMapDocument}
    (h : ∀ e, (load w b setting location).outcome = .error e → IsTold w b setting location e)
    (ha : Answers w b setting location m)
    (hd : ImportMapDocument.read w.nesting.importMap m.content = .ok d) :
    HasDirectory m.specifier := by
  obtain ⟨specifier, hs, -⟩ := id ha
  cases hu : Url.verbatim m.specifier with
  | error e =>
    have hload : (load w b setting location).outcome = .error (Location.urlFailure e) := by
      rw [outcome_load_of_document ha hd, hu]
      rfl
    obtain ⟨err, herr⟩ := (h _ hload).exists_emit hs
    cases herr
  | ok u =>
    rw [outcome_load_of_answer ha hd hu] at h
    refine (exists_make_iff hu d.imports d.scopes).mp ?_
    cases hmake : make u.parentDirectory d.imports d.scopes with
    | ok r => exact ⟨r, rfl⟩
    | error e =>
      obtain ⟨err, rfl⟩ := (h e hmake).exists_emit hs
      exact absurd rfl (make_error hmake err)

theorem shallow_of_told [HostNames] {m : ModuleResponse} {f : Fault}
    (h : ∀ e, (load w b setting location).outcome = .error e → IsTold w b setting location e)
    (ha : Answers w b setting location m) :
    ImportMapDocument.read w.nesting.importMap m.content ≠ .error (.tooDeep f) := by
  intro hdeep
  obtain ⟨specifier, hs, hm⟩ := ha
  have hload : (load w b setting location).outcome = .error (.fault f) := by
    rw [outcome_load_of_specifier hs, hm]
    show (ofResponse w.nesting.importMap specifier (some (.module m)) >>= _) = _
    rw [ofResponse, hdeep]
    rfl
  obtain ⟨err, herr⟩ := (h _ hload).exists_emit hs
  cases herr

theorem isTold_iff [HostNames] (w : World) (b : Bridge) (setting location : Value) :
    (∀ e, (load w b setting location).outcome = .error e → IsTold w b setting location e) ↔
      Location.IsReadable location ∧ ∀ m, Answers w b setting location m → IsUsable w m := by
  refine ⟨fun h => ⟨isReadable_of_told (w := w) fun e he => ?_, fun m ha =>
    ⟨fun d => hasDirectory_of_told h ha, fun f => shallow_of_told h ha⟩⟩,
    fun h e => isTold_of_error h.1 h.2⟩
  have htold := h e (outcome_load_of_error he)
  cases htold with
  | location hu hlocation => exact ⟨hu, hlocation⟩
  | passed hs =>
    rw [he] at hs
    cases hs
  | made hs =>
    rw [he] at hs
    cases hs

/-- A load of an import map file asks the bridge once, if its location is shown, and fails as its
location or by telling of the import map, exactly if the location is no address that cannot be read
and no module that it is answered with is nested too deep, or holds a well-formed import map but has
no address with a directory. -/
theorem load_told_iff [HostNames] (w : World) (b : Bridge) (setting location : Value) :
    ((∀ e, (load w b setting location).outcome = .error e → IsTold w b setting location e) ↔
      Location.IsReadable location ∧ ∀ m, Answers w b setting location m → IsUsable w m) ∧
    ∀ specifier, specifierOf w location = .ok specifier →
      requests (load w b setting location).trace = [fileRequest setting specifier] := by
  refine ⟨isTold_iff w b setting location, fun specifier hs => ?_⟩
  rw [trace_load, hs]
  exact b.requests_load _

def raising (f : Fault) : Bridge := ⟨.function ⟨false, fun _ => ⟨.error (.fault f), 0⟩⟩⟩

theorem fault_of_loader_told : ∃ err,
    (load .bare (raising .nullByte) .null (.string "https://h/m.json")).outcome =
      .error (.emit err) ∧
    IsTold .bare (raising .nullByte) .null (.string "https://h/m.json") (.emit err) ∧
    err.specifier? = some (.string "https://h/m.json") ∧ err.cause = some "ValueError" ∧
    requests (load .bare (raising .nullByte) .null (.string "https://h/m.json")).trace =
      [fileRequest .null "https://h/m.json"] := by
  obtain ⟨htold, hrequests⟩ := load_told_iff .bare (raising .nullByte) .null
    (.string "https://h/m.json")
  have hraised : ((raising .nullByte).load .bare (fileRequest .null "https://h/m.json")).outcome =
      .error (.fault .nullByte) := rfl
  have hload : ∃ err, (load .bare (raising .nullByte) .null (.string "https://h/m.json")).outcome =
      .error (.emit err) ∧ err.specifier? = some (.string "https://h/m.json") ∧
        err.cause = some "ValueError" := by
    rw [outcome_load_of_specifier specifierOf_mapFile, hraised]
    exact ⟨_, rfl, rfl, rfl⟩
  obtain ⟨err, herr, hspecifier, hcause⟩ := hload
  refine ⟨err, herr, htold.mpr ⟨trivial, ?_⟩ _ herr, hspecifier, hcause,
    hrequests _ specifierOf_mapFile⟩
  rintro m ⟨specifier, hs, hm⟩
  cases specifierOf_mapFile.symm.trans hs
  rw [hraised] at hm
  cases hm

theorem unreadable_answer_untold :
    (load .bare (redirecting "http://[") .null (.string "https://h/m.json")).outcome =
        .error (.fault (.url .bracket)) ∧
      ¬IsTold .bare (redirecting "http://[") .null (.string "https://h/m.json")
        (.fault (.url .bracket)) := by
  constructor
  · have hread : Url.verbatim "http://[" = .error .bracket := by decide +kernel
    rw [outcome_load_of_document (answers_redirecting specifierOf_mapFile _) read_redirected, hread]
    rfl
  · intro htold
    cases htold with
    | location _ hlocation => exact Location.not_isLocationError_fault _ hlocation
    | passed _ _ himport =>
      obtain ⟨err, herr, -⟩ := himport
      cases herr

end SerializedImportMap

end EmitBridge
