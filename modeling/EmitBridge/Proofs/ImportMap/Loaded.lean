import EmitBridge.Proofs.ImportMap.Base
import EmitBridge.Proofs.ImportMap.Request
import EmitBridge.Proofs.Url.Parent

/-! The base of an import map that was loaded. It comes from the address that the file was answered
with, and from nothing else. -/

namespace EmitBridge

open HostNames.AsciiOnly

open Run Url

namespace Url

structure IsHierarchical [HostNames] (s : String) (u : Url) : Prop where
  verbatim : Url.verbatim s = .ok u
  scheme : u.scheme ≠ ""
  rooted : u.authority ≠ "" ∨ ∃ rest, u.path.toList = '/' :: rest

theorem IsHierarchical.isRooted [HostNames] {s : String} {u : Url} (h : IsHierarchical s u) :
    IsRooted u.path.toList := by
  rcases h.rooted with ha | hp
  · exact isRooted_of_verbatim h.verbatim (mt String.toList_eq_nil_iff.mp ha)
  · exact .inr hp

end Url

namespace SerializedImportMap

variable {w w' : World} {b b' : Bridge} {setting setting' location location' : Value}
  {m m' : ModuleResponse} {d d' : ImportMapDocument} {u : Url}

def Answers [HostNames] (w : World) (b : Bridge) (setting location : Value) (m : ModuleResponse) :
    Prop :=
  ∃ specifier, specifierOf w location = .ok specifier ∧
    (b.load w (fileRequest setting specifier)).outcome = .ok (some (.module m))

theorem outcome_fetch [HostNames] (specifier : String) :
    (fetch w b setting specifier).outcome = (do
      let response ← (b.load w (fileRequest setting specifier)).outcome.mapError
        (ofLoadFailure specifier)
      ofResponse w.nesting.importMap specifier response) := by
  rw [fetch, outcome_span (loggable_specifier specifier), outcome_bind, outcome_mapFailure]
  simp only [outcome_ofExcept]

theorem outcome_conclude (specifier : String) (r : ImportMapDocument × Url) :
    (conclude specifier r).outcome = make r.2.parentDirectory r.1.imports r.1.scopes := by
  simp only [conclude, outcome_bind, outcome_ofExcept, outcome_log]
  cases h : r.2.parentDirectory.render.mapError Location.urlFailure with
  | error e =>
    rw [make, h]
    rfl
  | ok shown => rfl

theorem outcome_load_of_specifier [HostNames] {specifier : String}
    (hs : specifierOf w location = .ok specifier) :
    (load w b setting location).outcome = (do
      let response ← (b.load w (fileRequest setting specifier)).outcome.mapError
        (ofLoadFailure specifier)
      let r ← ofResponse w.nesting.importMap specifier response
      make r.2.parentDirectory r.1.imports r.1.scopes) := by
  rw [outcome_load, hs]
  show (do (conclude specifier (← (fetch w b setting specifier).outcome)).outcome) = _
  simp only [outcome_fetch, outcome_conclude, bind_assoc]

theorem outcome_load_of_document [HostNames] (ha : Answers w b setting location m)
    (hd : ImportMapDocument.read w.nesting.importMap m.content = .ok d) :
    (load w b setting location).outcome =
      (Url.verbatim m.specifier).mapError Location.urlFailure >>= fun u =>
        make u.parentDirectory d.imports d.scopes := by
  obtain ⟨specifier, hs, hm⟩ := ha
  rw [outcome_load_of_specifier hs, hm]
  show (ofResponse w.nesting.importMap specifier (some (.module m)) >>= _) = _
  rw [ofResponse, hd]
  cases (Url.verbatim m.specifier).mapError Location.urlFailure <;> rfl

theorem outcome_load_of_answer [HostNames] (ha : Answers w b setting location m)
    (hd : ImportMapDocument.read w.nesting.importMap m.content = .ok d)
    (hu : Url.verbatim m.specifier = .ok u) :
    (load w b setting location).outcome = make u.parentDirectory d.imports d.scopes := by
  rw [outcome_load_of_document ha hd, hu]
  rfl

theorem baseUrl_make (base : Url) (imports : Option Section) (scopes : Option Scopes) :
    (make base imports scopes).map SerializedImportMap.baseUrl =
      (make base none none).map SerializedImportMap.baseUrl := by
  cases h : base.render with
  | error e => rw [make_of_unreadable h, make_of_unreadable h]
  | ok text =>
    rw [make_eq h, make_eq h]
    split <;> rfl

theorem load_eq_ok_iff [HostNames] (ha : Answers w b setting location m)
    (hd : ImportMapDocument.read w.nesting.importMap m.content = .ok d)
    (hu : IsHierarchical m.specifier u) :
    (load w b setting location).outcome =
        .ok ⟨Text.ofString u.directoryText, ImportMap.documentText d.imports d.scopes⟩ ↔
      relativeSchemes.contains u.scheme ∧ u.ShowsAuthority ∧ KeepsDirectory u.path.toList := by
  rw [outcome_load_of_answer ha hd hu.verbatim, make_eq_ok_iff,
    ← render_parentDirectory_iff hu.scheme (separated_of_verbatim hu.verbatim) hu.isRooted]
  constructor
  · rintro ⟨text, ht, -, hs⟩
    rw [ht, Text.ofString_injective (SerializedImportMap.mk.inj hs).1]
  · exact fun h => ⟨_, h, getLast?_directoryText u, rfl⟩

/-- The base of an import map that was loaded. For an answer with an address of any scheme it is
this address, cut behind the last slash of its path, exactly if the scheme has relative addresses,
the authority is shown as it is written and the path keeps its directory; without dot segments it
does so exactly if no escape before that slash can be undone. The base depends on nothing but the
address of the answer. -/
theorem loads_below_answer [HostNames] (ha : Answers w b setting location m)
    (hd : ImportMapDocument.read w.nesting.importMap m.content = .ok d)
    (hu : IsHierarchical m.specifier u) :
    ((load w b setting location).outcome =
        .ok ⟨Text.ofString u.directoryText, ImportMap.documentText d.imports d.scopes⟩ ↔
      relativeSchemes.contains u.scheme ∧ u.ShowsAuthority ∧ KeepsDirectory u.path.toList) ∧
    (IsUnescaped u.path.toList → back u.path.toList ≠ ['.', '.'] → KeepsDirectory u.path.toList) ∧
    (IsUndotted u.path.toList → (KeepsDirectory u.path.toList ↔ IsUnescaped u.path.toList)) ∧
    ∀ {w' b' setting' location' m' d'}, Answers w' b' setting' location' m' →
      ImportMapDocument.read w'.nesting.importMap m'.content = .ok d' → m'.specifier = m.specifier →
      (load w' b' setting' location').outcome.map SerializedImportMap.baseUrl =
        (load w b setting location).outcome.map SerializedImportMap.baseUrl := by
  refine ⟨load_eq_ok_iff ha hd hu, keepsDirectory_of_isUnescaped hu.isRooted,
    keepsDirectory_iff_of_isUndotted hu.isRooted, fun ha' hd' hsame => ?_⟩
  rw [outcome_load_of_answer ha hd hu.verbatim,
    outcome_load_of_answer ha' hd' (hsame ▸ hu.verbatim), baseUrl_make]
  exact (baseUrl_make _ _ _).symm

def redirecting (specifier : String) : Bridge :=
  ⟨.function ⟨false, fun _ =>
    ⟨.ok (.response (.module ⟨specifier, none, .bytes (Utf8.encodeChars "\x7b\x7d".toList)⟩)), 0⟩⟩⟩

theorem answers_redirecting [HostNames] {requested : String}
    (hs : specifierOf w location = .ok requested)
    (specifier : String) : Answers w (redirecting specifier) .null location
      ⟨specifier, none, .bytes (Utf8.encodeChars "\x7b\x7d".toList)⟩ :=
  ⟨requested, hs, rfl⟩

theorem read_redirected :
    ImportMapDocument.read World.bare.nesting.importMap
      (.bytes (Utf8.encodeChars "\x7b\x7d".toList)) = .ok ⟨none, none⟩ :=
  Location.ok_of_toOption (by decide +kernel)

theorem specifierOf_mapFile :
    specifierOf .bare (.string "https://h/m.json") = .ok "https://h/m.json" := by
  let u : Url := ⟨"https", "h", "/m.json", "", "", some ⟨none, none, some "h".toList, none⟩⟩
  have hu : Location.toUrl World.bare.cwd none (.string "https://h/m.json") = .ok u := by
    rw [Location.toUrl_string, Location.textToUrl_eq]
    exact Location.ok_of_toOption (by decide +kernel)
  have hshown : u.render = .ok "https://h/m.json" := by decide +kernel
  rw [specifierOf, hu]
  show u.render.mapError Location.urlFailure = _
  rw [hshown]
  rfl

theorem redirect_moves_base :
    (load .bare (redirecting "HTTPS://me@h:8443/a%/./b/../maps/m%20x.json?y") .null
      (.string "https://h/m.json")).outcome = .ok ⟨"https://me@h:8443/a%/maps/", "\x7b\x7d"⟩ := by
  let u : Url := ⟨"https", "me@h:8443", "/a%/./b/../maps/m%20x.json", "y", "", none⟩
  have hu : IsHierarchical "HTTPS://me@h:8443/a%/./b/../maps/m%20x.json?y" u :=
    ⟨Location.ok_of_toOption (by decide +kernel), by decide, .inl (by decide)⟩
  obtain ⟨hbase, hkeeps, -, -⟩ :=
    loads_below_answer (answers_redirecting specifierOf_mapFile _) read_redirected hu
  have hunescaped : IsUnescaped u.path.toList := .inr (by decide +kernel)
  have hup : back u.path.toList ≠ ['.', '.'] := by decide +kernel
  have hshown : u.ShowsAuthority :=
    ⟨⟨some "me".toList, none, some "h".toList, some 8443⟩, by decide +kernel, by decide +kernel⟩
  have htext : u.directoryText = "https://me@h:8443/a%/maps/" := by decide +kernel
  rw [hbase.mpr ⟨by decide, hshown, hkeeps hunescaped hup⟩, htext]
  rfl

theorem escape_lost_in_base : ∃ u, IsHierarchical "https://h/a%20b/map.json" u ∧
    u.directoryText = "https://h/a%20b/" ∧
    (load .bare (redirecting "https://h/a%20b/map.json") .null
      (.string "https://h/m.json")).outcome = .ok ⟨"https://h/a b/", "\x7b\x7d"⟩ := by
  let u : Url := ⟨"https", "h", "/a%20b/map.json", "", "", none⟩
  have hu : Url.verbatim "https://h/a%20b/map.json" = .ok u :=
    Location.ok_of_toOption (by decide +kernel)
  have hparent : u.parentDirectory.render = .ok "https://h/a b/" := by decide +kernel
  refine ⟨u, ⟨hu, by decide, .inl (by decide)⟩, by decide +kernel, ?_⟩
  rw [outcome_load_of_answer (answers_redirecting specifierOf_mapFile _) read_redirected hu,
    make_eq hparent, if_pos (by decide)]
  rfl

end SerializedImportMap

end EmitBridge
