import EmitBridge.Proofs.ImportMap.Lossless
import EmitBridge.Proofs.Location.Joined
import EmitBridge.Proofs.Run.Trace
import EmitBridge.Proofs.Url.Directory

/-! The base of an inline import map. It is serialized exactly if the directory that it names is
written with a slash at the end. -/

namespace EmitBridge

open HostNames.AsciiOnly

open Url

theorem getLast?_ofString (s : String) :
    ((Text.ofString s).points.getLast? == some (CodePoint.ofChar '/')) =
      decide (s.toList.getLast? = some '/') := by
  have hpoints : (Text.ofString s).points = s.toList.map CodePoint.ofChar := rfl
  have hinj (c : Char) : CodePoint.ofChar c = CodePoint.ofChar '/' ↔ c = '/' := by
    refine ⟨fun h => ?_, congrArg CodePoint.ofChar⟩
    have hchar := congrArg CodePoint.toChar? h
    rw [CodePoint.toChar?_ofChar, CodePoint.toChar?_ofChar] at hchar
    exact Option.some.inj hchar
  rw [hpoints, List.getLast?_map, Bool.eq_iff_iff, beq_iff_eq, decide_eq_true_iff]
  cases s.toList.getLast? with
  | none => exact iff_of_false nofun nofun
  | some c =>
    rw [Option.map_some, Option.some.injEq, Option.some.injEq]
    exact hinj c

namespace SerializedImportMap

theorem make_of_unreadable {base : Url} {e : UrlError} (h : base.render = .error e)
    (imports : Option Section) (scopes : Option Scopes) :
    make base imports scopes = .error (Location.urlFailure e) := by
  rw [make, h]
  rfl

theorem make_eq {base : Url} {text : String} (h : base.render = .ok text) (imports : Option Section)
    (scopes : Option Scopes) :
    make base imports scopes =
      if text.toList.getLast? = some '/' then
        .ok ⟨Text.ofString text, ImportMap.documentText imports scopes⟩
      else .error (.invalid "SerializedImportMap" [⟨["base_url"],
        .custom ("base_url must end with '/': " ++ text), (Value.string text).quoted,
        (Value.string text).typeName⟩]) := by
  have hcheck : Check.directoryText (.string text) =
      if text.toList.getLast? = some '/' then .passed (Text.ofString text)
      else Check.refuse (.custom ("base_url must end with '/': " ++ text)) (.string text) := by
    have htext : Check.text (.string text) = .passed (Text.ofString text) := rfl
    rw [Check.directoryText, htext, Checked.andThen, getLast?_ofString, Text.toString_ofString]
    simp only [decide_eq_true_eq]
    rfl
  rw [make, h]
  simp only [Except.mapError, bind, Except.bind, readSerializedImportMap_eq, hcheck]
  split <;> rfl

theorem make_eq_ok_iff {base : Url} {imports : Option Section} {scopes : Option Scopes}
    {s : SerializedImportMap} :
    make base imports scopes = .ok s ↔
      ∃ text, base.render = .ok text ∧ text.toList.getLast? = some '/' ∧
        s = ⟨Text.ofString text, ImportMap.documentText imports scopes⟩ := by
  cases h : base.render with
  | error e =>
    rw [make_of_unreadable h]
    refine iff_of_false (fun hs => ?_) ?_
    · cases hs
    · rintro ⟨text, ht, -⟩
      cases ht
  | ok text =>
    rw [make_eq h]
    simp only [Except.ok.injEq, exists_eq_left']
    split
    · next hlast => rw [and_iff_right hlast, Except.ok.injEq, eq_comm]
    · next hlast =>
      refine iff_of_false (fun hs => ?_) fun hs => hlast hs.1
      cases hs

end SerializedImportMap

namespace Location

theorem keepsAuthority_of_parse [HostNames] {s : String} {u : Url} (h : schemedUrl? s = some u)
    (hhost : ∀ a, u.parts = .ok a → u.SetsOff a) : u.KeepsAuthority := by
  obtain ⟨v, k, hv, -, hk, rfl⟩ := normalized_of_schemedUrl? h
  have hauthority : (v.normalized k.1 k.2).authority.toList = k.1 := String.toList_ofList
  have hagain : ∃ b, Authority.read k.1 = .ok b ∧
      shownAuthority v.scheme k.1 b = shownAuthority v.scheme k.1 k.2 := by
    have hbracket := hhost k.2 rfl
    rw [SetsOff, hauthority] at hbracket
    rw [normalKnown] at hk
    split at hk
    · cases hk
      exact ⟨_, rfl, rfl⟩
    · exact shown_of_reread (checked_of_verbatim hv) (separated_of_verbatim hv).authority hk
        hbracket
  obtain ⟨b, hb, hsame⟩ := hagain
  have hread : Authority.read (v.normalized k.1 k.2).authority.toList = .ok b := by
    rw [hauthority]
    exact hb
  refine ⟨k.2, b, rfl, hread, ?_⟩
  rw [hauthority]
  exact hsame

theorem known_of_path [HostNames] {cwd : PosixPath} {base : Option Value} {s : List Char} {u : Url}
    (h : pathToUrl cwd base s = .ok u) : u.known = none := by
  obtain ⟨p, uri, -, -, hv⟩ := pathToUrl_eq_ok h
  exact known_of_verbatim hv

theorem keepsAuthority_of_toUrl [HostNames] {cwd : PosixPath} {base : Option Value}
    {location : Value} {u : Url} (h : toUrl cwd base location = .ok u) {a : Authority}
    (ha : u.parts = .ok a) (hhost : u.SetsOff a) : u.KeepsAuthority := by
  cases route_of_toUrl h with
  | text htext =>
    cases htext with
    | path hpath => exact (keepsAuthority_of_verbatim (known_of_path hpath)).mpr ⟨a, ha⟩
    | spelled hparse _ =>
      refine keepsAuthority_of_parse hparse fun b hb => ?_
      cases ha.symm.trans hb
      exact hhost
  | copied hv _ => exact (keepsAuthority_of_verbatim (known_of_verbatim hv)).mpr ⟨a, ha⟩

end Location

namespace ImportMap

def base (m : ImportMap) : Value :=
  match m.baseUrl with
  | some b => .ofMapBase b
  | none => .string "."

/-- The import map is serialized, with the address as its base: without query and fragment, and with
a slash at the end of its path. -/
def IsSerializedAt [HostNames] (cwd : PosixPath) (m : ImportMap) (u : Url) : Prop :=
  ∃ text, u.closed.render = .ok text ∧ text.toList.getLast? = some '/' ∧
    SerializedImportMap.ofInline cwd m =
      .ok ⟨Text.ofString text, documentText m.imports m.scopes⟩

theorem isSerializedAt_iff_showsDirectory [HostNames] {cwd : PosixPath} {m : ImportMap} {u : Url}
    (h : Location.toUrl cwd none m.base = .ok u) : m.IsSerializedAt cwd u ↔ u.ShowsDirectory := by
  have hinline : SerializedImportMap.ofInline cwd m =
      SerializedImportMap.make u.directory m.imports m.scopes := by
    show (Location.toUrl cwd none m.base >>= fun base =>
      SerializedImportMap.make base.directory m.imports m.scopes) = _
    rw [h]
    rfl
  rw [IsSerializedAt, ShowsDirectory, hinline]
  simp only [SerializedImportMap.make_eq_ok_iff]
  refine exists_congr fun text => and_congr_right fun _ => ?_
  constructor
  · rintro ⟨hlast, text', ht, -, hs⟩
    have hsame := Text.ofString_injective (SerializedImportMap.mk.inj hs).1
    exact ⟨hsame ▸ ht, hlast⟩
  · rintro ⟨ht, hlast⟩
    exact ⟨hlast, text, ht, hlast, rfl⟩

theorem isSerializedAt_iff_shown [HostNames] {cwd : PosixPath} {m : ImportMap} {u : Url}
    (h : Location.toUrl cwd none m.base = .ok u) :
    m.IsSerializedAt cwd u ↔ u.KeepsAuthority ∧ ¬u.IsBareOrigin := by
  have hu := Location.isCanonical_of_toUrl h
  rw [isSerializedAt_iff_showsDirectory h,
    showsDirectory_iff (Location.isPlainScheme_of_supported hu.scheme) hu.separated]

theorem isSerializedAt_working [HostNames] {cwd : PosixPath} {m : ImportMap}
    (hcwd : ∃ rest, cwd.toChars = '/' :: rest) (hm : m.baseUrl = none) :
    ∃ u, Location.toUrl cwd none m.base = .ok u ∧ m.IsSerializedAt cwd u := by
  obtain ⟨rest, hrest⟩ := hcwd
  have hplain : Location.IsPlainPath "." :=
    ⟨by decide, by decide, fun _ => Location.schemedUrl?_of_notMem (by decide), by decide⟩
  have hworking : Location.baseDirectory cwd none = .ok (.posix cwd) := rfl
  have hu : Location.toUrl cwd none m.base =
      .ok (PosixPath.fileUrl (PosixPath.normal (PosixPath.join ('/' :: rest) ".".toList))) := by
    have hbase : m.base = .string "." := by rw [base, hm]
    rw [hbase, Location.toUrl_below hplain (.found hworking hrest)]
  refine ⟨_, hu, (isSerializedAt_iff_shown hu).mpr ⟨?_, fun hbare => hbare.2 rfl⟩⟩
  exact (keepsAuthority_of_verbatim rfl).mpr ⟨_, rfl⟩

/-- The base of an import map that names none is the working directory. A base that comes to an
address is serialized as this address, without query and fragment and with a slash at the end,
exactly if it is no host without a path and its authority is read again as it is shown; this is so
for every authority that can be read and has brackets around the colons of its host, and no
others. -/
theorem isSerializedAt_iff [HostNames] (cwd : PosixPath) (m : ImportMap) :
    (m.baseUrl = none → (∃ rest, cwd.toChars = '/' :: rest) →
      ∃ u, Location.toUrl cwd none m.base = .ok u ∧ m.IsSerializedAt cwd u) ∧
    ∀ u, Location.toUrl cwd none m.base = .ok u →
      (m.IsSerializedAt cwd u ↔ u.KeepsAuthority ∧ ¬u.IsBareOrigin) ∧
      ∀ a, u.parts = .ok a → u.SetsOff a → u.KeepsAuthority := by
  refine ⟨fun hm hcwd => isSerializedAt_working hcwd hm, fun u hu => ?_⟩
  exact ⟨isSerializedAt_iff_shown hu, fun a ha => Location.keepsAuthority_of_toUrl hu ha⟩

def bracketMap : ImportMap :=
  ⟨some (.text (Text.ofString "HTTPS://me@[::1]:443/a%20b?x")), none, none⟩

theorem bracketMap_serialized :
    (∃ u, Location.toUrl Location.workDirectory none bracketMap.base = .ok u ∧
      bracketMap.IsSerializedAt Location.workDirectory u ∧
        u.closed.render = .ok "https://me@[::1]/a%20b/") ∧
    ∃ u, Location.toUrl Location.workDirectory none { bracketMap with baseUrl := none }.base =
        .ok u ∧
      { bracketMap with baseUrl := none }.IsSerializedAt Location.workDirectory u := by
  let u : Url := ⟨"https", "me@[::1]:443", "/a%20b", "x", "",
    some ⟨some "me".toList, none, some "::1".toList, some 443⟩⟩
  have hu : Location.toUrl Location.workDirectory none bracketMap.base = .ok u := by
    show Location.textToUrl Location.workDirectory none (Text.ofString _).toString = _
    rw [Text.toString_ofString, Location.textToUrl_eq]
    exact Location.ok_of_toOption (by decide +kernel)
  obtain ⟨-, hiff⟩ := isSerializedAt_iff Location.workDirectory bracketMap
  obtain ⟨hserialized, hkeeps⟩ := hiff u hu
  have hbracket : u.SetsOff ⟨some "me".toList, none, some "::1".toList, some 443⟩ := by
    rintro host ⟨⟩ -
    exact ⟨by decide, by decide, "me@".toList, ":443".toList, by decide, by decide⟩
  have hbare : ¬u.IsBareOrigin := fun h => absurd h.1 (by decide)
  refine ⟨⟨u, hu, hserialized.mpr ⟨hkeeps _ rfl hbracket, hbare⟩, by decide +kernel⟩, ?_⟩
  exact (isSerializedAt_iff Location.workDirectory { bracketMap with baseUrl := none }).1 rfl
    ⟨"work".toList, by decide⟩

def originMap : ImportMap := ⟨some (.text (Text.ofString "https://example.com")), none, none⟩

theorem originMap_not_serialized :
    (∃ u, Location.toUrl Location.workDirectory none originMap.base = .ok u ∧
      u.closed.render = .ok "https://example.com/") ∧
    ∀ s, SerializedImportMap.ofInline Location.workDirectory originMap ≠ .ok s := by
  let u : Url := ⟨"https", "example.com", "", "", "",
    some ⟨none, none, some "example.com".toList, none⟩⟩
  have hu : Location.toUrl Location.workDirectory none originMap.base = .ok u := by
    show Location.textToUrl Location.workDirectory none (Text.ofString _).toString = _
    rw [Text.toString_ofString, Location.textToUrl_eq]
    exact Location.ok_of_toOption (by decide +kernel)
  have hshown : u.directory.render = .ok "https://example.com" := by decide +kernel
  refine ⟨⟨u, hu, by decide +kernel⟩, fun s hs => ?_⟩
  obtain ⟨base, hbase, hmake⟩ := Run.exists_of_bind_eq_ok
    (show (Location.toUrl Location.workDirectory none originMap.base >>= fun base =>
      SerializedImportMap.make base.directory originMap.imports originMap.scopes) = .ok s from hs)
  cases hu.symm.trans hbase
  rw [SerializedImportMap.make_eq hshown, if_neg (by decide)] at hmake
  cases hmake

end ImportMap

end EmitBridge
