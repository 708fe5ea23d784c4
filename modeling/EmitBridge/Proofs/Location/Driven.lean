import EmitBridge.Proofs.FilePath.Share
import EmitBridge.Proofs.Location.Rooted
import EmitBridge.Proofs.Location.Written
import EmitBridge.Proofs.Text.Case
import EmitBridge.Proofs.Url.Host

/-! Absolute paths with drives as locations. The address of such a path comes back as the path,
unless the name of its server has to be escaped or is that of this host. -/

namespace EmitBridge

open HostNames.AsciiOnly

namespace Win32Path

variable {server : List Char}

def IsSame (p q : Win32Path) : Prop :=
  p.segments.map (fun s => (Text.ofString s).lower) =
    q.segments.map fun s => (Text.ofString s).lower

instance (p q : Win32Path) : Decidable (p.IsSame q) :=
  inferInstanceAs (Decidable (p.segments.map _ = q.segments.map _))

def NamesServer (s server : List Char) : Prop :=
  ∃ rest, s = '\\' :: '\\' :: rest ∧ server = rest.takeWhile fun c => !isSlash c

def IsDevice (s : List Char) : Prop := NamesServer s ['?'] ∨ NamesServer s ['.']

structure IsKept (server : List Char) : Prop where
  plain : ∀ c ∈ server, PosixPath.isUriPlain c = true
  notLocal : server.map Char.toLower ≠ "localhost".toList

/-- A part of the name is an international one in its encoded form, or longer than 1024 characters.
How such a name is shown is not told here. -/
def HasUntoldLabel (server : List Char) : Prop :=
  ∃ label ∈ Cut.all '.' server,
    (label.map Char.toLower).take 4 = "xn--".toList ∨ 1024 < label.length

instance : Decidable (HasUntoldLabel server) :=
  inferInstanceAs (Decidable (∃ label ∈ Cut.all '.' server, _ ∨ _))

theorem namesServer_iff {d : Char} {rest : List Char} (hd : isSlash d = true)
    (hplain : ∀ c ∈ server, isSlash c = false) (t : List Char) :
    NamesServer (separator :: separator :: (server ++ d :: rest)) t ↔ t = server := by
  have htake : (server ++ d :: rest).takeWhile (fun c => !isSlash c) = server := by
    rw [List.takeWhile_append_of_pos (fun c hc => by simp [hplain c hc]), List.takeWhile_cons]
    simp [hd]
  constructor
  · rintro ⟨more, he, rfl⟩
    cases he
    exact htake
  · rintro rfl
    exact ⟨_, rfl, htake.symm⟩

theorem not_namesServer_letter {c : Char} (rest t : List Char) :
    ¬NamesServer (c :: ':' :: rest) t := by
  rintro ⟨more, he, -⟩
  simp at he

end Win32Path

namespace Text

open CodePoint

theorem lowerLength_le_encode {plain : Char → Bool} (hdotted : plain '\u0130' = false)
    (s : List Char) : lowerLength s ≤ (Percent.encode plain s).length ∧
      (lowerLength s = (Percent.encode plain s).length → ∀ c ∈ s, plain c = true) := by
  induction s with
  | nil => exact ⟨Nat.le_refl _, fun _ _ h => absurd h List.not_mem_nil⟩
  | cons c s ih =>
    obtain ⟨hle, heq⟩ := ih
    have hweight : (ofChar c).weight ≤ 2 := by
      unfold weight
      split <;> decide
    rw [lowerLength_cons, Percent.encode, List.flatMap_cons, List.length_append, ← Percent.encode]
    by_cases hplain : plain c = true
    · have hone : (ofChar c).weight = 1 := by
        refine weight_ofChar ?_
        rintro rfl
        exact absurd hplain (ne_true_of_eq_false hdotted)
      rw [if_pos hplain, hone, List.length_singleton]
      refine ⟨by omega, fun h => List.forall_mem_cons.mpr ⟨hplain, heq (by omega)⟩⟩
    · have hescape : 3 ≤ ((Utf8.encodePoint c.toNat).flatMap Percent.escape).length := by
        obtain ⟨b, bs, hbs⟩ := List.exists_cons_of_ne_nil (Percent.encodePoint_ne_nil c)
        rw [hbs, List.flatMap_cons, List.length_append]
        exact Nat.le_add_right 3 _
      rw [if_neg hplain]
      exact ⟨by omega, fun h => by omega⟩

end Text

namespace Url

theorem decodedPath_of_slash {u : Url} {rest : List Char} (h : u.path.toList = '/' :: rest) :
    u.decodedPath.toList = Percent.decode ('/' :: rest) := by
  have hraw : u.rawPath = u.path := by
    rw [rawPath, isEmpty_eq_toList u.path, h, List.isEmpty_cons, Bool.false_and,
      if_neg Bool.false_ne_true]
  rw [decodedPath, String.toList_ofList, hraw, h]

theorem host_of_authority [HostNames] {u : Url} (hknown : u.known = none) {host : List Char}
    (hne : host ≠ []) (h : u.authority.toList = host) (hport : ':' ∉ host) (huser : '@' ∉ host)
    (hbracket : '[' ∉ host) : u.host = (shownHost host).map some := by
  have hparts : u.parts = .ok ⟨none, none, some host, none⟩ := by
    have hsome : Authority.nonEmpty host = some host := if_neg (by simpa using hne)
    rw [parts, hknown, ← hsome, ← Authority.read_of_notMem hport huser hbracket, h]
  rw [Url.host, rawHost, hparts]
  show (shownHost host >>= fun shown => pure (some shown)) = _
  cases shownHost host <;> rfl

end Url

namespace Location

theorem toPath_of_server [HostNames] {u : Url} (hscheme : u.scheme = "file") {host : List Char}
    (hhost : u.host = .ok (some host)) (hne : host ≠ []) (hother : host ≠ "localhost".toList) :
    toPath u = .ok (.win32 (.ofChars ('/' :: '/' :: (host ++ u.decodedPath.toList)))) := by
  have hforeign : (!host.isEmpty && host != "localhost".toList) = true := by
    rw [List.isEmpty_eq_false_iff.mpr hne, bne_iff_ne.mpr hother]
    rfl
  rw [toPath, if_neg (by simp [hscheme]), hhost]
  simp only [Except.mapError, bind, Except.bind, Option.getD_some, hforeign, if_true]
  rfl

theorem toUrl_of_isAbsoluteText [HostNames] (cwd : PosixPath) (base : Option Value) {w : String}
    (h : Win32Path.isAbsoluteText w.toList = true) (hnull : '\x00' ∉ w.toList) :
    toUrl cwd base (.string w) =
      addressOf w.toList (.win32 (.ofChars (Win32Path.normal w.toList))) := by
  have hpath : pathToUrl cwd base w.toList =
      addressOf w.toList (.win32 (.ofChars (Win32Path.normal w.toList))) := by
    rw [pathToUrl_eq, namedPath, if_pos h]
    generalize FilePath.win32 _ = path
    rfl
  have hne : ¬(w.toList = [] ∨ '\x00' ∈ w.toList) := by
    rintro (hnil | hm)
    · rw [hnil] at h
      cases h
    · exact hnull hm
  rw [← hpath, toUrl_string, textToUrl_eq, if_neg hne]
  rcases Win32Path.isAbsoluteText_cases h with
    ⟨c, d, rest, hw, hc, -⟩ | ⟨server, c, d, rest, hw, -⟩
  · have hdrive : hasDrive w.toList = true := by
      rw [hw]
      exact hc
    rw [if_pos hdrive]
  · have hdrive : hasDrive w.toList = false := by
      rw [hw]
      rfl
    rw [if_neg (ne_true_of_eq_false hdrive), schemedUrl?_of_head (by decide) (by decide) hw]

section Returned

open Win32Path

variable {names : List (List Char)}

theorem addressOf_eq [HostNames] {s uri : List Char} {p : FilePath} {u : Url}
    (hp : p.toUri? = some uri) (hu : Url.verbatimChars uri = .ok u) : addressOf s p = .ok u := by
  rw [addressOf, hp]
  simp only [hu, Except.mapError]

theorem ofString_drive (drive : List Char) :
    Text.ofString (String.ofList drive ++ "\\") = Text.ofChars (drive ++ [separator]) := by
  rw [Text.ofString, String.toList_append, String.toList_ofList]
  rfl

theorem isSame_onDrive_iff {drive other : List Char} (hne : drive ≠ []) (hother : other ≠ []) :
    (onDrive drive names).IsSame (onDrive other names) ↔
      (Text.ofChars (drive ++ [separator])).lower =
        (Text.ofChars (other ++ [separator])).lower := by
  rw [IsSame, segments_onDrive hne, segments_onDrive hother, List.map_cons, List.map_cons,
    ofString_drive, ofString_drive, List.cons.injEq]
  exact and_iff_left rfl

theorem unified_slash (h : AreNames names) :
    unified ('/' :: Cut.join '/' names) = separator :: Cut.join separator names := by
  rw [unified_cons_slash rfl, h.unified_join]

theorem address_of_letter [HostNames] {c : Char} (hc : isLetter c = true) (h : AreNames names)
    (s : List Char) : ∃ u, addressOf s (.win32 (onDrive [c, ':'] names)) = .ok u ∧
      u.scheme = "file" ∧ toPath u = .ok (.win32 (onDrive [c, ':'] names)) := by
  have habs : (onDrive [c, ':'] names).isAbsolute = true :=
    isAbsolute_onDrive (List.cons_ne_nil _ _) names
  have hrest : ((onDrive [c, ':'] names).toPosixChars.drop 2).dropWhile (· == '/') =
      Cut.join '/' names := by
    rw [toPosixChars_onDrive h]
    show ('/' :: Cut.join '/' names).dropWhile (· == '/') = _
    rw [List.dropWhile_cons, if_pos (beq_self_eq_true '/'), Cut.dropWhile_join h.segments]
  have huri := toUri?_eq_of_letter String.toList_ofList habs
  rw [hrest] at huri
  let path := '/' :: c :: ':' :: '/' :: Percent.encode PosixPath.isUriPlain (Cut.join '/' names)
  let u : Url := ⟨"file", "", String.ofList path, "", "", none⟩
  refine ⟨u, addressOf_eq huri (verbatimChars_letter hc _), rfl, ?_⟩
  have hhost : u.host = .ok none := rfl
  have hpath : u.decodedPath.toList = '/' :: c :: ':' :: '/' :: Cut.join '/' names :=
    (Url.decodedPath_of_slash String.toList_ofList).trans (decode_letter hc _)
  have hback : ofChars (c :: ':' :: '/' :: Cut.join '/' names) = onDrive [c, ':'] names :=
    ofChars_of_letter hc h (unified_slash h)
  have hdrive : hasDrive (c :: ':' :: '/' :: Cut.join '/' names) = true := hc
  rw [toPath_of_local rfl hhost nofun hpath, if_pos hdrive, hback]

def returned (server : List Char) : List Char :=
  Url.shownName (Percent.encode PosixPath.isUriPlain server)

theorem returned_cases (server : List Char) :
    returned server = Percent.encode PosixPath.isUriPlain server ∨
      returned server = (Percent.encode PosixPath.isUriPlain server).map Char.toLower :=
  Url.shownName_cases _

theorem returned_of_plain {server : List Char} (h : ∀ c ∈ server, PosixPath.isUriPlain c = true) :
    returned server = Url.shownName server := congrArg Url.shownName (Percent.encode_of_plain h)

theorem notMem_returned {server : List Char} {c : Char}
    (hc : (PosixPath.isUriPlain c = false ∨ c ∉ server) ∧ c ≠ '%' ∧ c.isAlphanum = false) :
    c ∉ returned server :=
  Url.notMem_shownName hc.2.2 fun hm => PosixPath.ne_of_mem_encode hm hc rfl

def serverUrl (server tail : List Char) : Url :=
  ⟨"file", String.ofList (Percent.encode PosixPath.isUriPlain server),
    String.ofList (Percent.encode PosixPath.isUriPlain ('/' :: tail)), "", "", none⟩

theorem decodedPath_serverUrl (server tail : List Char) :
    (serverUrl server tail).decodedPath.toList = '/' :: tail := by
  have hpath : (serverUrl server tail).path.toList =
      '/' :: Percent.encode PosixPath.isUriPlain tail := by
    rw [serverUrl, String.toList_ofList, PosixPath.encode_slash]
  rw [Url.decodedPath_of_slash hpath, ← PosixPath.encode_slash, Percent.decode_encode rfl]

theorem host_serverUrl [HostNames] {server : List Char} (hne : server ≠ []) (tail : List Char) :
    (serverUrl server tail).host =
      (Url.shownHost (Percent.encode PosixPath.isUriPlain server)).map some := by
  have hno {c : Char} (hc : PosixPath.isUriPlain c = false ∧ c ≠ '%' ∧ c.isAlphanum = false) :
      c ∉ Percent.encode PosixPath.isUriPlain server :=
    fun hm => PosixPath.ne_of_mem_encode hm ⟨.inl hc.1, hc.2⟩ rfl
  exact Url.host_of_authority rfl (Percent.encode_ne_nil rfl hne) String.toList_ofList
    (hno (by decide)) (hno (by decide)) (hno (by decide))

theorem hasMarkedLabel_encode {server : List Char} (h : ¬HasUntoldLabel server) :
    Url.hasMarkedLabel (Percent.encode PosixPath.isUriPlain server) = false := by
  rw [Url.hasMarkedLabel, PosixPath.all_encode (by decide), List.any_eq_false]
  intro label hlabel hmark
  obtain ⟨part, hpart, rfl⟩ := List.mem_map.mp hlabel
  rw [beq_iff_eq, ← List.map_take] at hmark
  -- an escape would show in front, so the mark is as it was written
  have hno : '%' ∉ (Percent.encode PosixPath.isUriPlain part).take 4 := fun hm => by
    have hlower := List.mem_map_of_mem (f := Char.toLower) hm
    rw [hmark] at hlower
    exact absurd hlower (by decide)
  refine h ⟨part, hpart, .inl ?_⟩
  rw [← List.map_take, PosixPath.take_of_take_encode 4 rfl hno, hmark]
  rfl

theorem host_serverUrl_cases [HostNames] {server : List Char} (hne : server ≠ [])
    (h : ¬HasUntoldLabel server) (tail : List Char) :
    (serverUrl server tail).host = .ok (some (returned server)) ∨
      (serverUrl server tail).host = .error .longLabel ∧ ¬IsKept server := by
  have hascii : ∀ c ∈ Percent.encode PosixPath.isUriPlain server, isAsciiChar c = true :=
    fun _ hc => PosixPath.isAsciiChar_of_mem_encode hc
  rw [host_serverUrl hne]
  rcases Url.shownHost_cases hascii (hasMarkedLabel_encode h) with
    hshown | ⟨hlong, label, hm, hlength⟩
  · rw [hshown]
    exact .inl rfl
  · rw [hlong]
    refine .inr ⟨rfl, fun hkept => h ⟨label, ?_, .inr hlength⟩⟩
    rwa [Percent.encode_of_plain hkept.plain] at hm

theorem address_of_share [HostNames] {server share : List Char} (h : IsShare server share)
    (hnames : AreNames names) (s : List Char) :
    addressOf s (.win32 (onDrive (shareText server share) names)) =
      .ok (serverUrl server (share ++ '/' :: Cut.join '/' names)) := by
  have habs : (onDrive (shareText server share) names).isAbsolute = true :=
    isAbsolute_onDrive (shareText_ne_nil server share) names
  have hposix {t : List Char} (ht : ∀ c ∈ t, isSlash c = false) :
      t.map (fun c => if c == separator then '/' else c) = t := by
    refine (List.map_congr_left fun c hc => if_neg ?_).trans (List.map_id t)
    exact ne_true_of_eq_false (beq_false_of_ne (isSlash_eq_false_iff.mp (ht c hc)).2)
  have hchars : (onDrive (shareText server share) names).toPosixChars =
      '/' :: '/' :: (server ++ '/' :: (share ++ '/' :: Cut.join '/' names)) := by
    rw [toPosixChars_onDrive hnames, shareText]
    simp only [List.map_cons, List.map_append, hposix h.server_plain, hposix h.share_plain]
    simp
  have huri := toUri?_eq_of_server String.toList_ofList habs
  rw [hchars] at huri
  exact addressOf_eq huri (verbatimChars_server (notMem_of_plain h.server_plain).1 _)

section Share

variable {server share : List Char}

theorem isShare_returned (h : IsShare server share) : IsShare (returned server) share := by
  have hslash : '/' ∉ returned server :=
    notMem_returned ⟨.inr (notMem_of_plain h.server_plain).1, by decide⟩
  have hsep : separator ∉ returned server := notMem_returned ⟨.inl rfl, by decide⟩
  have hmark : '?' ∉ returned server := notMem_returned ⟨.inl rfl, by decide⟩
  refine ⟨?_, fun c hc => isSlash_eq_false_iff.mpr ⟨?_, ?_⟩, h.share_ne_nil, h.share_plain, ?_⟩
  · have hne : Percent.encode PosixPath.isUriPlain server ≠ [] :=
      Percent.encode_ne_nil rfl h.server_ne_nil
    rcases returned_cases server with hs | hs <;> rw [hs]
    · exact hne
    · exact fun hnil => hne (List.map_eq_nil_iff.mp hnil)
  · rintro rfl
    exact hslash hc
  · rintro rfl
    exact hsep hc
  · intro he
    rw [he] at hmark
    exact hmark (List.mem_singleton_self _)

theorem toPath_serverUrl_of_other [HostNames] (h : IsShare server share) (hnames : AreNames names)
    (hhost : (serverUrl server (share ++ '/' :: Cut.join '/' names)).host =
      .ok (some (returned server))) (hother : returned server ≠ "localhost".toList) :
    toPath (serverUrl server (share ++ '/' :: Cut.join '/' names)) =
      .ok (.win32 (onDrive (shareText (returned server) share) names)) := by
  have hshown := isShare_returned h
  rw [toPath_of_server rfl hhost hshown.server_ne_nil hother,
    decodedPath_serverUrl]
  generalize returned server = host at hshown
  have hunified : unified ('/' :: '/' :: (host ++ '/' :: (share ++ '/' :: Cut.join '/' names))) =
      shareText host share ++ separator :: Cut.join separator names := by
    rw [hshown.unified_text rfl rfl rfl, unified_slash hnames]
  rw [hshown.ofChars hnames hunified]

theorem not_isSame_of_local [HostNames]
    (hhost : (serverUrl server (share ++ '/' :: Cut.join '/' names)).host =
      .ok (some (returned server)))
    (hlocal : returned server = "localhost".toList) {p : Win32Path}
    (hp : toPath (serverUrl server (share ++ '/' :: Cut.join '/' names)) = .ok (.win32 p)) :
    ¬p.IsSame (onDrive (shareText server share) names) := by
  have hback := toPath_of_local rfl hhost (fun host hm => (Option.some.inj hm) ▸ hlocal)
    (decodedPath_serverUrl server (share ++ '/' :: Cut.join '/' names))
  rw [hp] at hback
  -- the server is gone, so only a share that looks like a letter brings a drive
  split at hback
  · next hdrive =>
    obtain ⟨c, rest, htail, hc⟩ : ∃ c rest, share ++ '/' :: Cut.join '/' names = c :: ':' :: rest ∧
        isLetter c = true := by
      unfold hasDrive at hdrive
      split at hdrive
      · next c rest he => exact ⟨c, rest, he, hdrive⟩
      · cases hdrive
    rw [htail] at hback
    cases hback
    obtain ⟨root, parts, hsegments⟩ := segments_letter hc rest
    rw [IsSame, hsegments, segments_onDrive (shareText_ne_nil server share), List.map_cons,
      List.map_cons, ofString_drive]
    intro he
    obtain ⟨hfirst, -⟩ := List.cons.inj he
    rw [Text.ofString, String.toList_ofList] at hfirst
    exact Text.lower_ne_of_isAlpha hc _ _ hfirst
  · cases hback

theorem isSame_shareText_iff (server share : List Char) :
    (onDrive (shareText (returned server) share) names).IsSame
        (onDrive (shareText server share) names) ↔
      ∀ c ∈ server, PosixPath.isUriPlain c = true := by
  have hsplit (host : List Char) : shareText host share ++ [separator] =
      [separator, separator] ++ (host ++ (separator :: share ++ [separator])) := by
    simp [shareText]
  rw [isSame_onDrive_iff (shareText_ne_nil _ _) (shareText_ne_nil _ _), hsplit, hsplit]
  constructor
  · -- what is given back keeps its length in lower case, so an escape would make it longer
    intro he
    have hdotted : '\u0130' ∉ returned server := notMem_returned ⟨.inl rfl, by decide⟩
    have hlength : (returned server).length =
        (Percent.encode PosixPath.isUriPlain server).length := by
      rcases returned_cases server with hs | hs <;> rw [hs]
      exact List.length_map _
    have hlower := congrArg (fun t : Text => t.length) he
    simp only [Text.length_lower, Text.lowerLength_append, Text.lowerLength_of_notMem hdotted,
      hlength] at hlower
    exact (Text.lowerLength_le_encode rfl server).2 (by omega)
  · intro hplain
    rw [returned_of_plain hplain]
    rcases Url.shownName_cases server with hs | hs <;> rw [hs]
    exact Text.lower_append_toLower _ _ _

theorem isKept_iff : IsKept server ↔ (∀ c ∈ server, PosixPath.isUriPlain c = true) ∧
    returned server ≠ "localhost".toList := by
  constructor
  · rintro ⟨hplain, hlocal⟩
    refine ⟨hplain, fun hs => hlocal ?_⟩
    rw [returned_of_plain hplain] at hs
    rcases Url.shownName_cases server with he | he <;> rw [he] at hs
    · rw [hs]
      decide
    · exact hs
  · rintro ⟨hplain, hother⟩
    rw [returned_of_plain hplain] at hother
    exact ⟨hplain, fun hlocal => hother (Url.shownName_of_local hlocal)⟩

theorem exists_isSame_iff [HostNames] (h : IsShare server share) (hnames : AreNames names)
    (htold : ¬HasUntoldLabel server) :
    (∃ p, toPath (serverUrl server (share ++ '/' :: Cut.join '/' names)) = .ok (.win32 p) ∧
      p.IsSame (onDrive (shareText server share) names)) ↔ IsKept server := by
  rcases host_serverUrl_cases h.server_ne_nil htold (share ++ '/' :: Cut.join '/' names) with
    hhost | ⟨hlong, hlost⟩
  swap
  · refine iff_of_false ?_ hlost
    rintro ⟨p, hp, -⟩
    rw [toPath, if_neg (by simp [serverUrl]), hlong] at hp
    cases hp
  rw [isKept_iff]
  constructor
  · rintro ⟨p, hp, hsame⟩
    have hother : returned server ≠ "localhost".toList := fun hlocal =>
      not_isSame_of_local hhost hlocal hp hsame
    rw [toPath_serverUrl_of_other h hnames hhost hother] at hp
    cases hp
    exact ⟨(isSame_shareText_iff server share).mp hsame, hother⟩
  · rintro ⟨hplain, hother⟩
    refine ⟨_, toPath_serverUrl_of_other h hnames hhost hother, ?_⟩
    exact (isSame_shareText_iff server share).mpr hplain

end Share

end Returned

/-- A path on a drive has one address, whatever the working directory and the base are. It comes
back as the path unless it names a server that has to be escaped, or this host. -/
theorem comesBack_iff [HostNames] {w : String} (h : Win32Path.isAbsoluteText w.toList = true)
    (hnull : '\x00' ∉ w.toList) (hdevice : ¬Win32Path.IsDevice w.toList) :
    ∃ u, (∀ cwd base, toUrl cwd base (.string w) = .ok u) ∧ u.scheme = "file" ∧
      ((∀ server, Win32Path.NamesServer w.toList server → ¬Win32Path.HasUntoldLabel server) →
        ((∃ p, toPath u = .ok (.win32 p) ∧ p.IsSame (.ofChars (Win32Path.normal w.toList))) ↔
          ∀ server, Win32Path.NamesServer w.toList server → Win32Path.IsKept server)) := by
  have haddress : ∀ cwd base, toUrl cwd base (.string w) =
      addressOf w.toList (.win32 (.ofChars (Win32Path.normal w.toList))) :=
    fun cwd base => toUrl_of_isAbsoluteText cwd base h hnull
  rcases Win32Path.isAbsoluteText_cases h with
    ⟨c, d, rest, hw, hc, hd⟩ | ⟨server, c, d, rest, hw, hserver, hplain, hd, hc⟩
  · -- a letter stands in the path of the address
    obtain ⟨names, hnames, hnormal⟩ := Win32Path.normal_of_letter hc hd rest
    have hread : Win32Path.ofChars (Win32Path.normal w.toList) =
        Win32Path.onDrive [c, ':'] names := by
      rw [hw, hnormal]
      refine Win32Path.ofChars_of_letter hc hnames (Win32Path.unified_of_notMem ?_)
      simpa [Win32Path.separator] using hnames.notMem_join
    obtain ⟨u, hu, hscheme, hback⟩ := address_of_letter hc hnames w.toList
    rw [hread] at haddress ⊢
    refine ⟨u, fun cwd base => (haddress cwd base).trans hu, hscheme, fun _ => ?_⟩
    refine iff_of_true ⟨_, hback, rfl⟩ fun server hserver => ?_
    rw [hw] at hserver
    exact absurd hserver (Win32Path.not_namesServer_letter _ _)
  · -- a server is its authority
    have hnamed : ∀ t, Win32Path.NamesServer w.toList t ↔ t = server := by
      rw [hw]
      exact Win32Path.namesServer_iff hd hplain
    obtain ⟨share, after, hunified, hshare, hsharePlain, hno, hafter⟩ :=
      Win32Path.exists_share hd hc hplain rest
    rw [← hw] at hunified
    have hmark : server ≠ ['?'] := fun he => hdevice (.inl ((hnamed _).mpr he.symm))
    have hpair : Win32Path.IsShare server share := ⟨hserver, hplain, hshare, hsharePlain, hmark⟩
    obtain ⟨names, hnames, hread⟩ := hpair.ofChars_normal hno hafter hunified
    rw [hread] at haddress ⊢
    refine ⟨_, fun cwd base => (haddress cwd base).trans (address_of_share hpair hnames _), rfl, ?_⟩
    simp only [hnamed, forall_eq]
    exact exists_isSame_iff hpair hnames

theorem comesBack_upper_server :
    ∃ u, (∀ cwd base, toUrl cwd base (.string "\\\\Files\\share/a b\\..\\c.ts") = .ok u) ∧
      ∃ p, toPath u = .ok (.win32 p) ∧
        p.IsSame (.ofChars (Win32Path.normal "\\\\Files\\share/a b\\..\\c.ts".toList)) := by
  have hplain : ∀ c ∈ "Files".toList, Win32Path.isSlash c = false :=
    forall_mem_of_all (by decide)
  have hnamed : ∀ t, Win32Path.NamesServer "\\\\Files\\share/a b\\..\\c.ts".toList t ↔
      t = "Files".toList := Win32Path.namesServer_iff rfl hplain
  have hdevice : ¬Win32Path.IsDevice "\\\\Files\\share/a b\\..\\c.ts".toList := by
    rintro (hd | hd)
    · exact absurd ((hnamed _).mp hd) (by decide)
    · exact absurd ((hnamed _).mp hd) (by decide)
  obtain ⟨u, hu, -, hback⟩ := comesBack_iff (by decide) (by decide) hdevice
  refine ⟨u, hu, (hback fun server hs => ?_).mpr fun server hs => ?_⟩
  · obtain rfl := (hnamed _).mp hs
    decide
  · obtain rfl := (hnamed _).mp hs
    exact ⟨forall_mem_of_all (by decide), by decide⟩

theorem server_not_back :
    (∃ u, (∀ cwd base, toUrl cwd base (.string "\\\\wsl$\\share\\a.ts") = .ok u) ∧
      toPath u = .ok (.win32 (.ofChars "\\\\wsl%24\\share\\a.ts".toList)) ∧
      ¬(Win32Path.ofChars "\\\\wsl%24\\share\\a.ts".toList).IsSame
        (.ofChars (Win32Path.normal "\\\\wsl$\\share\\a.ts".toList))) ∧
    ∃ u, (∀ cwd base, toUrl cwd base (.string "\\\\localhost\\share\\a.ts") = .ok u) ∧
      toPath u = .ok (.posix (.ofChars "/share/a.ts".toList)) := by
  refine ⟨⟨serverUrl "wsl$".toList "share/a.ts".toList, fun cwd base => ?_, ?_, ?_⟩,
    serverUrl "localhost".toList "share/a.ts".toList, fun cwd base => ?_, ?_⟩
  · rw [toUrl_of_isAbsoluteText cwd base (by decide) (by decide)]
    rfl
  · rfl
  · decide
  · rw [toUrl_of_isAbsoluteText cwd base (by decide) (by decide)]
    rfl
  · rfl

end Location

end EmitBridge
