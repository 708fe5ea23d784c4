import EmitBridge.Proofs.FilePath.Joined
import EmitBridge.Proofs.Location.Rooted

/-! Paths as locations, named from an absolute directory. Their addresses hold the paths in normal
form and nothing else. -/

namespace EmitBridge.Location

open HostNames.AsciiOnly

open PosixPath

/-- The text is a path with slashes: it spells no address, and no absolute path with a drive. -/
structure IsPlainPath [HostNames] (l : String) : Prop where
  filled : l.toList ≠ []
  noNull : '\x00' ∉ l.toList
  noScheme : hasDrive l.toList = false → schemedUrl? l = none
  noDrive : Win32Path.isAbsoluteText l.toList = false

inductive IsDirectory [HostNames] (cwd : PosixPath) : Option Value → List Char → Prop
  | text {b : String} {rest : List Char} :
    b.toList = '/' :: rest → IsDirectory cwd (some (.string b)) ('/' :: rest)
  | path {p : PosixPath} {rest : List Char} :
    p.toChars = '/' :: rest → IsDirectory cwd (some (.path (.posix p))) ('/' :: rest)
  | found {base : Option Value} {d : PosixPath} {rest : List Char} :
    baseDirectory cwd base = .ok (.posix d) → d.toChars = '/' :: rest →
      IsDirectory cwd base ('/' :: rest)

structure NamesFile [HostNames] (u : Url) (path : List Char) : Prop where
  scheme : u.scheme = "file"
  authority : u.authority = ""
  host : u.host = .ok none
  query : u.query = ""
  fragment : u.fragment = ""
  rawPath : uriPart.Quoted u.rawPath.toList
  decodedPath : u.decodedPath.toList = path

theorem namesFile_fileUrl [HostNames] (path : List Char) : NamesFile (fileUrl path) path :=
  ⟨rfl, rfl, rfl, rfl, rfl, rawPath_fileUrl path ▸ quoted_encode path, decodedPath_fileUrl path⟩

theorem fileUrl_inj {path path' : List Char} : fileUrl path = fileUrl path' ↔ path = path' := by
  refine ⟨fun h => ?_, congrArg fileUrl⟩
  rw [← decodedPath_fileUrl path, h, decodedPath_fileUrl]

theorem IsDirectory.join [HostNames] {cwd : PosixPath} {base : Option Value} {b : List Char}
    (h : IsDirectory cwd base b) : (∃ rest, b = '/' :: rest) ∧ ∃ d,
      baseDirectory cwd base = .ok (.posix d) ∧
        ∀ s, normal (PosixPath.join d.toChars s) = normal (PosixPath.join b s) := by
  cases h with
  | @text b rest hb =>
    refine ⟨⟨rest, rfl⟩, .ofChars ('/' :: rest), ?_, normal_join_directory rest⟩
    have hbase : baseDirectory cwd (some (.string b)) = directoryOfBase cwd b.toList := by
      show directoryOfBase cwd (Text.ofString b).toString.toList = _
      rw [Text.toString_ofString]
    have hfile : ("file:".toList.isPrefixOf ('/' :: rest)) = false := rfl
    rw [hbase, hb, directoryOfBase, if_neg (ne_true_of_eq_false hfile), directoryOfText_slash]
  | @path p rest hp =>
    refine ⟨⟨rest, rfl⟩, .ofChars ('/' :: rest), ?_, normal_join_directory rest⟩
    show Except.ok (directoryOfText cwd p.toChars) = _
    rw [hp, directoryOfText_slash]
  | @found base d rest hbase hd =>
    exact ⟨⟨rest, rfl⟩, d, hbase, fun s => by rw [hd]⟩

theorem toUrl_of_isPlainPath [HostNames] {cwd : PosixPath} {base : Option Value} {l : String}
    (hl : IsPlainPath l) : toUrl cwd base (.string l) = pathToUrl cwd base l.toList := by
  rw [toUrl_string, textToUrl_eq, if_neg (not_or.mpr ⟨hl.filled, hl.noNull⟩)]
  cases hdrive : hasDrive l.toList with
  | true => rfl
  | false =>
    rw [hl.noScheme hdrive]
    rfl

theorem toUrl_below [HostNames] {cwd : PosixPath} {base : Option Value} {b : List Char} {l : String}
    (hl : IsPlainPath l) (hb : IsDirectory cwd base b) :
    toUrl cwd base (.string l) = .ok (fileUrl (normal (PosixPath.join b l.toList))) := by
  obtain ⟨hslash, d, hd, hjoin⟩ := hb.join
  have hnamed : namedPath cwd base l.toList =
      .ok (.posix (.ofChars (normal (PosixPath.join b l.toList)))) := by
    rw [namedPath, if_neg (ne_true_of_eq_false hl.noDrive), hd, ← hjoin]
    simp only [Except.map, resolvePath]
  have haddress : addressOf l.toList (.posix (.ofChars (normal (PosixPath.join b l.toList)))) =
      .ok (fileUrl (normal (PosixPath.join b l.toList))) := by
    obtain ⟨rest, hrest⟩ := exists_join_eq hslash (s := l.toList)
    rw [hrest, addressOf, FilePath.toUri?, toUri?_normal]
    simp only [verbatimChars_file (exists_normal_eq rest), Except.mapError]
  rw [toUrl_of_isPlainPath hl, pathToUrl_eq, hnamed, ← haddress]
  generalize normal (PosixPath.join b l.toList) = path
  rfl

/-- A path that is named from an absolute directory comes to the address of a file. Its path is the
joined path in normal form, written with escapes, and paths come to one address exactly if they
are joined to the same normal form. -/
theorem namesFile_of_path [HostNames] {cwd : PosixPath} {base : Option Value} {b : List Char}
    {l : String} (hl : IsPlainPath l) (hb : IsDirectory cwd base b) :
    ∃ u, toUrl cwd base (.string l) = .ok u ∧
      NamesFile u (normal (PosixPath.join b l.toList)) ∧
      PosixPath.IsNormal (normal (PosixPath.join b l.toList)) ∧
      ∀ {cwd' base' b' l'}, IsPlainPath l' → IsDirectory cwd' base' b' →
        (toUrl cwd' base' (.string l') = .ok u ↔
          normal (PosixPath.join b' l'.toList) = normal (PosixPath.join b l.toList)) := by
  refine ⟨_, toUrl_below hl hb, namesFile_fileUrl _,
    isNormal_normal (exists_join_eq hb.join.1), fun hl' hb' => ?_⟩
  rw [toUrl_below hl' hb', Except.ok.injEq, fileUrl_inj]

theorem namesFile_special_characters : ∃ u,
    toUrl workDirectory (some (.string "//srv/../a?b/")) (.string "x;/.//é#1/../c d%41\n") =
        .ok u ∧
      NamesFile u "//a?b/x;/c d%41\n".toList ∧
        toUrl workDirectory none (.string "lib") ≠ .ok u := by
  have hl : IsPlainPath "x;/.//é#1/../c d%41\n" :=
    ⟨by decide, by decide, fun _ => by decide +kernel, by decide⟩
  have hl' : IsPlainPath "lib" := ⟨by decide, by decide, fun _ => by decide +kernel, by decide⟩
  have hb : IsDirectory workDirectory (some (.string "//srv/../a?b/")) "//srv/../a?b/".toList :=
    .text (by decide)
  have hb' : IsDirectory workDirectory none "/work".toList := .found rfl (by decide)
  have hpath : normal (PosixPath.join "//srv/../a?b/".toList "x;/.//é#1/../c d%41\n".toList) =
      "//a?b/x;/c d%41\n".toList := by decide +kernel
  have hne : normal (PosixPath.join "/work".toList "lib".toList) ≠ "//a?b/x;/c d%41\n".toList := by
    decide +kernel
  obtain ⟨u, hu, hnames, -, hsame⟩ := namesFile_of_path hl hb
  rw [hpath] at hnames hsame
  exact ⟨u, hu, hnames, mt (hsame hl' hb').mp hne⟩

end EmitBridge.Location
