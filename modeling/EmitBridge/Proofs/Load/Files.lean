import EmitBridge.Proofs.FilePath.Host
import EmitBridge.Proofs.Load.Offline
import EmitBridge.Proofs.Location.Rooted
import EmitBridge.Proofs.World.Place

/-! Files of the default loader. The address of an absolute path loads the file that the path names,
unless the normal form of the path looks like one with a drive. -/

namespace EmitBridge

open HostNames.AsciiOnly

open Run

namespace Fetch

variable {w : World} {specifier : String}

def IsAbsence (n : Nat) : Prop :=
  n = SystemError.missing ∨ n = SystemError.notADirectory ∨ n = SystemError.isADirectory

structure Reads (entry : FileEntry) (specifier : String)
    (outcome : Except Failure (Option LoadResponse)) : Prop where
  content : ∀ bs, entry = .content bs →
    outcome = .ok (some (.module ⟨specifier, none, .bytes bs⟩))
  directory : entry = .directory → outcome = .ok none
  absent : ∀ n, IsAbsence n → entry = .failure n → outcome = .ok none
  failure : ∀ n, ¬IsAbsence n → entry = .failure n → ∃ e, outcome = .error (.emit e) ∧
    e.kind = .load ∧ e.specifier? = some (.string specifier) ∧ e.cause = some (SystemError.name n)

theorem contains_absentNumbers (n : Nat) : absentNumbers.contains n = true ↔ IsAbsence n := by
  rw [List.contains_iff_mem, absentNumbers, IsAbsence]
  simp only [List.mem_cons, List.not_mem_nil, or_false]

section file

variable {u : Url} {path : FilePath} {s : String}

theorem outcome_file [HostNames] (h : Location.toPath u = .ok path) :
    (file w specifier u).outcome =
      (match w.read path.onHost.toString with
        | .ok content => return some (.module ⟨specifier, none, .bytes content⟩)
        | .error (.system e) =>
          if absentNumbers.contains e.number then return none
          else
            Run.fail (loadFailure specifier ("Unable to read " ++ specifier ++ ": " ++ e.message)
              (some (SystemError.name e.number)))
        | .error f => Run.fail (.fault f) : Run (Option LoadResponse)).outcome := by
  rw [file, h, ofExcept_ok_bind, outcome_bind]
  rfl

theorem read_of_clean (hnull : World.hasNull s = false) :
    w.read s = match w.entry s with
      | .content bs => .ok bs
      | .directory => .error (World.systemFault SystemError.isADirectory s)
      | .failure n => .error (World.systemFault n s) := by
  rw [World.read]
  exact if_neg (ne_true_of_eq_false hnull)

theorem reads_file [HostNames] (h : Location.toPath u = .ok path)
    (hnull : World.hasNull path.onHost.toString = false) :
    Reads (w.entry path.onHost.toString) specifier (file w specifier u).outcome := by
  have hread : w.read path.onHost.toString = _ := read_of_clean hnull
  constructor
  · intro bs he
    rw [outcome_file h, hread, he]
    rfl
  · intro he
    rw [outcome_file h, hread, he]
    rfl
  · intro n hn he
    rw [outcome_file h, hread, he]
    show (if absentNumbers.contains n then _ else _ : Run _).outcome = _
    rw [if_pos ((contains_absentNumbers n).2 hn)]
    rfl
  · intro n hn he
    rw [outcome_file h, hread, he]
    show ∃ e, (if absentNumbers.contains n then _ else _ : Run _).outcome = _ ∧ _
    rw [if_neg (mt (contains_absentNumbers n).1 hn)]
    exact ⟨_, rfl, rfl, rfl, rfl⟩

theorem Reads.exists_content {entry : FileEntry} {m : LoadResponse}
    (h : Reads entry specifier (.ok (some m))) : ∃ bs, entry = .content bs := by
  cases entry with
  | content bs => exact ⟨bs, rfl⟩
  | directory => cases h.directory rfl
  | failure n =>
    by_cases hn : IsAbsence n
    · cases h.absent n hn rfl
    · obtain ⟨e, he, -⟩ := h.failure n hn rfl
      cases he

theorem exists_content [HostNames] (h : Location.toPath u = .ok path) {m : LoadResponse}
    (hm : (file w specifier u).outcome = .ok (some m)) :
    ∃ bs, w.entry path.onHost.toString = .content bs := by
  cases hnull : World.hasNull path.onHost.toString with
  | true =>
    have hread : w.read path.onHost.toString = .error .nullByte := by
      rw [World.read, hnull, if_pos rfl]
    rw [outcome_file h, hread] at hm
    cases hm
  | false =>
    have hreads : Reads _ specifier (file w specifier u).outcome := reads_file h hnull
    rw [hm] at hreads
    exact hreads.exists_content

end file

section path

variable {config : FetchConfig} {setting : Option CacheSetting} {s : String}

open PosixPath

def LoadsNamedFile [HostNames] (w : World) (config : FetchConfig) (setting : Option CacheSetting)
    (s : String) : Prop :=
  ∃ u specifier, Location.toUrl w.cwd none (.string s) = .ok u ∧ u.render = .ok specifier ∧
    Reads (w.entry (String.ofList (normal s.toList))) specifier
      (load w config specifier setting).outcome

def LooksDriven (path : List Char) : Prop :=
  ∃ c rest, c.isAlpha ∧ path = '/' :: c :: ':' :: rest

theorem hasDrive_iff {path tail : List Char} (h : path = '/' :: tail) :
    Location.hasDrive tail = true ↔ LooksDriven path := by
  subst h
  constructor
  · intro hdrive
    unfold Location.hasDrive at hdrive
    split at hdrive
    · next c rest => exact ⟨c, rest, hdrive, rfl⟩
    · cases hdrive
  · rintro ⟨c, rest, hc, he⟩
    cases he
    exact hc

theorem load_fileText [HostNames] (w : World) (config : FetchConfig) (setting : Option CacheSetting)
    {path : List Char} (h : ∃ rest, path = '/' :: rest) :
    load w config (fileText path) setting = file w (fileText path) (fileUrl path) := by
  rw [load_of_verbatim (verbatim_fileText h)]
  rfl

theorem loadsNamedFile_iff_reads [HostNames] {rest : List Char} (hs : s.toList = '/' :: rest)
    (hnull : '\x00' ∉ s.toList) :
    LoadsNamedFile w config setting s ↔
      Reads (w.entry (String.ofList (normal s.toList))) (fileText (normal s.toList))
        (file w (fileText (normal s.toList)) (fileUrl (normal s.toList))).outcome := by
  have hpath : ∃ tail, normal s.toList = '/' :: tail := hs ▸ exists_normal_eq rest
  have hurl := Location.toUrl_rooted w.cwd hs hnull
  have hrender := render_fileUrl hpath
  have hload := load_fileText w config setting hpath
  constructor
  · rintro ⟨u, specifier, hu, hspecifier, hreads⟩
    obtain rfl := Except.ok.inj (hurl.symm.trans hu)
    obtain rfl := Except.ok.inj (hrender.symm.trans hspecifier)
    rwa [hload] at hreads
  · intro hreads
    refine ⟨_, _, hurl, hrender, ?_⟩
    rwa [hload]

theorem hasNull_ofList {l : List Char} (h : '\x00' ∉ l) :
    World.hasNull (String.ofList l) = false := by
  rw [World.hasNull, String.contains_char_eq, String.toList_ofList]
  exact decide_eq_false h

theorem reads_of_not_driven [HostNames] {rest : List Char} (hs : s.toList = '/' :: rest)
    (hnull : '\x00' ∉ s.toList) (hplain : ¬LooksDriven (normal s.toList)) (w : World) :
    LoadsNamedFile w config setting s := by
  rw [loadsNamedFile_iff_reads hs hnull]
  have hclean : '\x00' ∉ normal s.toList := fun hm =>
    (madeOf_normal s.toList _ hm).elim (by simp [IsPunctuation]) hnull
  rw [hs] at hplain hclean ⊢
  obtain ⟨tail, htail⟩ := exists_normal_eq rest
  have hdrive : ¬Location.hasDrive tail = true := mt (hasDrive_iff htail).1 hplain
  have hto : Location.toPath (fileUrl (normal ('/' :: rest))) =
      .ok (.posix (.ofChars (normal ('/' :: rest)))) := by
    rw [Location.toPath_fileUrl htail, if_neg hdrive]
  have htext : (FilePath.posix (.ofChars (normal ('/' :: rest)))).onHost.toString =
      String.ofList (normal ('/' :: rest)) := congrArg String.ofList (toChars_ofChars_normal rest)
  have hreads : Reads (w.entry (FilePath.posix (.ofChars (normal ('/' :: rest)))).onHost.toString)
      (fileText (normal ('/' :: rest))) _ := reads_file hto (htext ▸ hasNull_ofList hclean)
  rwa [htext] at hreads

theorem head?_place_of_driven (w : World) {c : Char} {rest tail : List Char}
    (h : normal ('/' :: rest) = '/' :: c :: ':' :: tail) (hc : c.isAlpha) :
    (w.place (normal ('/' :: rest))).head? ≠ some ['z'] := by
  have hplace : w.place (normal ('/' :: rest)) = names ('/' :: rest) := by
    rw [h, World.place_rooted, ← h, names_normal]
  rw [hplace]
  rw [normal_eq] at h
  cases hnames : names ('/' :: rest) with
  | nil => exact nofun
  | cons first others =>
    rw [hnames] at h
    rintro ⟨⟩
    rcases isRoot_splitRoot rest with hroot | hroot <;> rw [hroot] at h
    · cases others <;> cases h
    · obtain ⟨rfl, -⟩ := List.cons.inj (List.cons.inj h).2
      cases hc

theorem not_loadsNamedFile [HostNames] (config : FetchConfig) (setting : Option CacheSetting)
    {rest : List Char} (hs : s.toList = '/' :: rest) (hnull : '\x00' ∉ s.toList)
    (hdriven : LooksDriven (normal s.toList)) : ∃ w, ¬LoadsNamedFile w config setting s := by
  obtain ⟨c, tail, hc, hpath⟩ := hdriven
  have hrelative := FilePath.isRelative_onHost hc tail
  have hto : Location.toPath (fileUrl (normal s.toList)) =
      .ok (.win32 (.ofChars (c :: ':' :: tail))) := by
    have hdrive : Location.hasDrive (c :: ':' :: tail) = true := hc
    rw [Location.toPath_fileUrl hpath, if_pos hdrive]
  generalize hhost : (FilePath.win32 (.ofChars (c :: ':' :: tail))).onHost = host at hrelative
  -- one directory for each piece of that path, so that no `..` in it leads out of them
  let w := World.alone (World.deep (Cut.all '/' host.toChars).length)
    (String.ofList (normal s.toList)) (.content [])
  have hentry : w.entry (String.ofList (normal s.toList)) = .content [] := by
    refine World.entry_alone _ ?_ _
    rw [Url.isEmpty_eq_toList, String.toList_ofList, hpath]
    rfl
  refine ⟨w, ?_⟩
  rw [loadsNamedFile_iff_reads hs hnull]
  intro hreads
  obtain ⟨bs, hbs⟩ := exists_content hto (hreads.content [] hentry)
  have hplace : w.place (normal s.toList) = w.place host.toChars := by
    have heq := World.eq_of_entry_alone hbs
    rwa [hhost, PosixPath.toString, String.toList_ofList, String.toList_ofList] at heq
  have hdeep : (w.place host.toChars).head? = some ['z'] :=
    World.head?_place_deep hrelative.head?_toChars rfl
  rw [← hplace, hs] at hdeep
  exact head?_place_of_driven w (hs ▸ hpath) hc hdeep

/-- The address of an absolute path loads the file that the path names wherever it is asked for,
unless the normal form of the path looks like one with a drive. -/
theorem loadsNamedFile_iff [HostNames] (hs : s.toList.head? = some '/') (hnull : '\x00' ∉ s.toList)
    (config : FetchConfig) (setting : Option CacheSetting) :
    (∀ w, LoadsNamedFile w config setting s) ↔ ¬LooksDriven (normal s.toList) := by
  obtain ⟨rest, hrest⟩ : ∃ rest, s.toList = '/' :: rest := List.head?_eq_some_iff.1 hs
  constructor
  · intro hall hdriven
    obtain ⟨w, hw⟩ := not_loadsNamedFile config setting hrest hnull hdriven
    exact hw (hall w)
  · intro hplain w
    exact reads_of_not_driven hrest hnull hplain w

theorem loadsNamedFile_special_characters :
    LoadsNamedFile (.alone (.ofString "/work") "/work/a b#1%.ts" (.content [101]))
      ⟨none, .use, true, 30⟩ none "/work/./a b#1%.ts" :=
  have htail : normal "/work/./a b#1%.ts".toList = '/' :: "work/a b#1%.ts".toList := by
    decide +kernel
  (loadsNamedFile_iff (by decide +kernel) (by decide +kernel) ⟨none, .use, true, 30⟩ none).2
    (mt (hasDrive_iff htail).2 (by decide +kernel)) _

theorem file_below_drive_not_loaded :
    ¬LoadsNamedFile (.alone (.ofString "/work") "/c:/mod.ts" (.content [101]))
      ⟨none, .use, true, 30⟩ none "/c:/mod.ts" := by
  have hs : "/c:/mod.ts".toList = '/' :: "c:/mod.ts".toList := by decide +kernel
  have hpath : normal "/c:/mod.ts".toList = '/' :: "c:/mod.ts".toList := by decide +kernel
  rw [loadsNamedFile_iff_reads hs (by decide +kernel)]
  intro hreads
  have hto : Location.toPath (fileUrl (normal "/c:/mod.ts".toList)) =
      .ok (.win32 (.ofChars "c:/mod.ts".toList)) :=
    Location.toPath_fileUrl hpath
  have hnull : World.hasNull
      (FilePath.win32 (.ofChars "c:/mod.ts".toList)).onHost.toString = false :=
    hasNull_ofList (by decide +kernel)
  have hanswer := hreads.content [101] (by decide +kernel)
  rw [(reads_file hto hnull).absent SystemError.missing (.inl rfl) (by decide +kernel)] at hanswer
  cases hanswer

end path

end Fetch

end EmitBridge
