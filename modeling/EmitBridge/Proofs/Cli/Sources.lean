import EmitBridge.Proofs.Cli.Options
import EmitBridge.Proofs.Emit.Ignored
import EmitBridge.Proofs.ImportMap.Lossless
import EmitBridge.Proofs.Load.Files
import EmitBridge.Proofs.Location.Again
import EmitBridge.Proofs.Location.Written

/-! Where a command takes its import map and its compiler options from. Flags come first, then the
inline sections of the config file, then the import map file that it names; compiler options are
merged key by key. -/

namespace EmitBridge

open HostNames.AsciiOnly

open Run Event Check

namespace ConfigFile

variable {w : World} {path : PosixPath} {c : ConfigFile Value}

def IsSection {α : Type} (check : Value → Checked α) (v? : Option Value) (x : Option α) : Prop :=
  match v? with
  | none | some .null => x = none
  | some v => ∃ a, check v = .passed a ∧ x = some a

structure Holds (members : Entries Value) (c : ConfigFile Value) : Prop where
  compilerOptions : IsSection (dict pure)
    ((Field.compilerOptions.find? members).map Prod.snd) c.compilerOptions
  imports : IsSection mapSection (members.get? "imports") c.imports
  scopes : IsSection Check.scopes (members.get? "scopes") c.scopes
  importMap : IsSection text ((Field.importMap.find? members).map Prod.snd) c.importMap

theorem isSection_of_optional {α : Type} {f : Field} {check : Value → Checked α}
    {es : Entries Value} {x : Option α} (h : f.optional none (option check) es = .passed x) :
    IsSection check ((f.find? es).map Prod.snd) x := by
  unfold Field.optional at h
  cases hv : f.find? es with
  | none =>
    rw [hv] at h
    cases h
    rfl
  | some e =>
    rw [hv] at h
    have hread : option check e.2 = .passed x := Checked.under_eq_passed h
    unfold option at hread
    split at hread
    · next hnull =>
      cases hread
      rw [Option.map_some, hnull]
      rfl
    · next hnull =>
      obtain ⟨a, ha, rfl⟩ := Checked.map_eq_passed hread
      unfold IsSection
      split
      · next heq => cases heq
      · next heq => exact (hnull (Option.some.inj heq)).elim
      · next heq =>
        cases heq
        exact ⟨a, ha, rfl⟩

theorem find?_plain (name : String) (es : Entries Value) :
    ((Field.plain name).find? es).map Prod.snd = es.get? name := by
  unfold Field.find? Field.plain
  cases es.get? name <;> rfl

theorem holds_of_readConfigFile {es : Entries Value} (h : readConfigFile es = .passed c) :
    Holds es c := by
  unfold readConfigFile at h
  obtain ⟨_, _, h, hd, ed⟩ := Checked.seq_eq_passed h
  obtain ⟨_, _, h, hc, ec⟩ := Checked.seq_eq_passed h
  obtain ⟨_, _, h, hb, eb⟩ := Checked.seq_eq_passed h
  obtain ⟨_, ha, ea⟩ := Checked.map_eq_passed h
  subst ea eb ec ed
  have himports := isSection_of_optional hb
  have hscopes := isSection_of_optional hc
  rw [Field.imports, find?_plain] at himports
  rw [Field.scopes, find?_plain] at hscopes
  exact ⟨isSection_of_optional ha, himports, hscopes, isSection_of_optional hd⟩

theorem exists_of_configFile {j : Json} (h : Check.configFile (Value.ofJson j) = .passed c) :
    ∃ members, Value.ofJson j = .dict members ∧ Holds members c := by
  unfold Check.configFile Check.record at h
  cases j with
  | obj ms =>
    rw [Value.ofJson] at h
    exact ⟨_, by rw [Value.ofJson], holds_of_readConfigFile h⟩
  | _ =>
    rw [Value.ofJson] at h
    cases h

theorem outcome_load (w : World) (path : PosixPath) : (load w path).outcome =
    match w.readText path.toString with
    | .ok text => ofChars w.nesting.config path text
    | .error f => .error (unreadable path f) := by
  have htext : (Run.readTextFile w path).outcome = .ok (w.readText path.toString) := rfl
  rw [load, outcome_bind, htext]
  cases w.readText path.toString with
  | ok text => exact outcome_ofExcept _
  | error f => exact outcome_fail _

theorem holds_of_load (h : (load w path).outcome = .ok c) : ∃ text j members,
    w.readText path.toString = .ok text ∧ Json.parse w.nesting.config text = .ok j ∧
      Value.ofJson j = .dict members ∧ Holds members c := by
  rw [outcome_load] at h
  cases hread : w.readText path.toString with
  | error f =>
    rw [hread] at h
    cases h
  | ok text =>
    rw [hread] at h
    have hchars : ofChars w.nesting.config path text = .ok c := h
    unfold ofChars at hchars
    cases hj : Json.parse w.nesting.config text with
    | error e =>
      simp only [hj] at hchars
      split at hchars <;> cases hchars
    | ok j =>
      rw [hj] at hchars
      cases hc : Check.configFile (Value.ofJson j) with
      | refused vs =>
        simp only [hc] at hchars
        cases hchars
      | passed d =>
        simp only [hc] at hchars
        cases hchars
        obtain ⟨members, hmembers, hheld⟩ := exists_of_configFile hc
        exact ⟨text, j, members, rfl, hj, hmembers, hheld⟩

end ConfigFile

namespace Location

theorem baseDirectory_slash [HostNames] {d : PosixPath} (h : d.toChars.head? = some '/')
    (cwd cwd' : PosixPath) : baseDirectory cwd (some (.path (.posix d))) =
      baseDirectory cwd' (some (.path (.posix d))) := by
  obtain ⟨rest, hrest⟩ : ∃ rest, d.toChars = '/' :: rest := List.head?_eq_some_iff.mp h
  have hdirectory (cwd : PosixPath) : baseDirectory cwd (some (.path (.posix d))) =
      .ok (directoryOfText cwd ('/' :: rest)) := by
    rw [← hrest]
    rfl
  rw [hdirectory, hdirectory, directoryOfText_slash, directoryOfText_slash]

theorem textToUrl_slash [HostNames] {d : PosixPath} (h : d.toChars.head? = some '/') (s : String)
    (cwd cwd' : PosixPath) : textToUrl cwd (some (.path (.posix d))) s =
      textToUrl cwd' (some (.path (.posix d))) s := by
  simp only [textToUrl, pathToUrl, baseDirectory_slash h cwd cwd']

theorem toUrl_of_isCanonical [HostNames] {u : Url} (hu : IsCanonical u) (cwd cwd' : PosixPath) :
    toUrl cwd none (.url u) = toUrl cwd' none (.url u) := by
  have hscheme : ¬(u.scheme.isEmpty && !u.decodedPath.isEmpty) = true := by
    rw [scheme_ne_empty hu]
    exact Bool.false_ne_true
  rw [toUrl, toUrl, if_neg hscheme, if_neg hscheme]

end Location

namespace ConfigFile

variable {w : World} {path : PosixPath} {c : ConfigFile Value}

def hasSections (c : ConfigFile Value) : Bool := c.imports.isSome || c.scopes.isSome

def namesImportMap (c : ConfigFile Value) : Bool := c.importMap.any (!·.isEmpty)

def directory (w : World) (path : PosixPath) : Value :=
  .path (.posix (PosixPath.absolute w.cwd path.parent))

/-- The address of the import map that a config file names. Neither it nor what is loaded from it
depends on the working directory, only on the directory of the config file. -/
structure Locates [HostNames] (w : World) (path : PosixPath) (t : Text) (u : Url) : Prop where
  address : Location.toUrl w.cwd (some (directory w path)) (.str t) = .ok u
  settled : (PosixPath.absolute w.cwd path.parent).toChars.head? = some '/' →
    ∀ cwd, Location.toUrl cwd (some (directory w path)) (.str t) = .ok u
  loaded : ∀ cwd, Location.toUrl cwd none (.url u) = Location.toUrl w.cwd none (.url u)

theorem locates_of_importMapUrl [HostNames] {t : Text} {u : Url}
    (h : importMapUrl w path t = .ok u) :
    Locates w path t u := by
  have haddress : Location.toUrl w.cwd (some (directory w path)) (.str t) = .ok u := by
    unfold importMapUrl at h
    unfold directory
    cases hu : Location.toUrl w.cwd (some (.path (.posix (w.cwd.absolute path.parent))))
        (.str t) with
    | ok v =>
      simp only [hu] at h
      exact h
    | error e =>
      simp only [hu] at h
      split at h
      · next heq => cases heq
      · split at h <;> cases h
      · cases h
  exact ⟨haddress,
    fun hslash cwd => (Location.textToUrl_slash hslash t.toString cwd w.cwd).trans haddress,
    fun cwd => Location.toUrl_of_isCanonical (Location.isCanonical_of_toUrl haddress) cwd w.cwd⟩

theorem namedImportMap_cases [HostNames] {named : Option Url}
    (h : c.namedImportMap w path = .ok named) :
    (∃ t u, c.importMap = some t ∧ c.namesImportMap ∧ named = some u ∧ Locates w path t u) ∨
      (c.namesImportMap = false ∧ named = none) := by
  unfold namedImportMap at h
  cases ht : c.importMap with
  | none =>
    rw [ht] at h
    cases h
    exact .inr ⟨by rw [namesImportMap, ht]; rfl, rfl⟩
  | some t =>
    rw [ht] at h
    have hnames : c.namesImportMap = !t.isEmpty := by rw [namesImportMap, ht]; rfl
    cases hempty : t.isEmpty with
    | true =>
      simp only [hempty, if_pos] at h
      cases h
      exact .inr ⟨by rw [hnames, hempty]; rfl, rfl⟩
    | false =>
      simp only [hempty, Bool.false_eq_true, if_false] at h
      obtain ⟨u, hu, rfl⟩ := exists_of_map_eq_ok h
      exact .inl ⟨t, u, rfl, by rw [hnames, hempty]; rfl, rfl, locates_of_importMapUrl hu⟩

end ConfigFile

namespace EmitFlags

variable {w : World} {f : EmitFlags} {cfg : Option (ConfigFile Value)} {v v' : Value}

def namesImportMap (f : EmitFlags) : Bool := f.importMap.any (!·.isEmpty)

inductive Reads (w : World) (f : EmitFlags) : Option (ConfigFile Value) → Prop
  | nothing (hconfig : f.config = none) : Reads w f none
  | file {path : PosixPath} {text : List Char} {j : Json} {members : Entries Value}
      {c : ConfigFile Value} (hconfig : f.config = some path)
      (htext : w.readText path.toString = .ok text)
      (hjson : Json.parse w.nesting.config text = .ok j)
      (hmembers : Value.ofJson j = .dict members) (hheld : c.Holds members) : Reads w f (some c)

/-- The import map source that counts, by precedence. -/
inductive Prefers [HostNames] (w : World) (f : EmitFlags) : Option (ConfigFile Value) → Value → Prop
  | flag {cfg : Option (ConfigFile Value)} {s : String} (hflag : f.importMap = some s)
      (hs : s.isEmpty = false) : Prefers w f cfg (.string s)
  | sections {c : ConfigFile Value} (hflag : f.namesImportMap = false) (hc : c.hasSections) :
      Prefers w f (some c) (.importMap ⟨none, c.imports, c.scopes⟩)
  | file {c : ConfigFile Value} {path : PosixPath} {t : Text} {u : Url}
      (hflag : f.namesImportMap = false) (hc : c.hasSections = false)
      (hconfig : f.config = some path) (ht : c.importMap = some t) (hnames : c.namesImportMap)
      (hu : ConfigFile.Locates w path t u) : Prefers w f (some c) (.url u)
  | nothing {cfg : Option (ConfigFile Value)} (hflag : f.namesImportMap = false)
      (hcfg : ∀ c ∈ cfg, c.hasSections = false ∧ c.namesImportMap = false) : Prefers w f cfg .null

theorem configured_cases [HostNames] {compiler sources : Entries Value}
    (h : (f.configured w).outcome = .ok (compiler, sources)) :
    (f.config = none ∧ compiler = [] ∧ sources = []) ∨
      ∃ path c named, f.config = some path ∧ (ConfigFile.load w path).outcome = .ok c ∧
        c.namedImportMap w path = .ok named ∧ compiler = c.compilerOptions.getD [] ∧
        sources = c.sources named := by
  unfold configured at h
  cases hconfig : f.config with
  | none =>
    rw [hconfig] at h
    cases h
    exact .inl ⟨rfl, rfl, rfl⟩
  | some path =>
    rw [hconfig] at h
    obtain ⟨c, hload, h⟩ := exists_of_outcome_bind h
    obtain ⟨named, hnamed, h⟩ := exists_of_ofExcept_bind h
    cases h
    exact .inr ⟨path, c, named, rfl, hload, hnamed, rfl, rfl⟩

theorem assemble_of_options [HostNames] {es : Entries Value} (h : (f.options w).outcome = .ok es) :
    ∃ compiler sources, (f.configured w).outcome = .ok (compiler, sources) ∧
      es = f.assemble compiler sources := by
  obtain ⟨r, hr, h⟩ := exists_of_outcome_bind h
  cases h
  exact ⟨r.1, r.2, hr, rfl⟩

theorem reads_of_load {path : PosixPath} {c : ConfigFile Value} (hconfig : f.config = some path)
    (hload : (ConfigFile.load w path).outcome = .ok c) : Reads w f (some c) := by
  obtain ⟨text, j, members, htext, hjson, hmembers, hheld⟩ := ConfigFile.holds_of_load hload
  exact .file hconfig htext hjson hmembers hheld

theorem supplies_text {entries : Entries Value} {s : String}
    (h : entries = [Members.field "import_map" (.string s)]) :
    Supplies entries none none (some (.text (Text.ofString s))) := by
  rw [h]
  refine ⟨rfl, rfl, rfl, ?_⟩
  rintro x ⟨⟩
  exact ⟨Value.noConfusion, importMapSource_text _⟩

theorem supplies_nil : Supplies [] none none none := ⟨rfl, rfl, rfl, nofun⟩

theorem supplies_sources (c : ConfigFile Value) (named : Option Url) :
    Supplies (c.sources named) c.imports c.scopes (named.map ImportMapSource.url) := by
  obtain ⟨himports, hscopes, hsource⟩ := ConfigFile.get?_sources c named
  refine ⟨himports, hscopes, ?_, ?_⟩
  · rw [hsource, Option.map_map]
    rfl
  · intro x hx
    obtain ⟨u, -, rfl⟩ := Option.map_eq_some_iff.mp hx
    exact ⟨Value.noConfusion, importMapSource_url u⟩

end EmitFlags

namespace ImportMapSource

theorem isShown_url {u : Url} {t : String} (h : u.render = .ok t) : IsShown (some (.url u)) := by
  refine ⟨(Value.url u).shown, ?_⟩
  show u.render.map (fun _ => (Value.url u).shown) = _
  rw [h]
  rfl

end ImportMapSource

namespace EmitCall

def chosen (imports : Option Section) (scopes : Option Scopes) (x : Option ImportMapSource) :
    Value :=
  if imports.isSome || scopes.isSome then .importMap ⟨none, imports, scopes⟩
  else Value.ofOption Value.ofImportMapSource x

theorem outcome_importMapSource {o : EmitOptions Value} (h : ImportMapSource.IsShown o.importMap) :
    (importMapSource o).outcome = .ok (chosen o.imports o.scopes o.importMap) := by
  cases hinline : o.hasInlineImports with
  | true =>
    -- the options of a call count here, not the call that they belong to
    let c : EmitCall := ⟨.null, o, none, none⟩
    obtain ⟨es, -, hes⟩ := importMapSource_of_shown (c := c) hinline h []
    exact (congrArg Prod.fst hes).trans (congrArg Except.ok (if_pos hinline).symm)
  | false =>
    have hsections := Bool.or_eq_false_iff.mp hinline
    have hnone : ImportMap.inline? o.imports o.scopes = none := by
      rw [ImportMap.inline?, Option.isSome_eq_false_iff.mp hsections.1,
        Option.isSome_eq_false_iff.mp hsections.2]
      rfl
    have hchosen : chosen o.imports o.scopes o.importMap =
        Value.ofOption Value.ofImportMapSource o.importMap :=
      if_neg (ne_true_of_eq_false hinline)
    rw [importMapSource, hnone, hchosen]
    cases o.importMap <;> rfl

end EmitCall

namespace SerializedImportMap

theorem specifierOf_of_mem_requests [HostNames] {w : World} {b : Bridge} {setting source : Value}
    {r : BridgeRequest} (h : r ∈ requests (build w b setting source).trace) :
    specifierOf w source = .ok r.specifier := by
  by_cases hfile : IsFile source
  · rw [trace_build_of_file hfile, trace_load] at h
    cases hs : specifierOf w source with
    | error e =>
      rw [hs] at h
      cases h
    | ok specifier =>
      simp only [hs, Bridge.requests_load, List.mem_singleton] at h
      rw [h]
      rfl
  · rw [trace_build_of_not_file hfile] at h
    cases h

end SerializedImportMap

namespace EmitFlags

variable {w : World} {f : EmitFlags} {cfg : Option (ConfigFile Value)} {v v' : Value}

def configuredOptions (cfg : Option (ConfigFile Value)) : Entries Value :=
  (cfg.bind ConfigFile.compilerOptions).getD []

structure Merges (f : EmitFlags) (configured compiler : Entries Value) : Prop where
  get? : ∀ key, compiler.get? key =
    if f.turnsOn key then some (.bool true) else configured.get? key
  others : compiler.filter (fun e => !f.turnsOn e.1) = configured.filter fun e => !f.turnsOn e.1

structure Takes [HostNames] (w : World) (f : EmitFlags) (cfg : Option (ConfigFile Value))
    (compiler : Entries Value) (o : EmitOptions Value) : Prop where
  source : ∃ v, f.Prefers w cfg v ∧ (EmitCall.importMapSource o).outcome = .ok v ∧
    ∀ b setting, ∀ r ∈ requests (SerializedImportMap.build w b setting v).trace,
      SerializedImportMap.specifierOf w v = .ok r.specifier
  compilerOptions : (compiler = [] ∧ o.compilerOptions = none) ∨
    ∃ d, readCompilerOptions compiler = .passed d ∧ o.compilerOptions = some d

theorem exists_importMap_of_named (h : f.namesImportMap) :
    ∃ s, f.importMap = some s ∧ s.isEmpty = false := by
  unfold namesImportMap at h
  cases hs : f.importMap with
  | none =>
    rw [hs] at h
    cases h
  | some s =>
    rw [hs, Option.any_some, Bool.not_eq_true'] at h
    exact ⟨s, rfl, h⟩

theorem importMapEntries_of_unnamed (h : f.namesImportMap = false) (sources : Entries Value) :
    f.importMapEntries sources = sources := by
  unfold importMapEntries
  cases hs : f.importMap with
  | none => rfl
  | some s =>
    rw [namesImportMap, hs, Option.any_some, Bool.not_eq_false'] at h
    exact if_pos h

theorem prefers_of_named [HostNames] {path : PosixPath} {c : ConfigFile Value} {named : Option Url}
    (hflag : f.namesImportMap = false) (hconfig : f.config = some path)
    (h : c.namedImportMap w path = .ok named) :
    ImportMapSource.IsShown (named.map ImportMapSource.url) ∧
      f.Prefers w (some c)
        (EmitCall.chosen c.imports c.scopes (named.map ImportMapSource.url)) := by
  have hsections {x : Option ImportMapSource} (hc : c.hasSections = true) :
      f.Prefers w (some c) (EmitCall.chosen c.imports c.scopes x) := by
    have hchosen : EmitCall.chosen c.imports c.scopes x =
        .importMap ⟨none, c.imports, c.scopes⟩ := if_pos hc
    rw [hchosen]
    exact .sections hflag hc
  have hchosen {x : Option ImportMapSource} (hc : c.hasSections = false) :
      EmitCall.chosen c.imports c.scopes x = Value.ofOption Value.ofImportMapSource x :=
    if_neg (ne_true_of_eq_false hc)
  obtain ⟨t, u, ht, hnames, rfl, hu⟩ | ⟨hnames, rfl⟩ := ConfigFile.namedImportMap_cases h
  · obtain ⟨s, hs⟩ := Location.exists_render_of_text hu.address
    refine ⟨ImportMapSource.isShown_url hs, ?_⟩
    cases hc : c.hasSections with
    | true => exact hsections hc
    | false =>
      rw [hchosen hc]
      exact .file hflag hc hconfig ht hnames hu
  · refine ⟨⟨_, rfl⟩, ?_⟩
    cases hc : c.hasSections with
    | true => exact hsections hc
    | false =>
      rw [hchosen hc]
      refine .nothing hflag ?_
      rintro d ⟨⟩
      exact ⟨hc, hnames⟩

theorem exists_supplies [HostNames] {compiler sources : Entries Value}
    (h : (f.configured w).outcome = .ok (compiler, sources)) :
    ∃ cfg, f.Reads w cfg ∧ compiler = configuredOptions cfg ∧
      (∀ e ∈ sources, e.1 ∈ ConfigFile.sourceNames.map Text.ofString) ∧
      ∃ imports scopes x, Supplies (f.importMapEntries sources) imports scopes x ∧
        ImportMapSource.IsShown x ∧ f.Prefers w cfg (EmitCall.chosen imports scopes x) := by
  -- a flag that names an import map leaves nothing else of the sources
  have hnamed {cfg : Option (ConfigFile Value)} (hflag : f.namesImportMap = true) :
      ∃ imports scopes x, Supplies (f.importMapEntries sources) imports scopes x ∧
        ImportMapSource.IsShown x ∧ f.Prefers w cfg (EmitCall.chosen imports scopes x) := by
    obtain ⟨s, hs, hne⟩ := exists_importMap_of_named hflag
    have hentries : f.importMapEntries sources = [Members.field "import_map" (.string s)] := by
      rw [importMapEntries, hs]
      exact if_neg (ne_true_of_eq_false hne)
    exact ⟨_, _, _, supplies_text hentries, ⟨_, rfl⟩, .flag hs hne⟩
  obtain ⟨hconfig, rfl, rfl⟩ | ⟨path, c, named, hconfig, hload, hfile, rfl, rfl⟩ :=
    configured_cases h
  · refine ⟨none, .nothing hconfig, rfl, nofun, ?_⟩
    cases hflag : f.namesImportMap with
    | true => exact hnamed hflag
    | false =>
      rw [importMapEntries_of_unnamed hflag]
      exact ⟨_, _, _, supplies_nil, ⟨_, rfl⟩, .nothing hflag nofun⟩
  · refine ⟨some c, reads_of_load hconfig hload, rfl,
      fun _ he => ConfigFile.name_of_mem_sources he, ?_⟩
    cases hflag : f.namesImportMap with
    | true => exact hnamed hflag
    | false =>
      rw [importMapEntries_of_unnamed hflag]
      obtain ⟨hshown, hprefers⟩ := prefers_of_named hflag hconfig hfile
      exact ⟨_, _, _, supplies_sources c named, hshown, hprefers⟩

theorem namesImportMap_of_flag {s : String} (hflag : f.importMap = some s)
    (hs : s.isEmpty = false) : f.namesImportMap ≠ false := by
  rw [namesImportMap, hflag, Option.any_some, hs]
  exact Bool.noConfusion

theorem Prefers.unique [HostNames] (h : f.Prefers w cfg v) (h' : f.Prefers w cfg v') : v = v' := by
  have hfile {c : ConfigFile Value} (hc : c.hasSections = true)
      (h : ∀ d ∈ some c, d.hasSections = false ∧ d.namesImportMap = false) : False := by
    have hnone := (h c rfl).1
    rw [hc] at hnone
    cases hnone
  -- each kind of source rules out those that it is preferred to
  cases h with
  | flag hflag hs =>
    cases h' with
    | flag hflag' _ => rw [Option.some.inj (hflag.symm.trans hflag')]
    | sections hnone _ => exact (namesImportMap_of_flag hflag hs hnone).elim
    | file hnone _ _ _ _ _ => exact (namesImportMap_of_flag hflag hs hnone).elim
    | nothing hnone _ => exact (namesImportMap_of_flag hflag hs hnone).elim
  | sections hnone hc =>
    cases h' with
    | flag hflag hs => exact (namesImportMap_of_flag hflag hs hnone).elim
    | sections _ _ => rfl
    | file _ hc' _ _ _ _ => exact Bool.noConfusion (hc.symm.trans hc')
    | nothing _ hcfg => exact (hfile hc hcfg).elim
  | file hnone hc hconfig ht hnames hu =>
    cases h' with
    | flag hflag hs => exact (namesImportMap_of_flag hflag hs hnone).elim
    | sections _ hc' => exact Bool.noConfusion (hc'.symm.trans hc)
    | file _ _ hconfig' ht' _ hu' =>
      obtain rfl := Option.some.inj (hconfig.symm.trans hconfig')
      obtain rfl := Option.some.inj (ht.symm.trans ht')
      rw [Except.ok.inj (hu.address.symm.trans hu'.address)]
    | nothing _ hcfg => exact Bool.noConfusion (hnames.symm.trans (hcfg _ rfl).2)
  | nothing hnone hcfg =>
    cases h' with
    | flag hflag hs => exact (namesImportMap_of_flag hflag hs hnone).elim
    | sections _ hc => exact (hfile hc hcfg).elim
    | file _ _ _ _ hnames _ => exact Bool.noConfusion (hnames.symm.trans (hcfg _ rfl).2)
    | nothing _ _ => rfl

end EmitFlags

def ConfigFile.emptyImportsText : List Char :=
  "\x7b\"imports\": \x7b\x7d, \"importMap\": \"./maps/map.json\"\x7d".toList

def PosixPath.appConfig : PosixPath := .ofString "/work/app/deno.json"

def World.configured : World :=
  .alone (.ofString "/work") "/work/app/deno.json"
    (.content (Utf8.encodeChars ConfigFile.emptyImportsText))

def EmitFlags.appConfig : EmitFlags :=
  ⟨some .appConfig, none, true, false, false, false, none, none⟩

def Url.appMap : Url := ⟨"file", "", "/work/app/maps/map.json", "", "", none⟩

theorem readText_configured : World.configured.readText PosixPath.appConfig.toString =
    .ok ConfigFile.emptyImportsText := by
  have hnull : World.hasNull PosixPath.appConfig.toString = false :=
    Fetch.hasNull_ofList (by decide)
  rw [World.readText, Fetch.read_of_clean hnull]
  exact Location.ok_of_toOption (by decide +kernel)

theorem load_configured : ∃ c, (ConfigFile.load .configured .appConfig).outcome = .ok c ∧
    c.compilerOptions = none ∧ c.imports = some [] ∧ c.scopes = none ∧
    c.importMap = some (Text.ofString "./maps/map.json") := by
  have hread : ((ConfigFile.ofChars World.configured.nesting.config .appConfig
      ConfigFile.emptyImportsText).toOption.map fun c =>
      (c.compilerOptions.isNone, c.imports.map List.isEmpty, c.scopes.isNone, c.importMap)) =
      some (true, some true, true, some (Text.ofString "./maps/map.json")) := by
    decide +kernel
  obtain ⟨c, hc, hparts⟩ := Option.map_eq_some_iff.mp hread
  simp only [Prod.mk.injEq, Option.isNone_iff_eq_none, Option.map_eq_some_iff,
    List.isEmpty_iff] at hparts
  obtain ⟨hcompiler, ⟨s, hs, rfl⟩, hscopes, hmap⟩ := hparts
  refine ⟨c, ?_, hcompiler, hs, hscopes, hmap⟩
  rw [ConfigFile.outcome_load, readText_configured]
  exact Location.ok_of_toOption hc

theorem importMapUrl_configured :
    ConfigFile.importMapUrl .configured .appConfig (Text.ofString "./maps/map.json") =
      .ok .appMap := by
  have haddress : Location.toUrl World.configured.cwd (some (.path (.posix
      (PosixPath.absolute World.configured.cwd PosixPath.appConfig.parent))))
      (.str (Text.ofString "./maps/map.json")) = .ok .appMap := by
    rw [← Value.string, Location.toUrl_string, Location.textToUrl_eq]
    exact Location.ok_of_toOption (by decide)
  rw [ConfigFile.importMapUrl]
  simp only [haddress]

theorem options_appConfig : (EmitFlags.appConfig.options .configured).outcome =
    .ok (EmitFlags.appConfig.assemble [] [Members.field "imports" (Value.ofSection []),
      Members.field "import_map" (.url .appMap)]) := by
  obtain ⟨c, hload, hcompiler, himports, hscopes, hmap⟩ := load_configured
  have hnamed : c.namedImportMap .configured .appConfig = .ok (some .appMap) := by
    rw [ConfigFile.namedImportMap, hmap]
    exact congrArg (some <$> ·) importMapUrl_configured
  have hconfigured : (EmitFlags.appConfig.configured .configured).outcome =
      .ok ([], [Members.field "imports" (Value.ofSection []),
        Members.field "import_map" (.url .appMap)]) := by
    show ((ConfigFile.load .configured .appConfig) >>= _).outcome = _
    rw [outcome_bind, hload]
    show ((Run.ofExcept (c.namedImportMap .configured .appConfig)) >>= _).outcome = _
    rw [outcome_bind, outcome_ofExcept, hnamed]
    show Except.ok (c.compilerOptions.getD [], c.sources (some .appMap)) = _
    rw [ConfigFile.sources, hcompiler, himports, hscopes]
    rfl
  rw [EmitFlags.options, outcome_bind, hconfigured]
  rfl

/-- Options from the command line, given to a call. Of the import map sources the preferred one is
taken: the flag's, else the inline sections of the config file, else the file it names. The compiler
options are those of the config file with what flags turn on. -/
theorem call_takes_flags_and_configFile [HostNames] {w : World} {f : EmitFlags} {es : Entries Value}
    (h : (f.options w).outcome = .ok es) :
    ∃ cfg compiler, f.Reads w cfg ∧ f.Merges (EmitFlags.configuredOptions cfg) compiler ∧
      es.get? "compiler_options" = (if compiler ≠ [] then some (.dict compiler) else none) ∧
      ∀ engine root shape c,
        (EmitCall.ofBundle engine root (CommandLine.callOptions shape es) = .ok c ∨
          EmitCall.ofTranspile engine root (CommandLine.callOptions shape es) = .ok c) →
        f.Takes w cfg compiler c.options := by
  obtain ⟨configured, sources, hconfigured, rfl⟩ := EmitFlags.assemble_of_options h
  obtain ⟨cfg, hreads, rfl, hnames, imports, scopes, x, hsupplies, hshown, hprefers⟩ :=
    EmitFlags.exists_supplies hconfigured
  refine ⟨cfg, f.compilerOptions (EmitFlags.configuredOptions cfg), hreads,
    ⟨f.get?_compilerOptions _, f.filter_compilerOptions _⟩, ?_, ?_⟩
  · have hes := CommandLine.callOptions_assemble f none (EmitFlags.configuredOptions cfg) sources
    rw [Value.dict.inj hes]
    exact EmitFlags.get?_of_compilerName hnames
  · intro engine root shape c hc
    rw [CommandLine.callOptions_assemble] at hc
    have hread :=
      hc.elim EmitCall.readEmitOptions_of_ofBundle EmitCall.readEmitOptions_of_ofTranspile
    obtain ⟨hmap, himports, hscopes⟩ := EmitFlags.read_sources hread hnames hsupplies
    refine ⟨⟨_, hprefers, ?_, fun _ _ _ => SerializedImportMap.specifierOf_of_mem_requests⟩,
      EmitFlags.read_compilerOptions hread hnames⟩
    have hsource := EmitCall.outcome_importMapSource (hmap ▸ hshown)
    rw [hsource, hmap, himports, hscopes]

theorem call_takes_empty_imports : ∃ es c cfg compiler,
    (EmitFlags.appConfig.options .configured).outcome = .ok es ∧
    EmitCall.ofTranspile none .workRoot (CommandLine.callOptions none es) = .ok c ∧
    EmitFlags.appConfig.Takes .configured cfg compiler c.options := by
  have hcall : (EmitCall.ofTranspile none .workRoot (CommandLine.callOptions none
      (EmitFlags.appConfig.assemble [] [Members.field "imports" (Value.ofSection []),
        Members.field "import_map" (.url .appMap)]))).toOption.isSome := by
    decide
  obtain ⟨c, hc⟩ := Option.isSome_iff_exists.mp hcall
  have hok := Location.ok_of_toOption hc
  obtain ⟨cfg, compiler, -, -, -, htakes⟩ := call_takes_flags_and_configFile options_appConfig
  exact ⟨_, c, cfg, compiler, options_appConfig, hok, htakes none .workRoot none c (.inr hok)⟩

end EmitBridge
