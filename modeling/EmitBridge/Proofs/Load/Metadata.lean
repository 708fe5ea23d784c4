import EmitBridge.Proofs.ImportMap.Shape
import EmitBridge.Proofs.Load.Files

/-! What the metadata of a cached module adds to it. Metadata tells an address and headers, or
counts for nothing as a whole; the module itself is served in either case. -/

namespace EmitBridge

open HostNames.AsciiOnly

open Json Run LoadResponse

variable {w : World} {path : PosixPath} {specifier s : String} {content : Bytes}
  {hs : Option Section} {v : Json} {m : ModuleResponse}

namespace Cache

def Holds (w : World) (path : PosixPath) (v : Json) : Prop :=
  ∃ cs, w.read path.toString = .ok (Utf8.encodeChars cs) ∧
    IsDocument w.nesting.metadata (EnvFile.unifyBreaks cs) v

inductive TellsAddress (requested : String) : Option Json → String → Prop
  | absent : TellsAddress requested none requested
  | given {s : String} : s ≠ "" → TellsAddress requested (some (.str s)) s

inductive TellsHeaders : Option Json → Option Section → Prop
  | absent : TellsHeaders none none
  | null : TellsHeaders (some .null) none
  | given (hs : Section) : TellsHeaders (some (ImportMap.jsonSection hs)) (some (lowered hs))

/-- An object that tells the address and the headers of a module; what else there is in it does not
count. -/
structure Tells (requested : String) (v : Json) (s : String) (hs : Option Section) : Prop where
  isObject : ∃ ms, v = .obj ms
  address : TellsAddress requested (v.get? (Text.ofString "url")) s
  headers : TellsHeaders (v.get? (Text.ofString "headers")) hs

theorem spells_ofJson_iff {t : Text} : (Value.ofJson v).Spells t ↔ v = .str t := by
  rw [← Check.text_eq_passed_iff]
  exact Check.recovers_text v t

theorem spells_string_iff {s t : String} : (Value.string s).Spells t ↔ s = t := by
  have hread : Check.text (.string s) = .passed s := rfl
  rw [← Check.text_eq_passed_iff, hread, Checked.passed.injEq, Text.ofString_injective.eq_iff]

theorem givesHeaders_ofJson_iff :
    GivesHeaders (some (Value.ofJson v)) hs ↔ TellsHeaders (some v) hs := by
  rw [← Check.headers_eq_passed_iff, Check.headers, Checked.andThen_eq_passed_iff]
  simp only [Check.option_eq_passed_iff, ne_eq, Value.ofJson_eq_null_iff, Check.recovers_section v]
  constructor
  · rintro ⟨given, hgiven, h⟩
    obtain rfl : given.map Check.lowerNames = hs := Checked.passed.inj h
    rcases hgiven with ⟨rfl, rfl⟩ | ⟨-, es, rfl, rfl⟩
    · exact .null
    · rw [Option.map_some, Check.lowerNames_eq]
      exact .given es
  · intro h
    cases h with
    | null => exact ⟨none, .inl ⟨rfl, rfl⟩, rfl⟩
    | given es =>
      refine ⟨some es, .inr ⟨Json.noConfusion, es, rfl, rfl⟩, ?_⟩
      rw [Option.map_some, Check.lowerNames_eq]
      rfl

theorem givesContent_bytes_iff {c : Content} :
    GivesContent (some (.bytes content)) c ↔ c = .bytes content := by
  constructor
  · intro h
    cases h with
    | bytes => rfl
    | text ht => cases ht
  · rintro rfl
    exact .bytes content

theorem moduleOf_eq_passed_iff {told : Entries Value} :
    moduleOf specifier content (some told) = .passed m ↔
      (m.specifier ≠ "" ∧
        ((told.get? "url").getD (.string specifier)).Spells (Text.ofString m.specifier)) ∧
      GivesHeaders (some ((told.get? "headers").getD .null)) m.headers ∧
      m.content = .bytes content := by
  have hnames : Text.ofString "headers" ≠ "specifier" ∧ Text.ofString "content" ≠ "specifier" ∧
      Text.ofString "content" ≠ "headers" ∧ Text.ofString "kind" ≠ "specifier" ∧
      Text.ofString "kind" ≠ "headers" ∧ Text.ofString "kind" ≠ "content" := by decide
  obtain ⟨hhs, hcs, hch, hks, hkh, hkc⟩ := hnames
  let es : Entries Value :=
    [("specifier", (told.get? "url").getD (.string specifier)),
      ("headers", (told.get? "headers").getD .null), ("content", .bytes content)]
  have hkind : es.get? "kind" = none := by
    simp only [es, Entries.get?_cons, if_neg hks, if_neg hkh, if_neg hkc]
    rfl
  have hspecifier : es.get? "specifier" = some ((told.get? "url").getD (.string specifier)) := by
    rw [Entries.get?_cons, if_pos rfl]
  have hheaders : es.get? "headers" = some ((told.get? "headers").getD .null) := by
    rw [Entries.get?_cons, if_neg hhs, Entries.get?_cons, if_pos rfl]
  have hcontent : es.get? "content" = some (.bytes content) := by
    rw [Entries.get?_cons, if_neg hcs, Entries.get?_cons, if_neg hch, Entries.get?_cons, if_pos rfl]
  have hmodule : moduleOf specifier content (some told) = Check.readModuleResponse es := rfl
  rw [hmodule, Check.readModuleResponse_eq_passed_iff (Check.optional_of_missing hkind hkind),
    GivesSpecifier, hspecifier, hheaders, hcontent, givesContent_bytes_iff]
  simp

theorem tellsAddress_iff (hne : specifier ≠ "") (u : Option Json) (s : String) :
    TellsAddress specifier u s ↔
      s ≠ "" ∧ ((u.map Value.ofJson).getD (.string specifier)).Spells (Text.ofString s) := by
  cases u with
  | none =>
    rw [Option.map_none, Option.getD_none, spells_string_iff]
    constructor
    · intro h
      cases h
      exact ⟨hne, rfl⟩
    · rintro ⟨-, rfl⟩
      exact .absent
  | some u =>
    rw [Option.map_some, Option.getD_some, spells_ofJson_iff]
    constructor
    · intro h
      cases h with
      | given hs => exact ⟨hs, rfl⟩
    · rintro ⟨hs, rfl⟩
      exact .given hs

theorem tellsHeaders_iff (hs? : Option Json) (headers : Option Section) :
    TellsHeaders hs? headers ↔ GivesHeaders (some ((hs?.map Value.ofJson).getD .null)) headers := by
  cases hs? with
  | none =>
    have hnull : Value.ofJson .null = .null := rfl
    rw [Option.map_none, Option.getD_none, ← hnull, givesHeaders_ofJson_iff]
    constructor
    · intro h
      cases h
      exact .null
    · intro h
      cases h
      exact .absent
  | some v => rw [Option.map_some, Option.getD_some, givesHeaders_ofJson_iff]

theorem moduleOf_of_object (hne : specifier ≠ "") {ms : List (Text × Json)} :
    moduleOf specifier content (some (Value.ofJsonMembers ms)) = .passed m ↔
      Tells specifier (.obj ms) m.specifier m.headers ∧ m.content = .bytes content := by
  rw [moduleOf_eq_passed_iff, Value.get?_ofJsonMembers, Value.get?_ofJsonMembers,
    ← tellsAddress_iff hne, ← tellsHeaders_iff, ← and_assoc]
  refine and_congr_left fun _ => ⟨fun ⟨ha, hh⟩ => ⟨⟨ms, rfl⟩, ha, hh⟩, fun h => ?_⟩
  exact ⟨h.address, h.headers⟩

theorem moduleOf_of_nothing (hne : specifier ≠ "") {told : Option (Entries Value)}
    (h : told.getD [] = []) :
    moduleOf specifier content told = .passed ⟨specifier, none, .bytes content⟩ := by
  have hnothing : moduleOf specifier content told =
      moduleOf specifier content (some (Value.ofJsonMembers [])) := by
    unfold moduleOf
    rw [h]
    rfl
  rw [hnothing, moduleOf_of_object hne]
  exact ⟨⟨⟨[], rfl⟩, .absent, .absent⟩, rfl⟩

theorem readText_eq_ok_iff {name : String} {cs : List Char} : w.readText name = .ok cs ↔
    ∃ ds, w.read name = .ok (Utf8.encodeChars ds) ∧ cs = EnvFile.unifyBreaks ds := by
  unfold World.readText
  cases w.read name with
  | error f => exact iff_of_false nofun (by simp)
  | ok bs =>
    simp only [bind, Except.bind, Except.ok.injEq, ← Utf8.decode_eq_ok_iff]
    cases hbs : Utf8.decode bs with
    | error e => simp
    | ok ds => simp [eq_comm]

theorem holds_iff :
    Holds w path v ↔
      ∃ cs, w.readText path.toString = .ok cs ∧ parse w.nesting.metadata cs = .ok v := by
  simp only [Holds, readText_eq_ok_iff, parse_eq_ok_iff]
  constructor
  · rintro ⟨ds, hread, hv⟩
    exact ⟨_, ⟨ds, hread, rfl⟩, hv⟩
  · rintro ⟨_, ⟨ds, hread, rfl⟩, hv⟩
    exact ⟨ds, hread, hv⟩

theorem Holds.isShallow (h : Holds w (metadataPath path) v) : IsShallow w path := by
  intro cs e hcs he
  obtain ⟨ds, hds, hv⟩ := holds_iff.mp h
  cases hcs.symm.trans hds
  cases he.symm.trans hv

theorem Holds.unique {u : Json} (hv : Holds w path v) (hu : Holds w path u) : v = u := by
  obtain ⟨cs, hcs, hv⟩ := holds_iff.mp hv
  obtain ⟨ds, hds, hu⟩ := holds_iff.mp hu
  cases hcs.symm.trans hds
  exact Except.ok.inj (hv.symm.trans hu)

theorem toldAt_cases (h : IsShallow w path) :
    (∃ ms, Holds w (metadataPath path) (.obj ms) ∧
      toldAt w path = .ok (some (Value.ofJsonMembers ms))) ∨
    ∃ told, toldAt w path = .ok told ∧ told.getD [] = [] := by
  simp only [holds_iff]
  unfold toldAt
  cases hread : w.readText (metadataPath path).toString with
  | error f => exact .inr ⟨_, rfl, rfl⟩
  | ok cs =>
    cases hparse : parse w.nesting.metadata cs with
    | error e =>
      rw [metadata, hparse]
      exact .inr ⟨_, if_neg (ne_true_of_eq_false (h cs e hread hparse)), rfl⟩
    | ok v =>
      rw [metadata, hparse]
      cases v with
      | obj ms => exact .inl ⟨ms, ⟨cs, rfl, hparse⟩, rfl⟩
      | _ => exact .inr ⟨none, rfl, rfl⟩

theorem outcome_cachedModule_of_passed {told : Option (Entries Value)}
    (h : moduleOf specifier content told = .passed m) :
    (cachedModule path specifier content told).outcome = .ok m := by
  rw [cachedModule, h]
  rfl

theorem outcome_cachedModule_of_not_passed {told : Option (Entries Value)}
    (h : ∀ m, moduleOf specifier content told ≠ .passed m) :
    (cachedModule path specifier content told).outcome = .ok ⟨specifier, none, .bytes content⟩ := by
  unfold cachedModule
  split
  · next m hm => exact absurd hm (h m)
  · rfl

theorem outcome_readAt_of_tells (hne : specifier ≠ "") (hread : w.read path.toString = .ok content)
    (hv : Holds w (metadataPath path) v) (h : Tells specifier v s hs) :
    (readAt w path specifier).outcome = .ok (some ⟨s, hs, .bytes content⟩) := by
  obtain ⟨ms, rfl⟩ := h.isObject
  obtain ⟨cs, htext, hparse⟩ := holds_iff.mp hv
  have hpassed : moduleOf specifier content (some (Value.ofJsonMembers ms)) =
      .passed ⟨s, hs, .bytes content⟩ := (moduleOf_of_object hne).mpr ⟨h, rfl⟩
  have htold : toldAt w path = .ok (some (Value.ofJsonMembers ms)) := by
    rw [toldAt, htext, metadata, hparse]
  have hmodule : (cachedModule path specifier content (some (Value.ofJsonMembers ms))).outcome =
      .ok ⟨s, hs, .bytes content⟩ := outcome_cachedModule_of_passed hpassed
  rw [outcome_readAt_of_toldAt hread htold, hmodule]
  rfl

theorem outcome_readAt_of_not_tells (hne : specifier ≠ "")
    (hread : w.read path.toString = .ok content) (hshallow : IsShallow w path)
    (h : ∀ v s hs, Holds w (metadataPath path) v → ¬Tells specifier v s hs) :
    (readAt w path specifier).outcome = .ok (some ⟨specifier, none, .bytes content⟩) := by
  obtain ⟨told, htold, hmodule⟩ : ∃ told, toldAt w path = .ok told ∧
      (cachedModule path specifier content told).outcome =
        .ok ⟨specifier, none, .bytes content⟩ := by
    obtain ⟨ms, hms, htold⟩ | ⟨told, htold, hnothing⟩ := toldAt_cases hshallow
    · refine ⟨_, htold, outcome_cachedModule_of_not_passed fun m hm => ?_⟩
      exact h _ _ _ hms ((moduleOf_of_object hne).mp hm).1
    · exact ⟨told, htold, outcome_cachedModule_of_passed (moduleOf_of_nothing hne hnothing)⟩
  rw [outcome_readAt_of_toldAt hread htold, hmodule]
  rfl

structure IsServed (w : World) (path : PosixPath) (specifier : String) (content : Bytes)
    (x : Run (Option LoadResponse)) : Prop where
  served : ∃ s hs, x.outcome = .ok (some (.module ⟨s, hs, .bytes content⟩))
  unrequested : ∀ url, .requested url ∉ x.trace
  told : ∀ v s hs, Holds w (metadataPath path) v → Tells specifier v s hs →
    x.outcome = .ok (some (.module ⟨s, hs, .bytes content⟩))
  untold : (∀ v s hs, Holds w (metadataPath path) v → ¬Tells specifier v s hs) →
    x.outcome = .ok (some (.module ⟨specifier, none, .bytes content⟩))

end Cache

namespace Fetch

open Cache

variable {config : FetchConfig} {setting : Option CacheSetting} {u : Url} {root : CacheRoot}

theorem ne_empty_of_remote [HostNames] (hu : Url.verbatim specifier = .ok u)
    (hscheme : u.scheme ∈ remoteSchemes) : specifier ≠ "" := by
  rintro rfl
  have hempty : (Url.verbatim "").toOption.map Url.scheme = some "" := rfl
  rw [hu] at hempty
  rw [Option.some.inj hempty] at hscheme
  exact absurd hscheme (by decide)

theorem report_load_of_readAt [HostNames] (hu : Url.verbatim specifier = .ok u)
    (hscheme : u.scheme ∈ remoteSchemes) (hallow : config.allowRemote = true)
    (hsetting : setting.getD config.cacheSetting ≠ .reload) (hroot : config.cacheRoot = some root)
    (hpath : Cache.entry root u = .ok path)
    (hm : (readAt w path specifier).outcome = .ok (some m)) :
    (load w config specifier setting).report =
      (.ok (some (.module m)), (readAt w path specifier).trace) := by
  have hcached : cached w config (setting.getD config.cacheSetting) specifier u =
      readAt w path specifier := cached_of_entry hsetting hroot hpath
  have hreport : (readAt w path specifier).report =
      (.ok (some m), (readAt w path specifier).trace) := Prod.ext hm rfl
  rw [load_eq_remote w config hu hscheme, remote_of_online hallow, hcached,
    report_bind_of_ok hreport]
  exact Prod.ext rfl (List.append_nil _)

/-- What lies beside a cached module cannot spoil it: whatever the metadata is, as long as it is not
nested too deep, the module is served with its content and without a request. Its address and
headers are those that the metadata tells, or else the requested address and none. -/
theorem isServed_load [HostNames] (w : World) (hu : Url.verbatim specifier = .ok u)
    (hscheme : u.scheme ∈ remoteSchemes) (hallow : config.allowRemote = true)
    (hsetting : setting.getD config.cacheSetting ≠ .reload) (hroot : config.cacheRoot = some root)
    (hpath : Cache.entry root u = .ok path) (hread : w.read path.toString = .ok content)
    (hshallow : IsShallow w path) :
    IsServed w path specifier content (load w config specifier setting) := by
  have hne : specifier ≠ "" := ne_empty_of_remote hu hscheme
  have hreport {m : ModuleResponse} (hm : (readAt w path specifier).outcome = .ok (some m)) :
      (load w config specifier setting).report =
        (.ok (some (.module m)), (readAt w path specifier).trace) :=
    report_load_of_readAt hu hscheme hallow hsetting hroot hpath hm
  have houtcome {m : ModuleResponse} (hm : (readAt w path specifier).outcome = .ok (some m)) :
      (load w config specifier setting).outcome = .ok (some (.module m)) :=
    outcome_of_report (hreport hm)
  obtain ⟨told, htold⟩ := isShallow_iff.mp hshallow
  obtain ⟨⟨s, hs, c⟩, hm, rfl⟩ : ∃ m, (readAt w path specifier).outcome = .ok (some m) ∧
      m.content = .bytes content := outcome_readAt_of_told hread htold
  constructor
  · exact ⟨s, hs, houtcome hm⟩
  · intro url
    have htrace : (load w config specifier setting).trace = (readAt w path specifier).trace :=
      trace_of_report (hreport hm)
    rw [htrace, ← cached_of_entry hsetting hroot hpath]
    exact requested_notMem_cached w config _ specifier u url
  · intro v s hs hv h
    exact houtcome (outcome_readAt_of_tells hne hread hv h)
  · intro h
    exact houtcome (outcome_readAt_of_not_tells hne hread hshallow h)

def modulePath : PosixPath := ⟨"/", ["cache", "deps", "https", "h",
  "51a61f14fdad404fd2c9187363be7846d6d3b84a2b8697b9bd50c60d4509ab60"]⟩

def World.caching (told : Json) : World :=
  { World.bare with files := [(modulePath.toString, .content [0x78]),
      ((metadataPath modulePath).toString, .content (Utf8.encodeChars told.render))] }

theorem exists_modulePath : ∃ u, Url.verbatim "https://h/mod.ts" = .ok u ∧
    u.scheme ∈ remoteSchemes ∧ Cache.entry (.path (.ofString "/cache")) u = .ok modulePath := by
  obtain ⟨u, hu, hscheme, -⟩ := exists_verbatim_moduleRequest
  have hpath : ((Url.verbatim "https://h/mod.ts").toOption.bind fun u =>
      (Cache.path (.ofString "/cache") u).toOption) = some modulePath := by decide +kernel
  rw [hu] at hpath
  have hpath : Cache.path (.ofString "/cache") u = .ok modulePath := Location.ok_of_toOption hpath
  refine ⟨u, hu, hscheme, ?_⟩
  rw [Cache.entry, hpath]
  rfl

theorem read_of_files {front rest : List (String × FileEntry)} {bs : Bytes}
    (h : w.files = front ++ (path.toString, .content bs) :: rest) (hnull : '\x00' ∉ path.toChars)
    (hfront : ∀ f ∈ front, w.place f.1.toList ≠ w.place path.toChars) :
    w.read path.toString = .ok bs := by
  have hchars : path.toString.toList = path.toChars := String.toList_ofList
  have hclean : World.hasNull path.toString = false :=
    World.hasNull_of_isClean (PosixPath.isClean_iff.mpr hnull)
  have hfilled : path.toString.isEmpty = false := by
    rw [Url.isEmpty_eq_toList, hchars, List.isEmpty_eq_false_iff]
    exact PosixPath.toChars_ne_nil path
  have hentry : w.entry path.toString = .content bs :=
    World.entry_of_append h hfilled (by rwa [hchars])
  rw [read_of_clean hclean, hentry]

theorem read_module (told : Json) : (World.caching told).read modulePath.toString = .ok [0x78] :=
  @read_of_files _ _ [] _ _ rfl (by decide +kernel) nofun

theorem read_metadata (told : Json) : (World.caching told).read
    (metadataPath modulePath).toString = .ok (Utf8.encodeChars told.render) := by
  have hplaces : World.bare.place modulePath.toChars ≠
      World.bare.place (metadataPath modulePath).toChars := by decide +kernel
  refine @read_of_files _ _ [(modulePath.toString, .content [0x78])] [] _ rfl (by decide +kernel) ?_
  rw [List.forall_mem_singleton, PosixPath.toString, String.toList_ofList]
  exact hplaces

theorem holds_caching {ms : List (Text × Json)} (hnames : (ms.map Prod.fst).Nodup)
    (hspells : ∀ e ∈ ms, IsJoined e.1.points ∧ Spells 899 e.2 e.2.render)
    (hbreaks : EnvFile.unifyBreaks (Json.obj ms).render = (Json.obj ms).render) :
    Holds (World.caching (.obj ms)) (metadataPath modulePath) (.obj ms) := by
  have hparse : parse World.bare.nesting.metadata ((Json.obj ms).render ++ []) = .ok (.obj ms) :=
    parse_of_spells (spells_render_obj hnames hspells) areBlanks_nil
  refine ⟨(Json.obj ms).render, read_metadata (.obj ms), ?_⟩
  rw [hbreaks, ← parse_eq_ok_iff]
  rwa [List.append_nil] at hparse

def redirected : List (Text × Json) :=
  [("url", .str "https://h/v2.ts"), ("headers", ImportMap.jsonSection [("X-A", "1")])]

theorem holds_redirected :
    Holds (World.caching (.obj redirected)) (metadataPath modulePath) (.obj redirected) := by
  refine holds_caching (by decide +kernel) ?_ (by decide +kernel)
  have hsection : ImportMap.IsSection [("X-A", "1")] := ⟨by decide, by decide⟩
  refine List.forall_mem_cons.mpr ⟨⟨?_, .str ?_⟩, List.forall_mem_singleton.mpr ⟨?_, ?_⟩⟩
  · exact ImportMap.isJoined_ofString "url"
  · exact ImportMap.isJoined_ofString "https://h/v2.ts"
  · exact ImportMap.isJoined_ofString "headers"
  · exact ImportMap.spells_section hsection 898

theorem served_redirected :
    (load (World.caching (.obj redirected)) (cacheAt "/cache") "https://h/mod.ts" none).outcome =
      .ok (some (.module ⟨"https://h/v2.ts", some [("x-a", "1")], .bytes [0x78]⟩)) := by
  obtain ⟨u, hu, hscheme, hpath⟩ := exists_modulePath
  have hsetting : (none : Option CacheSetting).getD .use ≠ .reload := by decide
  have hserved : IsServed (World.caching (.obj redirected)) modulePath "https://h/mod.ts" [0x78]
      (load (World.caching (.obj redirected)) (cacheAt "/cache") "https://h/mod.ts" none) :=
    isServed_load _ hu hscheme rfl hsetting rfl hpath (read_module _) holds_redirected.isShallow
  have hlowered : ([("x-a", "1")] : Section) = lowered [("X-A", "1")] := by decide +kernel
  rw [hlowered]
  exact hserved.told _ _ _ holds_redirected ⟨⟨_, rfl⟩, .given (by decide), .given _⟩

def unpaired : List (Text × Json) := [("url", .str ⟨[.ofNat 0xD800]⟩)]

theorem unpaired_ignored :
    Holds (World.caching (.obj unpaired)) (metadataPath modulePath) (.obj unpaired) ∧
    (load (World.caching (.obj unpaired)) (cacheAt "/cache") "https://h/mod.ts" none).outcome =
      .ok (some (.module ⟨"https://h/mod.ts", none, .bytes [0x78]⟩)) ∧
    Text.ofString "https://h/mod.ts" ≠ ⟨[.ofNat 0xD800]⟩ := by
  obtain ⟨u, hu, hscheme, hpath⟩ := exists_modulePath
  have hholds :
      Holds (World.caching (.obj unpaired)) (metadataPath modulePath) (.obj unpaired) := by
    refine holds_caching (by decide +kernel) ?_ (by decide +kernel)
    exact List.forall_mem_singleton.mpr ⟨ImportMap.isJoined_ofString "url", .str (by decide)⟩
  -- a string has characters only, so that none is told here
  have hnone (s : String) : Text.ofString s ≠ ⟨[.ofNat 0xD800]⟩ := by
    intro h
    have hcharacters := Text.toChars?_ofChars s.toList
    rw [← Text.ofString, h] at hcharacters
    cases hcharacters
  have huntold (v : Json) (s : String) (hs : Option Section)
      (hv : Holds (World.caching (.obj unpaired)) (metadataPath modulePath) v) :
      ¬Tells "https://h/mod.ts" v s hs := by
    rw [hv.unique hholds]
    intro h
    have haddress : TellsAddress "https://h/mod.ts" (some (.str ⟨[.ofNat 0xD800]⟩)) s := h.address
    generalize ht : (⟨[.ofNat 0xD800]⟩ : Text) = t at haddress
    cases haddress
    exact hnone s ht.symm
  have hm := outcome_readAt_of_not_tells (by decide) (read_module _) hholds.isShallow huntold
  have hsetting : (none : Option CacheSetting).getD .use ≠ .reload := by decide
  have hreport := @report_load_of_readAt _ _ _ _ (cacheAt "/cache") none _ _ _ hu hscheme rfl
    hsetting rfl hpath hm
  exact ⟨hholds, outcome_of_report hreport, hnone _⟩

end Fetch

end EmitBridge
