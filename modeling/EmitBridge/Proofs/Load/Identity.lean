import EmitBridge.Proofs.Http.Normal
import EmitBridge.Proofs.Load.Metadata
import EmitBridge.Proofs.Load.Refusals

/-! The specifier that a remote module is reported under. A cached module keeps the one it was asked
for, unless its metadata tells another; a fetched one is reported under the address as the request
had it, which is the specifier just if that is in normal form. -/

namespace EmitBridge

open HostNames.AsciiOnly

open Run

variable {w : World}

namespace Cache

variable {path : PosixPath} {specifier : String} {m : ModuleResponse}

theorem exists_content (h : (readAt w path specifier).outcome = .ok (some m)) :
    (∃ content, w.read path.toString = .ok content) ∧ IsShallow w path := by
  cases hread : w.read path.toString with
  | ok content =>
    rw [outcome_readAt hread] at h
    obtain ⟨told, htold, -⟩ := exists_of_bind_eq_ok h
    exact ⟨⟨content, rfl⟩, isShallow_iff.mpr ⟨told, mapError_eq_ok_iff.mp htold⟩⟩
  | error f =>
    have hfile : (Run.readFile w path).outcome = .ok (.error f) := congrArg Except.ok hread
    rw [readAt, outcome_bind, hfile] at h
    cases f with
    | _ => cases h

theorem specifier_of_readAt (hne : specifier ≠ "")
    (h : (readAt w path specifier).outcome = .ok (some m))
    (hsilent : ∀ v, Holds w (metadataPath path) v → v.get? (Text.ofString "url") = none) :
    m.specifier = specifier := by
  obtain ⟨⟨content, hread⟩, hshallow⟩ := exists_content h
  by_cases htold : ∃ v s hs, Holds w (metadataPath path) v ∧ Tells specifier v s hs
  · obtain ⟨v, s, hs, hv, htells⟩ := htold
    rw [outcome_readAt_of_tells hne hread hv htells] at h
    cases h
    have haddress := htells.address
    rw [hsilent v hv] at haddress
    cases haddress
    rfl
  · rw [outcome_readAt_of_not_tells hne hread hshallow fun v s hs hv htells =>
      htold ⟨v, s, hs, hv, htells⟩] at h
    cases h
    rfl

end Cache

namespace Fetch

open Event

variable {config : FetchConfig} {specifier : String} {setting : Option CacheSetting} {u : Url}
  {m : ModuleResponse}

theorem exists_readAt {setting : CacheSetting}
    (h : (cached w config setting specifier u).outcome = .ok (some m)) :
    ∃ root path, config.cacheRoot = some root ∧ Cache.entry root u = .ok path ∧
      (Cache.readAt w path specifier).outcome = .ok (some m) := by
  by_cases hsetting : setting = .reload
  · rw [hsetting, cached_of_reload] at h
    cases h
  cases hroot : config.cacheRoot with
  | none =>
    rw [cached_of_noRoot hroot] at h
    cases h
  | some root =>
    cases hpath : Cache.entry root u with
    | error e =>
      rw [cached_of_root hsetting hroot, Cache.read, hpath] at h
      cases h
    | ok path =>
      rw [cached_of_entry hsetting hroot hpath] at h
      exact ⟨root, path, rfl, hpath, h⟩

inductive Source [HostNames] (w : World) (config : FetchConfig) (specifier : String)
    (setting : Option CacheSetting) (u : Url) (m : ModuleResponse) : Prop
  | cache {root : CacheRoot} {path : PosixPath} (hroot : config.cacheRoot = some root)
      (hpath : Cache.entry root u = .ok path)
      (hread : (Cache.readAt w path specifier).outcome = .ok (some m))
      (hquiet : visited (load w config specifier setting).trace = [])
  | network {reply : Http.Reply} (hreply : (Http.get w specifier).outcome = .ok reply)
      (hspecifier : m.specifier = reply.target.toString)
      (hvisited : visited (load w config specifier setting).trace =
        visited (Http.get w specifier).trace)

theorem exists_reply [HostNames] (h : (network w specifier).outcome = .ok (some (.module m))) :
    ∃ reply, (Http.get w specifier).outcome = .ok reply ∧
      m.specifier = reply.target.toString := by
  rw [outcome_network] at h
  obtain ⟨reply, hreply, h⟩ := Run.exists_of_bind_eq_ok h
  refine ⟨reply, mapError_eq_ok_iff.mp hreply, ?_⟩
  unfold shaped at h
  split at h
  · cases h
  · split at h
    · cases h
    · cases h
      rfl

theorem source_of_load [HostNames] (hu : Url.verbatim specifier = .ok u)
    (hscheme : u.scheme ∈ remoteSchemes)
    (h : (load w config specifier setting).outcome = .ok (some (.module m))) :
    Source w config specifier setting u m := by
  have hload := load_eq_remote w config hu hscheme setting
  have hquiet :
      visited (cached w config (setting.getD config.cacheSetting) specifier u).trace = [] :=
    visited_eq_nil_iff.mpr (requested_notMem_cached w config _ specifier u)
  rw [hload] at h
  -- offline there is no module; online it is cached, or else the network is asked unless only the
  -- cache counts
  cases hallow : config.allowRemote with
  | false =>
    rw [remote_of_offline hallow] at h
    cases h
  | true =>
    cases hcached : (cached w config (setting.getD config.cacheSetting) specifier u).outcome with
    | error e =>
      rw [remote_of_online hallow, outcome_bind, hcached] at h
      cases h
    | ok found =>
      cases found with
      | some found =>
        obtain ⟨root, path, hroot, hpath, hread⟩ := exists_readAt hcached
        rw [remote_of_online hallow, outcome_bind, hcached] at h
        cases h
        refine .cache hroot hpath hread ?_
        rw [hload, remote_of_online hallow, trace_bind_of_ok hcached, visited_append, hquiet]
        rfl
      | none =>
        obtain ⟨hstop, hgo⟩ := report_remote_of_misses hallow hcached
        by_cases honly : setting.getD config.cacheSetting = .only
        · rw [outcome_of_report (hstop honly)] at h
          cases h
        · rw [outcome_of_report (hgo honly)] at h
          obtain ⟨reply, hreply, hspecifier⟩ := exists_reply h
          refine .network hreply hspecifier ?_
          rw [hload, trace_of_report (hgo honly), visited_append, hquiet]
          rfl

structure Fetches [HostNames] (w : World) (config : FetchConfig) (specifier : String)
    (setting : Option CacheSetting) (m : ModuleResponse) : Prop where
  outcome : (load w config specifier setting).outcome = .ok (some (.module m))
  once : (visited (load w config specifier setting).trace).length = 1

structure Finds [HostNames] (w : World) (config : FetchConfig) (specifier : String)
    (setting : Option CacheSetting) (m : ModuleResponse) : Prop where
  outcome : (load w config specifier setting).outcome = .ok (some (.module m))
  unrequested : visited (load w config specifier setting).trace = []
  silent : ∀ u root path v, Url.verbatim specifier = .ok u → config.cacheRoot = some root →
    Cache.entry root u = .ok path → Cache.Holds w (Cache.metadataPath path) v →
    v.get? (Text.ofString "url") = none

/-- Whatever the world and the loader are like, a module that is not sent on is reported under the
specifier that it was asked for under, fetched or cached. -/
structure KeepsSpecifier [HostNames] (specifier : String) : Prop where
  fetched : ∀ w config setting m, Fetches w config specifier setting m → m.specifier = specifier
  found : ∀ w config setting m, Finds w config specifier setting m → m.specifier = specifier
  agree : ∀ w config setting m w' config' setting' m', Fetches w config specifier setting m →
    Finds w' config' specifier setting' m' → m.specifier = m'.specifier

theorem specifier_of_finds [HostNames] (hu : Url.verbatim specifier = .ok u)
    (hscheme : u.scheme ∈ remoteSchemes) (h : Finds w config specifier setting m) :
    m.specifier = specifier := by
  cases source_of_load hu hscheme h.outcome with
  | cache hroot hpath hread =>
    exact Cache.specifier_of_readAt (ne_empty_of_remote hu hscheme) hread fun v hv =>
      h.silent u _ _ v hu hroot hpath hv
  | network hreply _ hvisited =>
    -- an answered exchange has made a request
    obtain ⟨t, hparse, habsolute⟩ := Http.exists_of_get hreply
    have hget := Http.get_of_absolute (w := w) hparse habsolute
    rw [h.unrequested, hget] at hvisited
    rw [hget] at hreply
    exact absurd hvisited.symm (Http.visited_follow_ne_nil hreply)

theorem specifier_of_fetches [HostNames] (hu : Url.verbatim specifier = .ok u)
    (hscheme : u.scheme ∈ remoteSchemes) (h : Fetches w config specifier setting m) :
    ∃ t, Target.parse specifier.toList = .ok t ∧ t.isAbsolute ∧ m.specifier = t.toString := by
  cases source_of_load hu hscheme h.outcome with
  | cache _ _ _ hquiet =>
    have honce := h.once
    rw [hquiet] at honce
    cases honce
  | network hreply hspecifier hvisited =>
    obtain ⟨t, hparse, habsolute⟩ := Http.exists_of_get hreply
    have hget := Http.get_of_absolute (w := w) hparse habsolute
    have honce := h.once
    rw [hvisited, hget] at honce
    rw [hget] at hreply
    exact ⟨t, hparse, habsolute, hspecifier.trans
      (congrArg Target.toString (Http.target_of_follow hreply honce).1)⟩

def World.answering (address : String) : World :=
  { World.bare with routes := [(address, .response 200 [] [0x78])] }

def uncached : FetchConfig := ⟨none, .use, true, 30⟩

theorem exists_fetches [HostNames] {t : Target} (hu : Url.verbatim specifier = .ok u)
    (hscheme : u.scheme ∈ remoteSchemes) (hparse : Target.parse specifier.toList = .ok t)
    (habsolute : t.isAbsolute) :
    ∃ m, Fetches (World.answering t.toString) uncached specifier none m ∧
      m.specifier = t.toString := by
  let reply : Http.Reply := ⟨t, 200, Http.replyHeaders [] [0x78], [0x78]⟩
  have hrequest : (Http.request (World.answering t.toString) t).outcome = .ok reply := by
    have hroute : Http.routeAt (World.answering t.toString) t = .response 200 [] [0x78] := by
      simp [Http.routeAt, World.answering]
    rw [Http.outcome_request, hroute]
    exact if_pos habsolute
  have hget := Http.get_of_absolute (w := World.answering t.toString) hparse habsolute
  have hreply : (Http.get (World.answering t.toString) specifier).outcome = .ok reply := by
    rw [hget, Http.follow_of_end hrequest rfl]
    rfl
  have htrace : (Http.get (World.answering t.toString) specifier).trace =
      [.requested t.toString] := by
    rw [hget, Http.trace_follow hrequest]
    rfl
  have hcached : (cached (World.answering t.toString) uncached .use specifier u).outcome =
      .ok none := congrArg Run.outcome (cached_of_noRoot rfl)
  have hload : load (World.answering t.toString) uncached specifier none =
      remote (World.answering t.toString) uncached .use specifier u :=
    load_eq_remote _ uncached hu hscheme none
  have hreport := (report_remote_of_misses rfl hcached).2 nofun
  have hquiet := requested_notMem_cached (World.answering t.toString) uncached .use specifier u
  refine ⟨⟨t.toString, some (Check.lowerNames reply.headers), .bytes [0x78]⟩, ⟨?_, ?_⟩, rfl⟩
  · rw [hload, outcome_of_report hreport, outcome_network, hreply]
    rfl
  · rw [hload, trace_of_report hreport, visited_append, visited_eq_nil_iff.mpr hquiet, htrace]
    rfl

/-- A remote module that is not sent on keeps its specifier just if the specifier is the text of an
address in normal form, as far as it is one that can be requested. -/
theorem keepsSpecifier_iff [HostNames] (hu : Url.verbatim specifier = .ok u)
    (hscheme : u.scheme ∈ remoteSchemes) :
    KeepsSpecifier specifier ↔
      ∀ t, Target.parse specifier.toList = .ok t → t.isAbsolute →
        ∃ n : Target, n.IsNormal ∧ specifier = n.toString := by
  constructor
  · intro h t hparse habsolute
    obtain ⟨m, hfetches, hm⟩ := exists_fetches hu hscheme hparse habsolute
    exact (Target.toString_eq_iff hparse habsolute).mp (hm.symm.trans (h.fetched _ _ _ _ hfetches))
  · intro hnormal
    have hfetched (w : World) (config : FetchConfig) (setting : Option CacheSetting)
        (m : ModuleResponse) (h : Fetches w config specifier setting m) :
        m.specifier = specifier := by
      obtain ⟨t, hparse, habsolute, hm⟩ := specifier_of_fetches hu hscheme h
      exact hm.trans ((Target.toString_eq_iff hparse habsolute).mpr (hnormal t hparse habsolute))
    refine ⟨hfetched, fun _ _ _ _ => specifier_of_finds hu hscheme, ?_⟩
    intro w config setting m w' config' setting' m' hfetches hfinds
    exact (hfetched _ _ _ _ hfetches).trans (specifier_of_finds hu hscheme hfinds).symm

def moduleTarget : Target := ⟨"https".toList, [], ['h'], none, "/mod.ts".toList, none, none⟩

theorem isNormal_moduleTarget : moduleTarget.IsNormal where
  scheme := ⟨⟨'h', "ttps".toList, rfl, rfl⟩, forall_mem_of_all (by decide)⟩
  userinfo := nofun
  host := .name nofun (forall_mem_of_all (by decide))
  rooted := .inr ⟨"mod.ts".toList, rfl⟩
  path := forall_mem_of_all (by decide)
  query := nofun
  fragment := nofun
  lowerScheme := forall_mem_of_all (by decide)
  lowerHost := fun _ => forall_mem_of_all (by decide)
  portNumber := fun _ _ => nofun
  undotted := by unfold Url.IsUndotted Url.IsDots; decide

theorem parse_module : Target.parse "https://h/mod.ts".toList = .ok moduleTarget :=
  Location.ok_of_toOption (by decide +kernel)

theorem finds_module : Finds (World.caching (.obj [])) (cacheAt "/cache") "https://h/mod.ts" none
    ⟨"https://h/mod.ts", none, .bytes [0x78]⟩ := by
  obtain ⟨u, hu, hscheme, hpath⟩ := exists_modulePath
  have hholds : Cache.Holds (World.caching (.obj [])) (Cache.metadataPath modulePath) (.obj []) :=
    holds_caching List.nodup_nil nofun (by decide +kernel)
  have hsetting : (none : Option CacheSetting).getD .use ≠ .reload := by decide
  have hserved : Cache.IsServed (World.caching (.obj [])) modulePath "https://h/mod.ts" [0x78]
      (load (World.caching (.obj [])) (cacheAt "/cache") "https://h/mod.ts" none) :=
    isServed_load _ hu hscheme rfl hsetting rfl hpath (read_module _) hholds.isShallow
  refine ⟨hserved.told _ _ _ hholds ⟨⟨[], rfl⟩, .absent, .absent⟩,
    visited_eq_nil_iff.mpr hserved.unrequested, ?_⟩
  rintro u' root path v hu' ⟨⟩ hpath' hv
  cases hu.symm.trans hu'
  cases hpath.symm.trans hpath'
  rw [hv.unique hholds]
  rfl

theorem keepsSpecifier_module : (∃ u, Url.verbatim "https://h/mod.ts" = .ok u ∧
    u.scheme ∈ remoteSchemes) ∧ KeepsSpecifier "https://h/mod.ts" ∧
    (∃ m, Fetches (World.answering "https://h/mod.ts") uncached "https://h/mod.ts" none m) ∧
    ∃ m, Finds (World.caching (.obj [])) (cacheAt "/cache") "https://h/mod.ts" none m := by
  obtain ⟨u, hu, hscheme, -⟩ := exists_verbatim_moduleRequest
  obtain ⟨m, hfetches, -⟩ := exists_fetches hu hscheme parse_module rfl
  exact ⟨⟨u, hu, hscheme⟩, (keepsSpecifier_iff hu hscheme).mpr fun _ _ _ =>
    ⟨moduleTarget, isNormal_moduleTarget, rfl⟩, ⟨m, hfetches⟩, ⟨_, finds_module⟩⟩

theorem default_port_dropped : ∃ u m, Url.verbatim "https://h:443/mod.ts" = .ok u ∧
    u.scheme ∈ remoteSchemes ∧
    Fetches (World.answering "https://h/mod.ts") uncached "https://h:443/mod.ts" none m ∧
    m.specifier = "https://h/mod.ts" ∧ ¬KeepsSpecifier "https://h:443/mod.ts" := by
  have hread : (Url.verbatim "https://h:443/mod.ts").toOption.map Url.scheme = some "https" := by
    decide +kernel
  obtain ⟨u, hu, hscheme⟩ := Option.map_eq_some_iff.mp hread
  have hu : Url.verbatim "https://h:443/mod.ts" = .ok u := Location.ok_of_toOption hu
  have hscheme : u.scheme ∈ remoteSchemes := hscheme ▸ by decide
  have hparse : Target.parse "https://h:443/mod.ts".toList = .ok moduleTarget :=
    Location.ok_of_toOption (by decide +kernel)
  obtain ⟨m, hfetches, hm⟩ := exists_fetches hu hscheme hparse rfl
  exact ⟨u, m, hu, hscheme, hfetches, hm, fun h =>
    absurd (hm.symm.trans (h.fetched _ _ _ _ hfetches)) (by decide +kernel)⟩

end Fetch

end EmitBridge
