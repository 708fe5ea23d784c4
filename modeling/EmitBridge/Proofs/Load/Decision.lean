import EmitBridge.Proofs.Check.Field
import EmitBridge.Proofs.Http.Exchange
import EmitBridge.Proofs.Load.Offline
import EmitBridge.Proofs.Location.Route
import EmitBridge.Proofs.World.Access

/-! Where the default loader takes a remote module from. The cache comes first where the setting
lets it be read, then the network where the setting lets it be asked. -/

namespace EmitBridge

open HostNames.AsciiOnly

open Run Event

variable {w : World}

namespace Cache

variable {root : CacheRoot} {path : PosixPath} {specifier : String} {u : Url} {content : Bytes}

theorem content_of_moduleOf {told : Option (Entries Value)} {m : ModuleResponse}
    (h : moduleOf specifier content told = .passed m) : m.content = .bytes content := by
  unfold moduleOf Check.readModuleResponse at h
  obtain ⟨g, c, hhead, hcontent, rfl⟩ := Checked.seq_eq_passed h
  obtain ⟨g, headers, htold, -, rfl⟩ := Checked.seq_eq_passed hhead
  obtain ⟨g, address, hkind, -, rfl⟩ := Checked.seq_eq_passed htold
  obtain ⟨kind, -, rfl⟩ := Checked.map_eq_passed hkind
  cases hcontent
  rfl

theorem outcome_cachedModule (path : PosixPath) (specifier : String) (content : Bytes)
    (told : Option (Entries Value)) :
    ∃ m, (cachedModule path specifier content told).outcome = .ok m ∧
      m.content = .bytes content := by
  unfold cachedModule
  split
  · next m hm => exact ⟨m, rfl, content_of_moduleOf hm⟩
  · exact ⟨_, rfl, rfl⟩

def toldAt (w : World) (path : PosixPath) : Except Fault (Option (Entries Value)) :=
  metadata w.nesting.metadata (w.readText (metadataPath path).toString)

def IsShallow (w : World) (path : PosixPath) : Prop :=
  ∀ cs e, w.readText (metadataPath path).toString = .ok cs →
    Json.parse w.nesting.metadata cs = .error e → e.isTooDeep = false

theorem isShallow_iff : IsShallow w path ↔ ∃ told, toldAt w path = .ok told := by
  unfold IsShallow toldAt
  cases w.readText (metadataPath path).toString with
  | error f => exact iff_of_true nofun ⟨_, rfl⟩
  | ok cs =>
    simp only [Except.ok.injEq, ← and_imp, metadata]
    rw [forall_comm]
    simp only [and_imp, forall_eq']
    cases Json.parse w.nesting.metadata cs with
    | ok v => cases v <;> exact iff_of_true (fun _ he => by cases he) ⟨_, rfl⟩
    | error e => cases hdeep : e.isTooDeep <;> simp [hdeep]

def readAt (w : World) (path : PosixPath) (specifier : String) : Run (Option ModuleResponse) := do
  match ← Run.readFile w path with
  | .error (.system _) => return none
  | .error f => Run.fail (.fault f)
  | .ok content =>
    let text ← Run.readTextFile w (metadataPath path)
    let told ← Run.ofExcept ((metadata w.nesting.metadata text).mapError .fault)
    some <$> cachedModule path specifier content told

theorem read_of_entry (h : entry root u = .ok path) :
    read w root specifier u = readAt w path specifier := by
  rw [read, h]
  rfl

theorem outcome_readAt (h : w.read path.toString = .ok content) :
    (readAt w path specifier).outcome = (toldAt w path).mapError .fault >>= fun told =>
      some <$> (cachedModule path specifier content told).outcome := by
  have hfile : (Run.readFile w path).outcome = .ok (.ok content) := congrArg Except.ok h
  have htext : (Run.readTextFile w (metadataPath path)).outcome =
      .ok (w.readText (metadataPath path).toString) := rfl
  rw [readAt, outcome_bind, hfile]
  show (Run.readTextFile w (metadataPath path) >>= fun text =>
    Run.ofExcept ((metadata w.nesting.metadata text).mapError .fault) >>= fun told =>
      some <$> cachedModule path specifier content told).outcome = _
  rw [outcome_bind, htext]
  show (Run.ofExcept ((toldAt w path).mapError .fault) >>= _).outcome = _
  rw [outcome_bind, outcome_ofExcept]
  simp only [outcome_map]

theorem outcome_readAt_of_toldAt {told : Option (Entries Value)}
    (h : w.read path.toString = .ok content) (htold : toldAt w path = .ok told) :
    (readAt w path specifier).outcome =
      some <$> (cachedModule path specifier content told).outcome := by
  rw [outcome_readAt h, htold]
  rfl

theorem outcome_readAt_of_told {told : Option (Entries Value)}
    (h : w.read path.toString = .ok content) (htold : toldAt w path = .ok told) :
    ∃ m, (readAt w path specifier).outcome = .ok (some m) ∧ m.content = .bytes content := by
  obtain ⟨m, hm, hcontent⟩ := outcome_cachedModule path specifier content told
  refine ⟨m, ?_, hcontent⟩
  rw [outcome_readAt_of_toldAt h htold, hm]
  rfl

def HasPath {ε : Type} (x : Except ε PosixPath) : Prop :=
  ∃ path, x = .ok path ∧ World.hasNull path.toString = false

end Cache

namespace Fetch

variable {config : FetchConfig} {r : LoadRequest Value} {u : Url} {specifier : String}

def settingFor (config : FetchConfig) (r : LoadRequest Value) : CacheSetting :=
  r.cacheSetting.getD config.cacheSetting

def Hits (w : World) (config : FetchConfig) (u : Url) (r : LoadRequest Value) (content : Bytes) :
    Prop :=
  settingFor config r ≠ .reload ∧ ∃ root path, config.cacheRoot = some root ∧
    Cache.entry root u = .ok path ∧ w.read path.toString = .ok content

def Misses (w : World) (config : FetchConfig) (u : Url) (r : LoadRequest Value) : Prop :=
  ∀ content, ¬Hits w config u r content

def IsRefused {α : Type} (specifier : String) (x : Except Failure α) : Prop :=
  ∃ e, x = .error (.emit e) ∧ e.kind = .load ∧ e.specifier? = some (.string specifier)

theorem not_isRefused_fault {α : Type} (specifier : String) (f : Fault) :
    ¬IsRefused specifier (.error (.fault f) : Except Failure α) := by
  rintro ⟨e, he, -⟩
  cases he

/-- What is answered for the end of an exchange. -/
structure Answers (specifier : String) (exchange : Except Failure Http.Reply)
    (answer : Except Failure Value) : Prop where
  failed : ∀ e, exchange = .error e → IsRefused specifier answer
  missing : ∀ reply, exchange = .ok reply → reply.status = 404 → answer = .ok .null
  rejected : ∀ reply, exchange = .ok reply → reply.status ≠ 404 → 400 ≤ reply.status →
    IsRefused specifier answer
  found : ∀ reply, exchange = .ok reply → reply.status < 400 →
    answer = .ok (.response (.module ⟨reply.target.toString,
      some (Check.lowerNames reply.headers), .bytes reply.content⟩))

theorem Answers.not_fault {exchange : Except Failure Http.Reply} {f : Fault} :
    ¬Answers specifier exchange (.error (.fault f)) := by
  intro h
  cases exchange with
  | error e => exact not_isRefused_fault _ _ (h.failed e rfl)
  | ok reply =>
    by_cases hfound : reply.status < 400
    · cases h.found reply rfl hfound
    by_cases hmissing : reply.status = 404
    · cases h.missing reply rfl hmissing
    exact not_isRefused_fault _ _ (h.rejected reply rfl hmissing (Nat.not_lt.mp hfound))

section network

theorem trace_network [HostNames] (w : World) (specifier : String) :
    (network w specifier).trace = (Http.get w specifier).trace := by
  rw [network, trace_bind_of_quiet, trace_mapFailure]
  intro reply
  split
  · rfl
  · split
    · rfl
    · rfl

def shaped (specifier : String) (reply : Http.Reply) : Except Failure (Option LoadResponse) :=
  if reply.status == Http.notFound then .ok none
  else if Http.failureStatus ≤ reply.status then
    .error (loadFailure specifier
      ("Fetching " ++ specifier ++ " returned HTTP " ++ toString reply.status) none)
  else
    .ok (some (.module ⟨reply.target.toString, some (Check.lowerNames reply.headers),
      .bytes reply.content⟩))

theorem outcome_network [HostNames] (w : World) (specifier : String) :
    (network w specifier).outcome =
      (Http.get w specifier).outcome.mapError (ofTransport specifier) >>= shaped specifier := by
  rw [network, outcome_bind, outcome_mapFailure]
  refine congrArg (_ >>= ·) (funext fun reply => ?_)
  unfold shaped
  split
  · rfl
  · split
    · rfl
    · rfl

end network

section cached

variable {setting : CacheSetting}

def proceed [HostNames] (w : World) (setting : CacheSetting) (specifier : String) :
    Option ModuleResponse → Run (Option LoadResponse)
  | some m => do
    Run.log .debug "cache_hit" [logField "specifier" (.string specifier)]
    return some (.module m)
  | none => if setting == .only then return none else network w specifier

theorem remote_of_online [HostNames] (h : config.allowRemote = true) (setting : CacheSetting)
    (specifier : String) (u : Url) : remote w config setting specifier u =
      (cached w config setting specifier u >>= proceed w setting specifier) := by
  rw [remote, h]
  rfl

theorem requested_notMem_cached (w : World) (config : FetchConfig) (setting : CacheSetting)
    (specifier : String) (u : Url) (url : String) :
    .requested url ∉ (cached w config setting specifier u).trace := by
  intro h
  have hloading : ∀ e : Event, e.IsLoading → e ≠ .requested url := by
    rintro _ hloading rfl
    exact hloading
  have honly : (cached w config setting specifier u).Only (· ≠ .requested url) :=
    only_cached hloading config setting specifier u
  exact (honly.of_mem_trace h).2 rfl

theorem cached_of_reload (w : World) (config : FetchConfig) (specifier : String) (u : Url) :
    cached w config .reload specifier u = Run.done none := rfl

theorem cached_of_root (hsetting : setting ≠ .reload) {root : CacheRoot}
    (hroot : config.cacheRoot = some root) :
    cached w config setting specifier u = Cache.read w root specifier u := by
  unfold cached
  rw [hroot]
  cases setting with
  | reload => exact absurd rfl hsetting
  | _ => rfl

theorem cached_of_entry (hsetting : setting ≠ .reload) {root : CacheRoot} {path : PosixPath}
    (hroot : config.cacheRoot = some root) (hpath : Cache.entry root u = .ok path) :
    cached w config setting specifier u = Cache.readAt w path specifier := by
  rw [cached_of_root hsetting hroot, Cache.read_of_entry hpath]

theorem cached_of_noRoot (hroot : config.cacheRoot = none) :
    cached w config setting specifier u = Run.done none := by
  unfold cached
  rw [hroot]
  cases setting <;> rfl

end cached

def Consults (config : FetchConfig) (r : LoadRequest Value) : Prop :=
  config.allowRemote = true ∧ settingFor config r ≠ .reload

def AsksNetwork (w : World) (config : FetchConfig) (u : Url) (r : LoadRequest Value) : Prop :=
  config.allowRemote = true ∧ Misses w config u r ∧ settingFor config r ≠ .only

section remote

theorem report_remote_of_misses [HostNames] (hallow : config.allowRemote = true)
    {setting : CacheSetting} (h : (cached w config setting specifier u).outcome = .ok none) :
    (setting = .only → (remote w config setting specifier u).report =
      (.ok none, (cached w config setting specifier u).trace)) ∧
    (setting ≠ .only → (remote w config setting specifier u).report =
      ((network w specifier).outcome,
        (cached w config setting specifier u).trace ++ (Http.get w specifier).trace)) := by
  rw [remote_of_online hallow, report_bind_of_ok (Prod.ext h rfl)]
  constructor
  · rintro rfl
    exact Prod.ext rfl (List.append_nil _)
  · intro honly
    have hproceed : proceed w setting specifier none = network w specifier :=
      if_neg (by rwa [beq_iff_eq])
    rw [hproceed, trace_network]
    rfl

end remote

section ask

variable [HostNames] (hu : Url.verbatim r.specifier = .ok u) (hscheme : u.scheme ∈ remoteSchemes)

include hu hscheme

end ask

theorem exists_verbatim_moduleRequest : ∃ u, Url.verbatim "https://h/mod.ts" = .ok u ∧
    u.scheme ∈ remoteSchemes ∧ u.portNumber = .ok (some 443) := by
  have hparts : (Url.verbatim "https://h/mod.ts").toOption.map
      (fun u => (u.scheme, u.portNumber.toOption)) = some ("https", some (some 443)) := by
    decide +kernel
  obtain ⟨u, hu, hparts⟩ := Option.map_eq_some_iff.mp hparts
  obtain ⟨hscheme, hport⟩ := Prod.mk.inj hparts
  exact ⟨u, Location.ok_of_toOption hu, hscheme ▸ (by decide : "https" ∈ remoteSchemes),
    Location.ok_of_toOption hport⟩

def cacheAt (directory : String) : FetchConfig :=
  ⟨some (.path (.ofString directory)), .use, true, 30⟩

def World.served : World :=
  { World.bare with routes := [("https://h/mod.ts", .response 200 [] [0x78])] }

end Fetch

end EmitBridge
