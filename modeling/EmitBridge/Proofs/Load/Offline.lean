import EmitBridge.Proofs.Load.Effects

/-! The default loader without the network. A remote specifier is refused before the cache or the
network is looked at, and whatever else is answered is not remote. -/

namespace EmitBridge

open Run Event

variable {w : World}

namespace Fetch

def IsRemote [HostNames] (specifier : String) : Prop :=
  ∃ u, Url.verbatim specifier = .ok u ∧ u.scheme ∈ remoteSchemes

def IsElsewhere [HostNames] (specifier : String) : Prop :=
  ∃ u, Url.verbatim specifier = .ok u ∧ u.scheme ∉ remoteSchemes

def denied (specifier : String) : Failure :=
  loadFailure specifier
    ("A remote specifier was requested: " ++ specifier ++ ", but remote loading is disabled") none

variable {config : FetchConfig} {specifier : String} {setting : Option CacheSetting}

theorem load_of_verbatim [HostNames] {u : Url} (h : Url.verbatim specifier = .ok u) :
    load w config specifier setting =
      if u.scheme == "file" then file w specifier u
      else if externalSchemes.contains u.scheme then return some (.external specifier)
      else if remoteSchemes.contains u.scheme then
        remote w config (setting.getD config.cacheSetting) specifier u
      else return none := by
  rw [load, h]
  exact ofExcept_ok_bind ..

theorem load_eq_remote [HostNames] (w : World) (config : FetchConfig) {u : Url}
    (hu : Url.verbatim specifier = .ok u) (hscheme : u.scheme ∈ remoteSchemes)
    (setting : Option CacheSetting) :
    load w config specifier setting =
      remote w config (setting.getD config.cacheSetting) specifier u := by
  -- a remote scheme is none of those that are looked at before it
  have hdistinct : ∀ s ∈ remoteSchemes,
      (s == "file") = false ∧ externalSchemes.contains s = false := by decide
  obtain ⟨hfile, hexternal⟩ := hdistinct _ hscheme
  rw [load_of_verbatim hu, hfile, hexternal, List.contains_iff_mem.mpr hscheme]
  rfl

theorem remote_of_offline [HostNames] (h : config.allowRemote = false) (setting : CacheSetting)
    (specifier : String) (u : Url) :
    remote w config setting specifier u = Run.fail (denied specifier) := by
  rw [remote, h]
  rfl

theorem outcome_load_of_remote [HostNames] (h : config.allowRemote = false)
    (hs : IsRemote specifier) :
    (load w config specifier setting).outcome = .error (denied specifier) := by
  obtain ⟨u, hu, hscheme⟩ := hs
  rw [load_eq_remote w config hu hscheme, remote_of_offline h]
  rfl

theorem isElsewhere_of_outcome_load [HostNames] (h : config.allowRemote = false) {m : LoadResponse}
    (hm : (load w config specifier setting).outcome = .ok (some m)) : IsElsewhere specifier := by
  cases hu : Url.verbatim specifier with
  | error e =>
    rw [load, hu] at hm
    cases hm
  | ok u =>
    refine ⟨u, hu, fun hscheme => ?_⟩
    rw [outcome_load_of_remote h ⟨u, hu, hscheme⟩] at hm
    cases hm

end Fetch

namespace Bridge

variable {config : FetchConfig} {r : BridgeRequest}

theorem outcome_load_of_remote [HostNames] (h : config.allowRemote = false)
    (hr : Fetch.IsRemote r.specifier) {s : Option CacheSetting}
    (hs : settingOf r.cacheSetting = .ok s) :
    (load w ⟨.fetch config⟩ r).outcome = .error (Fetch.denied r.specifier) := by
  have hask : (ask w ⟨.fetch config⟩ ⟨r.specifier, r.isDynamic, s⟩).outcome =
      .error (Fetch.denied r.specifier) := by
    show (Value.ofOption Value.response <$> Fetch.load w config r.specifier s).outcome = _
    rw [outcome_map, Fetch.outcome_load_of_remote h hr]
    rfl
  show (load w ⟨.fetch config⟩ r []).1 = _
  rw [load_of_accepted (accept_of_setting hs), bind_of_error hask]

theorem isElsewhere_of_outcome_load [HostNames] (h : config.allowRemote = false) {m : LoadResponse}
    (hm : (load w ⟨.fetch config⟩ r).outcome = .ok (some m)) :
    Fetch.IsElsewhere r.specifier := by
  change (load w ⟨.fetch config⟩ r []).1 = _ at hm
  cases hs : settingOf r.cacheSetting with
  | error f =>
    rw [load_of_refused (accept_of_refused hs)] at hm
    cases hm
  | ok s =>
    rw [load_of_accepted (accept_of_setting hs)] at hm
    have hask : (ask w ⟨.fetch config⟩ ⟨r.specifier, r.isDynamic, s⟩).outcome =
        Value.ofOption Value.response <$> (Fetch.load w config r.specifier s).outcome :=
      outcome_map ..
    cases ho : (Fetch.load w config r.specifier s).outcome with
    | error e =>
      rw [ho] at hask
      rw [bind_of_error hask] at hm
      cases hm
    | ok response =>
      rw [ho] at hask
      rw [bind_of_ok hask] at hm
      cases response with
      | none => cases hm
      | some n => exact Fetch.isElsewhere_of_outcome_load h ho

end Bridge

end EmitBridge
