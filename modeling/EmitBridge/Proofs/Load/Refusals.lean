import EmitBridge.Proofs.Load.Decision
import EmitBridge.Proofs.Load.Files

/-! The errors that a load fails with. It is answered or refused under its specifier, unless an
address, a path or a redirection on the way is one that nothing looks at before it is used. -/

namespace EmitBridge

open HostNames.AsciiOnly

open Run

variable {w : World}

namespace Fetch

open Cache (HasPath)

variable {config : FetchConfig} {r : LoadRequest Value} {u : Url} {specifier : String}

/-- The ways in which a load fails with an error of another kind: its specifier is not read as an
address; the file or the cached module has no path, or one with a null character; what is told about
the cached module is nested too deep; the exchange fails other than in its transport. -/
inductive Escapes [HostNames] (w : World) (config : FetchConfig) (r : LoadRequest Value) : Prop
  | unread {e : UrlError} : Url.verbatim r.specifier = .error e → Escapes w config r
  | file {u : Url} : Url.verbatim r.specifier = .ok u → u.scheme = "file" →
      ¬HasPath ((Location.toPath u).map FilePath.onHost) → Escapes w config r
  | cache {u : Url} {root : CacheRoot} : Url.verbatim r.specifier = .ok u →
      u.scheme ∈ remoteSchemes → Consults config r → config.cacheRoot = some root →
      ¬HasPath (Cache.entry root u) → Escapes w config r
  | metadata {u : Url} {root : CacheRoot} {path : PosixPath} {content : Bytes} :
      Url.verbatim r.specifier = .ok u → u.scheme ∈ remoteSchemes → Consults config r →
      config.cacheRoot = some root → Cache.entry root u = .ok path →
      w.read path.toString = .ok content → ¬Cache.IsShallow w path → Escapes w config r
  | network {u : Url} : Url.verbatim r.specifier = .ok u → u.scheme ∈ remoteSchemes →
      AsksNetwork w config u r → Http.Strays w r.specifier → Escapes w config r

end Fetch

end EmitBridge
