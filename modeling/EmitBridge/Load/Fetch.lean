import EmitBridge.Check.Response
import EmitBridge.Http.Exchange
import EmitBridge.Load.Cache
import EmitBridge.Location

/-! The default loader: files from the disk, remote modules from the cache or the network, and
specifiers of packages as external ones. -/

namespace EmitBridge.Fetch

def externalSchemes : List String := ["npm", "node", "bun"]

def remoteSchemes : List String := ["http", "https"]

def transportFailures : List String :=
  ["CloseError", "ConnectError", "ConnectTimeout", "DecodingError", "HTTPError", "HTTPStatusError",
    "LocalProtocolError", "NetworkError", "PoolTimeout", "ProtocolError", "ProxyError",
    "ReadError", "ReadTimeout", "RemoteProtocolError", "RequestError", "TimeoutException",
    "TooManyRedirects", "TransportError", "UnsupportedProtocol", "WriteError", "WriteTimeout"]

def absentNumbers : List Nat :=
  [SystemError.missing, SystemError.notADirectory, SystemError.isADirectory]

def loadFailure (specifier problem : String) (cause : Option String) : Failure :=
  .emit { LoadResponse.refusal specifier problem with cause := cause }

def file [HostNames] (w : World) (specifier : String) (u : Url) : Run (Option LoadResponse) := do
  let path := (← Run.ofExcept (Location.toPath u)).onHost
  match ← Run.readFile w path with
  | .ok content => return some (.module ⟨specifier, none, .bytes content⟩)
  | .error (.system e) =>
    if absentNumbers.contains e.number then return none
    else
      Run.fail (loadFailure specifier ("Unable to read " ++ specifier ++ ": " ++ e.message)
        (some (SystemError.name e.number)))
  | .error f => Run.fail (.fault f)

def ofTransport (specifier : String) (e : Failure) : Failure :=
  match e with
  | .fault (.transport kind message) =>
    if transportFailures.contains kind then
      loadFailure specifier ("Failed to fetch " ++ specifier ++ ": " ++ message) (some kind)
    else e
  | e => e

def network [HostNames] (w : World) (specifier : String) : Run (Option LoadResponse) := do
  let reply ← (Http.get w specifier).mapFailure (ofTransport specifier)
  if reply.status == Http.notFound then return none
  else if Http.failureStatus ≤ reply.status then
    Run.fail (loadFailure specifier
      ("Fetching " ++ specifier ++ " returned HTTP " ++ toString reply.status) none)
  else
    let address := reply.target.toString
    Run.log .debug "remote_fetched"
      [logField "specifier" (.string specifier), logField "final_url" (.string address),
        logField "status_code" (.int reply.status)]
    return some (.module ⟨address, some (Check.lowerNames reply.headers), .bytes reply.content⟩)

def cached (w : World) (config : FetchConfig) (setting : CacheSetting) (specifier : String)
    (u : Url) : Run (Option ModuleResponse) :=
  match setting, config.cacheRoot with
  | .reload, _ => Run.done none
  | _, none => Run.done none
  | _, some root => Cache.read w root specifier u

def remote [HostNames] (w : World) (config : FetchConfig) (setting : CacheSetting)
    (specifier : String) (u : Url) : Run (Option LoadResponse) :=
  if !config.allowRemote then
    Run.fail (loadFailure specifier
      ("A remote specifier was requested: " ++ specifier ++ ", but remote loading is disabled")
      none)
  else do
    match ← cached w config setting specifier u with
    | some m =>
      Run.log .debug "cache_hit" [logField "specifier" (.string specifier)]
      return some (.module m)
    | none => if setting == .only then return none else network w specifier

def load [HostNames] (w : World) (config : FetchConfig) (specifier : String)
    (setting : Option CacheSetting) :
    Run (Option LoadResponse) := do
  let u ← Run.ofExcept ((Url.verbatim specifier).mapError fun e => .fault (.url e))
  if u.scheme == "file" then file w specifier u
  else if externalSchemes.contains u.scheme then return some (.external specifier)
  else if remoteSchemes.contains u.scheme then
    remote w config (setting.getD config.cacheSetting) specifier u
  else return none

end EmitBridge.Fetch

namespace EmitBridge.FetchConfig

def create (cacheRoot : Option PosixPath) (cacheSetting : Option CacheSetting)
    (allowRemote : Option Bool) (s : Settings) : FetchConfig where
  cacheRoot := (cacheRoot.or s.cacheDir).map .path
  cacheSetting := cacheSetting.getD s.cacheSetting
  allowRemote := allowRemote.getD s.allowRemote
  timeout := s.httpTimeout

end EmitBridge.FetchConfig
