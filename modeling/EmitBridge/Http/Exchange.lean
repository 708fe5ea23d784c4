import EmitBridge.Http.Relative
import EmitBridge.Run.Basic
import EmitBridge.Text.Decimal
import EmitBridge.World.Basic

/-! Requests that follow redirections to their end. -/

namespace EmitBridge.Http

structure Reply where
  target : Target
  status : Nat
  headers : Section
  content : Bytes

def redirectLimit : Nat := 20

def notFound : Nat := 404

def failureStatus : Nat := 400

def redirectStatuses : List Nat := [301, 302, 303, 307, 308]

def joinHeader (name value : Text) (headers : Section) : Section :=
  Entries.put name
    (match headers.get? name with
      | some before => before ++ Text.ofString ", " ++ value
      | none => value)
    headers

/-- Header names are in lower case, and a repeated header has all its values. The length of the
content is among the headers. -/
def replyHeaders (headers : List (String × String)) (content : Bytes) : Section :=
  let given := headers.foldl
    (fun done h => joinHeader (Text.ofString h.1).lower (Text.ofString h.2) done) []
  let name := Text.ofString "content-length"
  if content.isEmpty || given.contains name then given
  else Entries.put name (Text.ofString (toString content.length)) given

def Reply.location? (r : Reply) : Option Text :=
  if redirectStatuses.contains r.status then r.headers.get? (Text.ofString "location") else none

def targetFailure (e : TargetError) : Failure := .fault (.target e)

def routeAt (w : World) (t : Target) : Route :=
  (w.routes.lookup t.toString).getD (.response notFound [] [])

def encodings (headers : Section) : List String :=
  match headers.get? (Text.ofString "content-encoding") with
  | none => []
  | some names => (Cut.all ',' names.toString.toList).map fun name =>
      (Text.ofChars (Text.trimChars name)).lower.toString

def decoded (w : World) (headers : Section) (content : Bytes) : Except Fault Bytes :=
  let decoders := (encodings headers).reverse.filterMap fun name => w.decoders.lookup name
  decoders.foldlM (fun content decode => (decode content).mapError (.transport "DecodingError"))
    content

def Reply.decoded (w : World) (r : Reply) : Except Failure Reply :=
  ((Http.decoded w r.headers r.content).mapError .fault).map fun content =>
    { r with content := content }

/-- The reply to a request. An address that it cannot be filed under fails only then. -/
def replied (t : Target) : Route → Except Failure Reply
  | .failure name message => .error (.fault (.transport name message))
  | .response status headers content =>
    if t.isAbsolute then .ok ⟨t, status, replyHeaders headers content, content⟩
    else .error (.fault (.noScheme (Quoted.string t.toString)))

def request (w : World) (t : Target) : Run Reply := do
  Run.record (.requested t.toString)
  Run.ofExcept (replied t (routeAt w t))

def shownHost [HostNames] (t : Target) : Except Failure (List Char) :=
  t.shownHost.mapError fun e => .fault (.hostName e)

def hosted [HostNames] (t next : Target) : Except Failure Target :=
  if next.scheme.isEmpty then .ok next
  else do
    if (← shownHost next).isEmpty then (next.withHost (← shownHost t)).mapError targetFailure
    else .ok next

def joined [HostNames] (t next : Target) : Except Failure Target :=
  if next.isAbsolute then .ok next
  else (Target.parse (Target.join t.toChars next.toChars)).mapError targetFailure

def withFragmentOf [HostNames] (t next : Target) : Except Failure Target :=
  let fragment := Utf8.decodeLossy (Percent.bytes (t.fragment.getD []))
  if !fragment.isEmpty && (next.fragment.getD []).isEmpty then
    (next.withFragment fragment).mapError targetFailure
  else .ok next

def compared [HostNames] (t next : Target) : Except Failure Target := do
  let sameScheme := next.scheme == t.scheme
  let _ ← shownHost (if sameScheme then next else t)
  let _ ← shownHost (if sameScheme then t else next)
  return next

def redirected [HostNames] (t : Target) (location : Text) : Except Failure Target := do
  let next ← (Target.parse location.toString.toList).mapError fun e =>
    .fault (.transport "RemoteProtocolError"
      ("Invalid URL in location header: " ++ e.message ++ "."))
  let next ← hosted t next
  let next ← joined t next
  let next ← withFragmentOf t next
  compared t next

/-- The reply at the end of at most so many requests. The content of one that redirects is decoded
too, after its location. -/
def follow [HostNames] (w : World) : Nat → Target → Run Reply
  | 0, _ =>
    Run.fail (.fault (.transport "TooManyRedirects" "Exceeded maximum allowed redirects."))
  | n + 1, t => do
    let reply ← request w t
    match reply.location? with
    | none => Run.ofExcept (reply.decoded w)
    | some location => do
      let next ← Run.ofExcept (redirected t location)
      let _ ← Run.ofExcept (reply.decoded w)
      follow w n next

def get [HostNames] (w : World) (address : String) : Run Reply := do
  let t ← Run.ofExcept ((Target.parse address.toList).mapError targetFailure)
  let t ← Run.ofExcept (t.rooted.mapError targetFailure)
  follow w (redirectLimit + 1) t

end EmitBridge.Http
