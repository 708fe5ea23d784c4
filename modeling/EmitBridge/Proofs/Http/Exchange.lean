import EmitBridge.Load.Fetch
import EmitBridge.Proofs.Run.Trace

/-! Exchanges: a request, and those that redirections lead on to. What the network answers does not
depend on files. An exchange fails as its transport does, unless it strays: its address, or one that
it is sent on to, is none that can be asked. -/

namespace EmitBridge

open Run

variable {w : World}

namespace Event

def visited? : Event → Option String
  | requested address => some address
  | _ => none

def visited (es : List Event) : List String := es.filterMap visited?

theorem visited_append (es fs : List Event) : visited (es ++ fs) = visited es ++ visited fs :=
  List.filterMap_append

theorem visited_eq_nil_iff {es : List Event} :
    visited es = [] ↔ ∀ address, .requested address ∉ es := by
  rw [visited, List.filterMap_eq_nil_iff]
  constructor
  · intro h address hm
    cases h _ hm
  · intro h e he
    cases e with
    | requested address => exact absurd he (h address)
    | _ => rfl

end Event

namespace Http

open Event

variable {n : Nat} {t start : Target} {reply : Reply} {location : Text} {address : String}

def IsTransport (e : Failure) : Prop :=
  ∃ kind message, e = .fault (.transport kind message) ∧ kind ∈ Fetch.transportFailures

section request

theorem outcome_request (w : World) (t : Target) :
    (request w t).outcome = replied t (routeAt w t) := by
  rw [request, outcome_bind, outcome_record]
  exact outcome_ofExcept _

theorem trace_request (w : World) (t : Target) : (request w t).trace = [.requested t.toString] := by
  rw [request, trace_bind_of_ok (outcome_record _), trace_record rfl, trace_ofExcept]
  rfl

theorem target_of_decoded {r : Reply} (h : reply.decoded w = .ok r) :
    r.target = reply.target := by
  obtain ⟨content, -, rfl⟩ := exists_of_map_eq_ok h
  rfl

theorem target_of_request (h : (request w t).outcome = .ok reply) :
    reply.target = t ∧ t.isAbsolute := by
  rw [outcome_request] at h
  cases hroute : routeAt w t with
  | failure kind message =>
    rw [hroute] at h
    cases h
  | response status headers content =>
    rw [hroute, replied] at h
    split at h
    · next habsolute =>
      cases h
      exact ⟨rfl, habsolute⟩
    · cases h

end request

section follow

theorem follow_of_error [HostNames] {e : Failure} (h : (request w t).outcome = .error e) :
    (follow w (n + 1) t).outcome = .error e := by
  rw [follow, outcome_bind, h]
  rfl

theorem follow_of_end [HostNames] (h : (request w t).outcome = .ok reply)
    (hend : reply.location? = none) :
    (follow w (n + 1) t).outcome = reply.decoded w := by
  rw [follow, outcome_bind, h]
  show Run.outcome _ = _
  split
  · exact outcome_ofExcept _
  · next heq => cases hend.symm.trans heq

theorem follow_of_location [HostNames] (h : (request w t).outcome = .ok reply)
    (hlocation : reply.location? = some location) : (follow w (n + 1) t).outcome =
      redirected t location >>= fun next =>
        reply.decoded w >>= fun _ => (follow w n next).outcome := by
  rw [follow, outcome_bind, h]
  show Run.outcome _ = _
  split
  · next heq => cases hlocation.symm.trans heq
  · next heq =>
    cases hlocation.symm.trans heq
    simp only [outcome_bind, outcome_ofExcept]

theorem requested_of_follow [HostNames] (n : Nat) (t : Target) :
    .requested t.toString ∈ (follow w (n + 1) t).trace := by
  rw [follow, trace_bind, trace_request]
  exact List.mem_append_left _ List.mem_cons_self

end follow

section derails

/-- The way through so many requests is left by an error that is none of the transport's: of the
route itself, of an address without a scheme, or of one that a redirection leads to. -/
inductive Derails [HostNames] (w : World) : Nat → Target → Prop
  | route {n : Nat} {t : Target} {kind message : String} :
      routeAt w t = .failure kind message → kind ∉ Fetch.transportFailures → Derails w (n + 1) t
  | relative {n : Nat} {t : Target} {status : Nat} {headers : List (String × String)}
      {content : Bytes} : routeAt w t = .response status headers content →
      t.isAbsolute = false → Derails w (n + 1) t
  | redirection {n : Nat} {t : Target} {reply : Reply} {location : Text} {e : Failure} :
      (request w t).outcome = .ok reply → reply.location? = some location →
      redirected t location = .error e → ¬IsTransport e → Derails w (n + 1) t
  | later {n : Nat} {t next : Target} {reply read : Reply} {location : Text} :
      (request w t).outcome = .ok reply → reply.location? = some location →
      redirected t location = .ok next → reply.decoded w = .ok read → Derails w n next →
      Derails w (n + 1) t

end derails

section get

variable {e : TargetError}

theorem outcome_get_of_unread [HostNames] (h : Target.parse address.toList = .error e) :
    (get w address).outcome = .error (targetFailure e) := by
  rw [get, outcome_bind, outcome_ofExcept, h]
  rfl

theorem outcome_get_of_unrooted [HostNames] (h : Target.parse address.toList = .ok t)
    (hrooted : t.rooted = .error e) : (get w address).outcome = .error (targetFailure e) := by
  rw [get, outcome_bind, outcome_ofExcept, h]
  show (Run.ofExcept (t.rooted.mapError targetFailure) >>= _).outcome = _
  rw [outcome_bind, outcome_ofExcept, hrooted]
  rfl

theorem get_of_rooted [HostNames] (h : Target.parse address.toList = .ok t)
    (hrooted : t.rooted = .ok start) :
    get w address = follow w (redirectLimit + 1) start := by
  rw [get, h]
  show Run.ofExcept (t.rooted.mapError targetFailure) >>= _ = _
  rw [hrooted]
  rfl

end get

/-- The exchange is one that fails other than in its transport: its address cannot be read, or the
way through its redirections is left. -/
inductive Strays [HostNames] (w : World) (address : String) : Prop
  | unread {e : TargetError} : Target.parse address.toList = .error e → Strays w address
  | unrooted {t : Target} {e : TargetError} : Target.parse address.toList = .ok t →
      t.rooted = .error e → Strays w address
  | derailed {t start : Target} : Target.parse address.toList = .ok t → t.rooted = .ok start →
      Derails w (redirectLimit + 1) start → Strays w address

section unfollowed

def proceedAfter [HostNames] (w : World) (n : Nat) (t : Target) (reply : Reply) : Run Reply :=
  match reply.location? with
  | none => Run.ofExcept (reply.decoded w)
  | some location => do
    let next ← Run.ofExcept (redirected t location)
    let _ ← Run.ofExcept (reply.decoded w)
    follow w n next

theorem follow_eq [HostNames] (w : World) (n : Nat) (t : Target) :
    follow w (n + 1) t = request w t >>= proceedAfter w n t := rfl

theorem trace_follow [HostNames] (h : (request w t).outcome = .ok reply) :
    (follow w (n + 1) t).trace = .requested t.toString :: (proceedAfter w n t reply).trace := by
  rw [follow_eq, trace_bind_of_ok h, trace_request]
  rfl

theorem visited_follow_ne_nil [HostNames] (h : (follow w n t).outcome = .ok reply) :
    visited (follow w n t).trace ≠ [] := by
  cases n with
  | zero => cases h
  | succ n =>
    intro hnone
    exact visited_eq_nil_iff.mp hnone _ (requested_of_follow n t)

theorem target_of_follow [HostNames] (h : (follow w (n + 1) t).outcome = .ok reply)
    (hone : (visited (follow w (n + 1) t).trace).length = 1) :
    reply.target = t ∧ t.isAbsolute := by
  cases hfirst : (request w t).outcome with
  | error e =>
    rw [follow_of_error hfirst] at h
    cases h
  | ok first =>
    cases hlocation : first.location? with
    | none =>
      rw [follow_of_end hfirst hlocation] at h
      rw [target_of_decoded h]
      exact target_of_request hfirst
    | some location =>
      rw [follow_of_location hfirst hlocation] at h
      obtain ⟨next, hnext, h⟩ := exists_of_bind_eq_ok h
      obtain ⟨read, hread, h⟩ := exists_of_bind_eq_ok h
      have hrest : (proceedAfter w n t first).trace = (follow w n next).trace := by
        have hproceed : proceedAfter w n t first = (Run.ofExcept (redirected t location) >>=
            fun next => Run.ofExcept (first.decoded w) >>= fun _ => follow w n next) := by
          unfold proceedAfter
          rw [hlocation]
        rw [hproceed, hnext, hread]
        rfl
      -- what it goes on with makes a second request
      rw [trace_follow hfirst, hrest] at hone
      exact absurd (List.length_eq_zero_iff.mp (Nat.succ.inj hone)) (visited_follow_ne_nil h)

theorem isAbsolute_of_follow [HostNames] (h : (follow w (n + 1) t).outcome = .ok reply) :
    t.isAbsolute := by
  cases hfirst : (request w t).outcome with
  | error e =>
    rw [follow_of_error hfirst] at h
    cases h
  | ok first => exact (target_of_request hfirst).2

theorem eq_of_rooted [HostNames] (h : t.rooted = .ok start) (hstart : start.isAbsolute) :
    start = t := by
  unfold Target.rooted at h
  split at h
  · cases h
    rfl
  · obtain ⟨_, -, h⟩ := exists_of_bind_eq_ok h
    obtain ⟨_, -, h⟩ := exists_of_bind_eq_ok h
    obtain ⟨_, -, h⟩ := exists_of_bind_eq_ok h
    obtain ⟨_, -, h⟩ := exists_of_bind_eq_ok h
    obtain ⟨_, -, h⟩ := exists_of_bind_eq_ok h
    cases h
    cases hstart

theorem get_of_absolute [HostNames] (h : Target.parse address.toList = .ok t)
    (habsolute : t.isAbsolute) :
    get w address = follow w (redirectLimit + 1) t :=
  get_of_rooted h (if_pos habsolute)

theorem exists_of_get [HostNames] (h : (get w address).outcome = .ok reply) :
    ∃ t, Target.parse address.toList = .ok t ∧ t.isAbsolute := by
  cases hparse : Target.parse address.toList with
  | error e =>
    rw [outcome_get_of_unread hparse] at h
    cases h
  | ok t =>
    cases hrooted : t.rooted with
    | error e =>
      rw [outcome_get_of_unrooted hparse hrooted] at h
      cases h
    | ok start =>
      rw [get_of_rooted hparse hrooted] at h
      have hstart := isAbsolute_of_follow h
      exact ⟨t, rfl, eq_of_rooted hrooted hstart ▸ hstart⟩

end unfollowed

end Http

end EmitBridge
