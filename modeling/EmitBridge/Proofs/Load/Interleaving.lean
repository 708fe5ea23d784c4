import EmitBridge.Load.Concurrent
import EmitBridge.Proofs.Load.Effects

/-! Loads that are under way together, in any order. A load moves twice: it asks the loader, and it
takes the answer up. Whatever moves in between, its two moves are those that it makes alone. -/

namespace EmitBridge.Bridge

open Run Event

/-- How far a load has come. -/
inductive Phase
  | asked (r : BridgeRequest)
  | awaiting (r : LoadRequest Value) (answer : Except Failure Value)
  | ended (outcome : Except Failure (Option LoadResponse))

namespace Phase

variable (w : World) (b : Bridge) (context : Entries Value)

def next [HostNames] : Phase → Phase × List Event
  | asked r =>
    match accept r with
    | .ok lr => (awaiting lr (ask w b lr context).1, .asked r :: (ask w b lr context).2)
    | .error e => (ended (.error e), [.asked r])
  | awaiting lr (.ok v) => (ended (Bridge.answer lr v context).1, (Bridge.answer lr v context).2)
  | awaiting _ (.error e) => (ended (.error e), [])
  | ended outcome => (ended outcome, [])

def alone [HostNames] : Nat → Phase → Phase × List Event
  | 0, p => (p, [])
  | n + 1, p => ((alone n (p.next w b context).1).1,
      (p.next w b context).2 ++ (alone n (p.next w b context).1).2)

def outcome? : Phase → Option (Except Failure (Option LoadResponse))
  | ended outcome => some outcome
  | _ => none

def IsOver (p : Phase) : Prop := p.outcome?.isSome

end Phase

def move [HostNames] (w : World) (b : Bridge) (context : Entries Value) (i : Nat)
    (ps : List Phase) :
    List Phase × List (Nat × Event) :=
  match ps[i]? with
  | some p => (ps.set i (p.next w b context).1, (p.next w b context).2.map (i, ·))
  | none => (ps, [])

def interleave [HostNames] (w : World) (b : Bridge) (context : Entries Value) :
    List Nat → List Phase → List Phase × List (Nat × Event)
  | [], ps => (ps, [])
  | i :: order, ps =>
    ((interleave w b context order (move w b context i ps).1).1,
      (move w b context i ps).2 ++ (interleave w b context order (move w b context i ps).1).2)

def eventsAt (i : Nat) (es : List (Nat × Event)) : List Event :=
  es.filterMap fun e => if e.1 = i then some e.2 else none

variable {w : World} {b : Bridge} {context : Entries Value}

@[simp] theorem eventsAt_append (i : Nat) (es fs : List (Nat × Event)) :
    eventsAt i (es ++ fs) = eventsAt i es ++ eventsAt i fs := List.filterMap_append ..

theorem eventsAt_map_self (i : Nat) (es : List Event) : eventsAt i (es.map (i, ·)) = es := by
  have hown : ((fun e : Nat × Event => if e.1 = i then some e.2 else none) ∘ (i, ·)) = some :=
    funext fun _ => if_pos rfl
  rw [eventsAt, List.filterMap_map, hown, List.filterMap_some]

theorem eventsAt_map_of_ne {i j : Nat} (h : j ≠ i) (es : List Event) :
    eventsAt i (es.map (j, ·)) = [] := by
  refine List.filterMap_eq_nil_iff.mpr fun e he => ?_
  obtain ⟨e, _, rfl⟩ := List.mem_map.mp he
  exact if_neg h

theorem mem_eventsAt {e : Nat × Event} {es : List (Nat × Event)} (h : e ∈ es) :
    e.2 ∈ eventsAt e.1 es := List.mem_filterMap.mpr ⟨e, h, if_pos rfl⟩

theorem move_at [HostNames] (w : World) (b : Bridge) (context : Entries Value) (i j : Nat)
    (ps : List Phase) :
    (move w b context i ps).1[j]? =
        (if i = j then ps[j]?.map fun p => (p.next w b context).1 else ps[j]?) ∧
      eventsAt j (move w b context i ps).2 =
        if i = j then (ps[j]?.map fun p => (p.next w b context).2).getD [] else [] := by
  unfold move
  by_cases h : i = j
  · subst h
    rw [if_pos rfl, if_pos rfl]
    cases hp : ps[i]? with
    | none => exact ⟨hp, rfl⟩
    | some p =>
      obtain ⟨hi, -⟩ := List.getElem?_eq_some_iff.mp hp
      exact ⟨List.getElem?_set_self hi, eventsAt_map_self i _⟩
  · rw [if_neg h, if_neg h]
    cases ps[i]? with
    | none => exact ⟨rfl, rfl⟩
    | some p => exact ⟨List.getElem?_set_ne h, eventsAt_map_of_ne h _⟩

/-- In any order of moves, a load comes as far as it does alone in as many moves, and does the
same. -/
theorem interleave_at [HostNames] (w : World) (b : Bridge) (context : Entries Value)
    (order : List Nat) (j : Nat) (ps : List Phase) :
    (interleave w b context order ps).1[j]? =
        ps[j]?.map (fun p => (p.alone w b context (order.count j)).1) ∧
      eventsAt j (interleave w b context order ps).2 =
        (ps[j]?.map fun p => (p.alone w b context (order.count j)).2).getD [] := by
  induction order generalizing ps with
  | nil =>
    cases h : ps[j]? with
    | none => exact ⟨h, rfl⟩
    | some p => exact ⟨h, rfl⟩
  | cons i order ih =>
    obtain ⟨hphase, hevents⟩ := move_at w b context i j ps
    obtain ⟨hp, he⟩ := ih (move w b context i ps).1
    rw [interleave, hp, eventsAt_append, he, hphase, hevents]
    by_cases h : i = j
    · subst h
      rw [if_pos rfl, if_pos rfl, List.count_cons_self]
      cases ps[i]? with
      | none => exact ⟨rfl, rfl⟩
      | some p => exact ⟨rfl, rfl⟩
    · rw [if_neg h, if_neg h, List.count_cons_of_ne h]
      exact ⟨rfl, rfl⟩

namespace Phase

theorem alone_ended [HostNames] (n : Nat) (outcome : Except Failure (Option LoadResponse)) :
    (ended outcome).alone w b context n = (ended outcome, []) := by
  induction n with
  | zero => rfl
  | succ n ih =>
    rw [alone, next, ih]
    rfl

theorem alone_asked_of_refused [HostNames] {r : BridgeRequest} {e : Failure}
    (h : accept r = .error e) (n : Nat) :
    (asked r).alone w b context (n + 1) =
      (ended (b.load w r context).1, (b.load w r context).2) := by
  rw [load_of_refused h, alone, next, h, alone_ended]
  rfl

theorem alone_asked_of_accepted [HostNames] {r : BridgeRequest} {lr : LoadRequest Value}
    (h : accept r = .ok lr) (n : Nat) :
    (asked r).alone w b context (n + 2) =
      (ended (b.load w r context).1, (b.load w r context).2) := by
  rw [load_of_accepted h]
  cases ha : (ask w b lr context).1 with
  | error e =>
    rw [bind_of_error ha]
    simp only [alone, next, h, ha, alone_ended, List.append_nil]
  | ok v =>
    rw [bind_of_ok ha]
    simp only [alone, next, h, ha, alone_ended, List.append_nil, List.cons_append]

theorem alone_asked [HostNames] (r : BridgeRequest) (n : Nat) :
    (asked r).alone w b context (n + 2) =
      (ended (b.load w r context).1, (b.load w r context).2) := by
  cases h : accept r with
  | ok lr => exact alone_asked_of_accepted h n
  | error e => exact alone_asked_of_refused h (n + 1)

theorem alone_asked_of_isOver [HostNames] {r : BridgeRequest} {n : Nat}
    (h : ((asked r).alone w b context n).1.IsOver) :
    (asked r).alone w b context n = (ended (b.load w r context).1, (b.load w r context).2) := by
  match n with
  | 0 => cases h
  | 1 =>
    cases ha : accept r with
    | error e => exact alone_asked_of_refused ha 0
    | ok lr =>
      rw [alone, next, ha] at h
      cases h
  | n + 2 => exact alone_asked r n

end Phase

def interleaved [HostNames] (w : World) (b : Bridge) (context : Entries Value)
    (rs : List BridgeRequest) (order : List Nat) : List Phase × List (Nat × Event) :=
  interleave w b context order (rs.map .asked)

section interleaved

variable {rs : List BridgeRequest} {order : List Nat}

theorem interleaved_at [HostNames] (w : World) (b : Bridge) (context : Entries Value)
    (order : List Nat) {i : Nat} {r : BridgeRequest} (hr : rs[i]? = some r) :
    (interleaved w b context rs order).1[i]? =
        some ((Phase.asked r).alone w b context (order.count i)).1 ∧
      eventsAt i (interleaved w b context rs order).2 =
        ((Phase.asked r).alone w b context (order.count i)).2 := by
  have hp : (rs.map Phase.asked)[i]? = some (.asked r) := by rw [List.getElem?_map, hr]; rfl
  obtain ⟨hphase, hevents⟩ := interleave_at w b context order i (rs.map .asked)
  rw [hp] at hphase hevents
  exact ⟨hphase, hevents⟩

def AllOver (ps : List Phase) : Prop := ∀ p ∈ ps, p.IsOver

theorem alone_of_allOver [HostNames] (h : AllOver (interleaved w b context rs order).1) {i : Nat}
    {r : BridgeRequest} (hr : rs[i]? = some r) :
    (interleaved w b context rs order).1[i]? = some (.ended (b.load w r context).1) ∧
      eventsAt i (interleaved w b context rs order).2 = (b.load w r context).2 := by
  obtain ⟨hphase, hevents⟩ := interleaved_at w b context order hr
  have hover : ((Phase.asked r).alone w b context (order.count i)).1.IsOver :=
    h _ (List.mem_of_getElem? hphase)
  have hload := Phase.alone_asked_of_isOver hover
  rw [hload] at hphase hevents
  exact ⟨hphase, hevents⟩

theorem interleaved_of_allOver [HostNames] (h : AllOver (interleaved w b context rs order).1) :
    (interleaved w b context rs order).1 = rs.map fun r => .ended (b.load w r context).1 := by
  refine List.ext_getElem? fun i => ?_
  rw [List.getElem?_map]
  cases hr : rs[i]? with
  | some r => exact (alone_of_allOver h hr).1
  | none =>
    have hp : (rs.map Phase.asked)[i]? = none := by rw [List.getElem?_map, hr]; rfl
    rw [interleaved, (interleave_at w b context order i _).1, hp]
    rfl

theorem allOver_of_moved [HostNames] (h : ∀ i < rs.length, 2 ≤ order.count i) :
    AllOver (interleaved w b context rs order).1 := by
  intro p hp
  obtain ⟨i, hi⟩ := List.mem_iff_getElem?.mp hp
  cases hr : rs[i]? with
  | none =>
    have hq : (rs.map Phase.asked)[i]? = none := by rw [List.getElem?_map, hr]; rfl
    rw [interleaved, (interleave_at w b context order i _).1, hq] at hi
    cases hi
  | some r =>
    obtain ⟨n, hn⟩ := Nat.exists_eq_add_of_le' (h i (List.getElem?_eq_some_iff.mp hr).1)
    rw [(interleaved_at w b context order hr).1, hn, Phase.alone_asked] at hi
    rw [← Option.some.inj hi]
    rfl

theorem lt_of_mem_interleaved [HostNames] {e : Nat × Event}
    (h : e ∈ (interleaved w b context rs order).2) :
    e.1 < rs.length := by
  by_contra hlt
  have hp : (rs.map Phase.asked)[e.1]? = none := by
    rw [List.getElem?_map, List.getElem?_eq_none (Nat.le_of_not_lt hlt)]
    rfl
  have hmem : e.2 ∈ eventsAt e.1 (interleaved w b context rs order).2 := mem_eventsAt h
  rw [interleaved, (interleave_at w b context order e.1 _).2, hp] at hmem
  cases hmem

end interleaved

section custom

variable {f : LoaderFunction Value}

theorem loaderCalls_answer (lr : LoadRequest Value) (v : Value) :
    loaderCalls (Bridge.answer lr v context).2 = [] := by
  have hanswer : (Bridge.answer lr v).Only fun e => e.loaderCall? = none :=
    only_answer (fun _ => rfl) lr v
  exact List.filterMap_eq_nil_iff.mpr (hanswer.2 context)

theorem ask_function [HostNames] (w : World) (f : LoaderFunction Value) (context : Entries Value)
    (lr : LoadRequest Value) :
    ask w ⟨.function f⟩ lr context =
      ((f.respond ⟨lr.specifier, lr.isDynamic.isTruthy, lr.cacheSetting⟩).outcome,
        [.loaderCalled lr]) := by
  show (Run.record (.loaderCalled lr) >>= fun _ => Run.ofExcept _) context = _
  rw [bind_of_ok rfl]
  cases (f.respond ⟨lr.specifier, lr.isDynamic.isTruthy, lr.cacheSetting⟩).outcome <;> rfl

theorem loaderCalls_load [HostNames] {r : BridgeRequest} {lr : LoadRequest Value}
    (h : accept r = .ok lr) :
    loaderCalls (load w ⟨.function f⟩ r context).2 = [lr] := by
  rw [load_of_accepted h]
  have hask := ask_function w f context lr
  cases ho : (f.respond ⟨lr.specifier, lr.isDynamic.isTruthy, lr.cacheSetting⟩).outcome with
  | error e =>
    rw [ho] at hask
    rw [bind_of_error (congrArg Prod.fst hask), hask]
    rfl
  | ok v =>
    rw [ho] at hask
    rw [bind_of_ok (congrArg Prod.fst hask), hask]
    exact congrArg (lr :: ·) (loaderCalls_answer lr v)

end custom

end EmitBridge.Bridge
