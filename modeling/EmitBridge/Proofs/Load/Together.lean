import EmitBridge.Proofs.Load.Interleaving

/-! Loads that are started together are answered turn by turn. That is one order of their moves, and
any other order comes to the same outcomes. -/

namespace EmitBridge.Bridge

open HostNames.AsciiOnly

open Run Event

variable {w : World} {b : Bridge} {context : Entries Value}

theorem interleave_append [HostNames] (first second : List Nat) (ps : List Phase) :
    interleave w b context (first ++ second) ps =
      ((interleave w b context second (interleave w b context first ps).1).1,
        (interleave w b context first ps).2 ++
          (interleave w b context second (interleave w b context first ps).1).2) := by
  induction first generalizing ps with
  | nil => rfl
  | cons i first ih =>
    rw [List.cons_append, interleave, ih, interleave, List.append_assoc]

theorem interleave_replicate [HostNames] (n : Nat) (before after : List Phase) (p : Phase) :
    interleave w b context (List.replicate n before.length) (before ++ p :: after) =
      (before ++ (p.alone w b context n).1 :: after,
        (p.alone w b context n).2.map (before.length, ·)) := by
  induction n generalizing p with
  | zero => rfl
  | succ n ih =>
    have hp : (before ++ p :: after)[before.length]? = some p := by simp
    have hmove : move w b context before.length (before ++ p :: after) =
        (before ++ (p.next w b context).1 :: after,
          (p.next w b context).2.map (before.length, ·)) := by
      rw [move, hp]
      simp
    rw [List.replicate_succ, interleave, hmove, ih, ← List.map_append]
    rfl

namespace Task

def phase : Task → Phase
  | waiting _ r => .asked r
  | finished outcome => .ended outcome

def moves (i : Nat) : Task → List Nat
  | waiting 0 _ => List.replicate 2 i
  | _ => []

def movesFrom (i : Nat) : List Task → List Nat
  | [] => []
  | t :: rest => t.moves i ++ movesFrom (i + 1) rest

theorem interleave_moves [HostNames] (w : World) (b : Bridge) (context : Entries Value) (t : Task)
    (before after : List Phase) :
    interleave w b context (t.moves before.length) (before ++ t.phase :: after) =
      (before ++ (t.step w b context).1.phase :: after,
        (t.step w b context).2.map (before.length, ·)) := by
  cases t with
  | waiting n r =>
    cases n with
    | zero =>
      show interleave w b context (List.replicate 2 before.length) _ = _
      rw [phase, interleave_replicate, Phase.alone_asked]
      rfl
    | succ n => rfl
  | finished outcome => rfl

theorem interleave_movesFrom [HostNames] (w : World) (b : Bridge) (context : Entries Value)
    (ts : List Task) (before : List Phase) :
    (interleave w b context (movesFrom before.length ts) (before ++ ts.map phase)).1 =
        before ++ (stepAll w b context ts).1.map phase ∧
      (interleave w b context (movesFrom before.length ts) (before ++ ts.map phase)).2.map
          Prod.snd = (stepAll w b context ts).2 := by
  induction ts generalizing before with
  | nil => exact ⟨rfl, rfl⟩
  | cons t rest ih =>
    obtain ⟨hphases, hevents⟩ := ih (before ++ [(t.step w b context).1.phase])
    have hmoves := interleave_moves w b context t before (rest.map phase)
    rw [movesFrom, List.map_cons, interleave_append, hmoves]
    rw [List.length_append, List.length_singleton, List.append_assoc, List.singleton_append]
      at hphases hevents
    refine ⟨?_, ?_⟩
    · rw [hphases, List.append_assoc]
      rfl
    · rw [List.map_append, hevents, List.map_map]
      show List.map (fun e => e) (t.step w b context).2 ++ _ = _
      rw [List.map_id']
      rfl

theorem exists_interleave_run [HostNames] (w : World) (b : Bridge) (context : Entries Value)
    (n : Nat) (ts : List Task) : ∃ order,
    (interleave w b context order (ts.map phase)).1 = (run w b context n ts).1.map phase ∧
      (interleave w b context order (ts.map phase)).2.map Prod.snd = (run w b context n ts).2 := by
  induction n generalizing ts with
  | zero => exact ⟨[], rfl, rfl⟩
  | succ n ih =>
    obtain ⟨hphases, hevents⟩ := interleave_movesFrom w b context ts []
    obtain ⟨order, hlater, hmore⟩ := ih (stepAll w b context ts).1
    refine ⟨movesFrom 0 ts ++ order, ?_, ?_⟩
    · rw [interleave_append]
      exact (congrArg (fun ps => (interleave w b context order ps).1) hphases).trans hlater
    · rw [interleave_append, List.map_append]
      exact congrArg₂ (· ++ ·) hevents
        ((congrArg (fun ps => (interleave w b context order ps).2.map Prod.snd) hphases).trans
          hmore)

def left : Task → Nat
  | waiting n _ => n + 1
  | finished _ => 0

theorem left_step [HostNames] (t : Task) : (t.step w b context).1.left = t.left - 1 := by
  cases t with
  | waiting n r => cases n <;> rfl
  | finished outcome => rfl

theorem stepAll_tasks [HostNames] (ts : List Task) :
    (stepAll w b context ts).1 = ts.map fun t => (t.step w b context).1 := by
  induction ts with
  | nil => rfl
  | cons t rest ih => exact congrArg ((t.step w b context).1 :: ·) ih

theorem left_run [HostNames] {n : Nat} {ts : List Task} (h : ∀ t ∈ ts, t.left ≤ n) :
    ∀ t ∈ (run w b context n ts).1, t.left = 0 := by
  induction n generalizing ts with
  | zero => exact fun t ht => Nat.le_zero.mp (h t ht)
  | succ n ih =>
    refine ih fun t ht => ?_
    rw [stepAll_tasks] at ht
    obtain ⟨u, hu, rfl⟩ := List.mem_map.mp ht
    rw [left_step]
    exact Nat.sub_le_of_le_add (h u hu)

theorem isOver_of_left {t : Task} (h : t.left = 0) : t.phase.IsOver := by
  cases t with
  | waiting n r => cases h
  | finished outcome => rfl

theorem outcome?_phase (t : Task) : t.phase.outcome? = t.outcome? := by cases t <;> rfl

end Task

theorem foldl_max_bounds (ns : List Nat) (m : Nat) :
    m ≤ ns.foldl max m ∧ ∀ n ∈ ns, n ≤ ns.foldl max m := by
  induction ns generalizing m with
  | nil => exact ⟨Nat.le_refl m, nofun⟩
  | cons k ns ih =>
    obtain ⟨hinit, hall⟩ := ih (max m k)
    refine ⟨Nat.le_trans (Nat.le_max_left m k) hinit, fun n hn => ?_⟩
    rcases List.mem_cons.mp hn with rfl | hn
    · exact Nat.le_trans (Nat.le_max_right m n) hinit
    · exact hall n hn

theorem loadTogether_eq [HostNames] (w : World) (b : Bridge) (context : Entries Value)
    (rs : List BridgeRequest) : ∃ order,
    AllOver (interleaved w b context rs order).1 ∧
      loadTogether w b rs context =
        (.ok ((interleaved w b context rs order).1.filterMap Phase.outcome?),
          (interleaved w b context rs order).2.map Prod.snd) := by
  let n := (rs.map b.turns).foldl max 0 + 1
  obtain ⟨order, hphases, hevents⟩ :=
    Task.exists_interleave_run w b context n (rs.map b.start)
  have hstart : (rs.map b.start).map Task.phase = rs.map Phase.asked := List.map_map
  rw [hstart, ← interleaved] at hphases hevents
  have hleft : ∀ t ∈ rs.map b.start, t.left ≤ n := by
    intro t ht
    obtain ⟨r, hr, rfl⟩ := List.mem_map.mp ht
    exact Nat.succ_le_succ ((foldl_max_bounds _ 0).2 _ (List.mem_map_of_mem hr))
  refine ⟨order, ?_, ?_⟩
  · rw [hphases]
    intro p hp
    obtain ⟨t, ht, rfl⟩ := List.mem_map.mp hp
    exact Task.isOver_of_left (Task.left_run hleft t ht)
  · rw [hphases, hevents, List.filterMap_map]
    have houtcome : Phase.outcome? ∘ Task.phase = Task.outcome? := funext Task.outcome?_phase
    rw [houtcome]
    rfl

/-- Loads that do not touch each other: whatever the order of their moves is, each comes to its own
outcome and makes its own call of the loader. -/
structure Reentrant [HostNames] (w : World) (b : Bridge) (rs : List BridgeRequest)
    (context : Entries Value) : Prop where
  finish : ∀ order, (∀ i < rs.length, 2 ≤ order.count i) →
    AllOver (interleaved w b context rs order).1
  inOrder : ∀ order, AllOver (interleaved w b context rs order).1 →
    (interleaved w b context rs order).1.map Phase.outcome? =
      rs.map fun r => some (b.load w r).outcome
  owned : ∀ order, ∀ e ∈ (interleaved w b context rs order).2, e.1 < rs.length
  alone : ∀ order, AllOver (interleaved w b context rs order).1 → ∀ i r, rs[i]? = some r →
    eventsAt i (interleaved w b context rs order).2 = (b.load w r context).2
  called : ∀ order, AllOver (interleaved w b context rs order).1 → ∀ i r s, rs[i]? = some r →
    settingOf r.cacheSetting = .ok s →
      loaderCalls (eventsAt i (interleaved w b context rs order).2) =
        [⟨r.specifier, r.isDynamic, s⟩]
  refused : ∀ order, AllOver (interleaved w b context rs order).1 → ∀ i r f, rs[i]? = some r →
    settingOf r.cacheSetting = .error f →
      loaderCalls (eventsAt i (interleaved w b context rs order).2) = [] ∧
        f.name = "ValueError" ∧ (b.load w r).outcome = .error f
  together : ∃ order, AllOver (interleaved w b context rs order).1 ∧
    loadTogether w b rs context = (.ok (rs.map fun r => (b.load w r).outcome),
      (interleaved w b context rs order).2.map Prod.snd)

theorem outcome_load [HostNames] (w : World) (b : Bridge) (context : Entries Value)
    (r : BridgeRequest) :
    (b.load w r context).1 = (b.load w r).outcome :=
  (steady_load b r context).1

theorem outcomes_interleaved [HostNames] {rs : List BridgeRequest} {order : List Nat}
    (h : AllOver (interleaved w b context rs order).1) :
    (interleaved w b context rs order).1.map Phase.outcome? =
      rs.map fun r => some (b.load w r).outcome := by
  rw [interleaved_of_allOver h, List.map_map]
  refine List.map_congr_left fun r _ => ?_
  rw [← outcome_load w b context]
  rfl

theorem filterMap_interleaved [HostNames] {rs : List BridgeRequest} {order : List Nat}
    (h : AllOver (interleaved w b context rs order).1) :
    (interleaved w b context rs order).1.filterMap Phase.outcome? =
      rs.map fun r => (b.load w r).outcome := by
  calc
    _ = ((interleaved w b context rs order).1.map Phase.outcome?).filterMap id :=
      (List.filterMap_map ..).symm
    _ = (rs.map fun r => some (b.load w r).outcome).filterMap id := by
      rw [outcomes_interleaved h]
    _ = rs.map fun r => (b.load w r).outcome := by
      rw [List.filterMap_map]
      exact congrFun List.filterMap_eq_map rs

theorem name_of_refused {v : Value} {f : Failure} (h : settingOf v = .error f) :
    f.name = "ValueError" := by
  unfold settingOf at h
  split at h
  · cases h
  · split at h
    · cases h
    · cases h
      rfl

/-- The bridge to a function that answers from a table is reentrant. A request whose cache setting
is none that there is fails before the loader is called. -/
theorem reentrant_custom [HostNames] (w : World) (f : LoaderFunction Value)
    (rs : List BridgeRequest) (context : Entries Value) : Reentrant w ⟨.function f⟩ rs context where
  finish _ h := allOver_of_moved h
  inOrder _ h := outcomes_interleaved h
  owned _ _ he := lt_of_mem_interleaved he
  alone _ h _ _ hr := (alone_of_allOver h hr).2
  called _ h _ _ _ hr hs := by
    rw [(alone_of_allOver h hr).2]
    exact loaderCalls_load (accept_of_setting hs)
  refused order h i r e hr hs := by
    have hload : load w ⟨.function f⟩ r context = (.error e, [.asked r]) :=
      load_of_refused (accept_of_refused hs)
    rw [(alone_of_allOver h hr).2, ← outcome_load w _ context, hload]
    exact ⟨rfl, name_of_refused hs, rfl⟩
  together := by
    obtain ⟨order, hover, heq⟩ :=
      loadTogether_eq w ⟨.function f⟩ context rs
    refine ⟨order, hover, heq.trans ?_⟩
    rw [filterMap_interleaved hover]

def constant : Bridge :=
  ⟨.function ⟨true, fun r =>
    ⟨.ok (.response (.module ⟨r.specifier, none, .text (Text.ofString "export \x7b\x7d;")⟩)), 0⟩⟩⟩

theorem loader_not_called_for_unknown_setting : ∃ order,
    AllOver (interleaved .bare constant [] [⟨"a", .bool false, .string "bogus"⟩] order).1 ∧
      loaderCalls (eventsAt 0
        (interleaved .bare constant [] [⟨"a", .bool false, .string "bogus"⟩] order).2) = [] := by
  refine ⟨[0, 0], allOver_of_moved fun i hi => ?_, rfl⟩
  obtain rfl : i = 0 := Nat.lt_one_iff.mp hi
  decide

end EmitBridge.Bridge
