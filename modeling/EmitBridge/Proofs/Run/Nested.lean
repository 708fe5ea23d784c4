import EmitBridge.Proofs.Run.Transparent

/-! Emit operations within emit operations. Bound log fields are kept in a store that an operation
changes when it begins and puts back when it ends; what a tree of operations tells is determined by
the operations around each event. -/

namespace EmitBridge

namespace Run

structure LogCall where
  level : Level
  name : String
  fields : Entries Value

/-- The body of an operation: it logs, runs further operations, makes attempts whose failures it
catches, and returns or raises in the end. -/
inductive Body
  | returns
  | raises (e : Failure)
  | logs (call : LogCall) (rest : Body)
  | operates (o : Operation) (inner rest : Body)
  | attempts (inner rest : Body)

abbrev Bindings := Text → Option Value

def overlay (fields : Entries Value) (outer : Bindings) : Bindings := fun name =>
  (fields.get? name).or (outer name)

def merged (stack : List Operation) (context : Bindings) : Bindings := fun name =>
  (stack.findSome? fun o => o.attributes.get? name).or (context name)

theorem merged_cons (o : Operation) (stack : List Operation) (context : Bindings) :
    merged (o :: stack) context = overlay o.attributes (merged stack context) := by
  funext name
  rw [merged, overlay, merged, List.findSome?_cons]
  cases o.attributes.get? name with
  | some v => rfl
  | none => rw [Option.none_or]

inductive Scene
  | told (level : Level) (name : String) (fields : Bindings)
  | ended (s : SpanRecord)

def LogCall.under (call : LogCall) (context : Bindings) : Scene :=
  .told call.level call.name (overlay call.fields context)

namespace Operation

def started (o : Operation) : LogCall := ⟨.debug, "emit." ++ o.name ++ "_started", o.attributes⟩

def finished (o : Operation) : Except Failure Unit → LogCall
  | .ok _ => ⟨.info, "emit." ++ o.name ++ "_completed", o.attributes⟩
  | .error e => ⟨.error, "emit." ++ o.name ++ "_failed", e.attributes ++ o.attributes⟩

def record (o : Operation) : Except Failure Unit → SpanRecord
  | .ok _ => ⟨"emit." ++ o.name, SpanRecord.attributesOf o.attributes, .ok⟩
  | .error e => raisedSpan ("emit." ++ o.name) o.attributes e

def closing (o : Operation) (ending : Except Failure Unit) (within : Bindings) : List Scene :=
  [(o.finished ending).under within, .ended (o.record ending)]

def scenes (o : Operation) (ending : Except Failure Unit) (within : Bindings)
    (inner : List Scene) : List Scene :=
  o.started.under within :: inner ++ o.closing ending within

end Operation

namespace Body

def ending : Body → Except Failure Unit
  | returns => .ok ()
  | raises e => .error e
  | logs _ rest => rest.ending
  | operates _ inner rest => inner.ending >>= fun _ => rest.ending
  | attempts _ rest => rest.ending

def scenes : Body → List Operation → Bindings → List Scene
  | returns, _, _ => []
  | raises _, _, _ => []
  | logs call rest, stack, context =>
    call.under (merged stack context) :: rest.scenes stack context
  | operates o inner rest, stack, context =>
    o.scenes inner.ending (merged (o :: stack) context) (inner.scenes (o :: stack) context) ++
      match inner.ending with
      | .ok _ => rest.scenes stack context
      | .error _ => []
  | attempts inner rest, stack, context =>
    inner.scenes stack context ++ rest.scenes stack context

def left : Body → List Operation
  | returns => []
  | raises _ => []
  | logs _ rest => rest.left
  | operates o inner rest =>
    match inner.ending with
    | .ok _ => rest.left
    | .error _ => inner.left ++ [o]
  | attempts _ rest => rest.left

def run : Body → Run Unit
  | returns => pure ()
  | raises e => fail e
  | logs call rest => log call.level call.name call.fields >>= fun _ => rest.run
  | operates o inner rest => operation o inner.run >>= fun _ => rest.run
  | attempts inner rest => inner.run.settled >>= fun _ => rest.run

end Body

def unwinding (e : Failure) (context : Bindings) : List Operation → List Operation → List Scene
  | [], _ => []
  | o :: left, outer =>
    o.closing (.error e) (merged (o :: left ++ outer) context) ++ unwinding e context left outer

/-- A store of bound log fields. `restore` gives the store after a part the values that given fields
had before it. -/
structure ContextStore (σ : Type) where
  get : σ → Bindings
  bind : Entries Value → σ → σ
  restore : Entries Value → σ → σ → σ

structure Ran (σ : Type) where
  ending : Except Failure Unit
  scenes : List Scene
  store : σ

namespace Ran

variable {σ : Type}

def andThen (r : Ran σ) (next : σ → Ran σ) : Ran σ :=
  match r.ending with
  | .ok _ => ⟨(next r.store).ending, r.scenes ++ (next r.store).scenes, (next r.store).store⟩
  | .error _ => r

def settled (r : Ran σ) : Ran σ := { r with ending := .ok () }

end Ran

namespace ContextStore

variable {σ : Type} (C : ContextStore σ)

/-- An operation binds its attributes, logs under whatever is bound by then, and restores what its
attributes have hidden. -/
def operate (o : Operation) (body : σ → Ran σ) (s : σ) : Ran σ :=
  let entered := C.bind o.attributes s
  let ran := body entered
  ⟨ran.ending,
    o.started.under (C.get entered) :: ran.scenes ++ o.closing ran.ending (C.get ran.store),
    C.restore o.attributes s ran.store⟩

def exec : Body → σ → Ran σ
  | .returns, s => ⟨.ok (), [], s⟩
  | .raises e, s => ⟨.error e, [], s⟩
  | .logs call rest, s => (Ran.mk (.ok ()) [call.under (C.get s)] s).andThen (exec rest)
  | .operates o inner rest, s => (C.operate o (exec inner) s).andThen (exec rest)
  | .attempts inner rest, s => (exec inner s).settled.andThen (exec rest)

structure Lawful : Prop where
  get_bind : ∀ fields s, C.get (C.bind fields s) = overlay fields (C.get s)
  get_restore : ∀ fields before after name, C.get (C.restore fields before after) name =
    if fields.contains name then C.get before name else C.get after name

end ContextStore

section exec

variable {σ : Type} {C : ContextStore σ}

theorem get_operate (hC : C.Lawful) (o : Operation) {body : σ → Ran σ} (s : σ)
    (hbody : ∀ s, C.get (body s).store = C.get s) : C.get (C.operate o body s).store = C.get s := by
  funext name
  rw [ContextStore.operate, hC.get_restore, hbody, hC.get_bind, overlay]
  split
  · rfl
  · next hnew =>
    have hnone : o.attributes.get? name = none :=
      Option.not_isSome_iff_eq_none.mp hnew
    rw [hnone, Option.none_or]

theorem get_andThen {r : Ran σ} {next : σ → Ran σ} (hnext : ∀ s, C.get (next s).store = C.get s) :
    C.get (r.andThen next).store = C.get r.store := by
  unfold Ran.andThen
  split
  · exact hnext r.store
  · rfl

theorem get_exec (hC : C.Lawful) (b : Body) : ∀ s, C.get (C.exec b s).store = C.get s := by
  induction b with
  | returns => exact fun _ => rfl
  | raises e => exact fun _ => rfl
  | logs call rest ih =>
    intro s
    rw [ContextStore.exec, get_andThen ih]
  | operates o inner rest ihi ihr =>
    intro s
    rw [ContextStore.exec, get_andThen ihr, get_operate hC o s ihi]
  | attempts inner rest ihi ihr =>
    intro s
    rw [ContextStore.exec, get_andThen ihr, Ran.settled, ihi]

theorem ending_andThen (r : Ran σ) (next : σ → Ran σ) :
    (r.andThen next).ending = r.ending >>= fun _ => (next r.store).ending := by
  unfold Ran.andThen
  split
  · next h => rw [h]; rfl
  · next h => rw [h]; rfl

theorem ending_exec (b : Body) : ∀ s, (C.exec b s).ending = b.ending := by
  induction b with
  | returns => exact fun _ => rfl
  | raises e => exact fun _ => rfl
  | logs call rest ih =>
    intro s
    rw [ContextStore.exec, ending_andThen, ih]
    rfl
  | operates o inner rest ihi ihr =>
    intro s
    rw [ContextStore.exec, ending_andThen, ihr, ContextStore.operate, ihi]
    rfl
  | attempts inner rest ihi ihr =>
    intro s
    rw [ContextStore.exec, ending_andThen, ihr]
    rfl

theorem scenes_andThen (r : Ran σ) (next : σ → Ran σ) :
    (r.andThen next).scenes = r.scenes ++ match r.ending with
      | .ok _ => (next r.store).scenes
      | .error _ => [] := by
  unfold Ran.andThen
  split
  · rfl
  · exact (List.append_nil _).symm

theorem scenes_operate (hC : C.Lawful) (o : Operation) (b : Body) (s : σ) :
    (C.operate o (C.exec b) s).scenes = o.scenes b.ending (overlay o.attributes (C.get s))
      (C.exec b (C.bind o.attributes s)).scenes := by
  rw [ContextStore.operate, Operation.scenes, ending_exec, get_exec hC, hC.get_bind]

theorem scenes_exec (hC : C.Lawful) (b : Body) : ∀ {s stack context},
    C.get s = merged stack context → (C.exec b s).scenes = b.scenes stack context := by
  induction b with
  | returns => exact fun _ => rfl
  | raises e => exact fun _ => rfl
  | logs call rest ih =>
    intro s stack context hs
    rw [ContextStore.exec, scenes_andThen, hs]
    exact congrArg _ (ih hs)
  | operates o inner rest ihi ihr =>
    intro s stack context hs
    have hentered : C.get (C.bind o.attributes s) = merged (o :: stack) context := by
      rw [hC.get_bind, hs, merged_cons]
    have hleft : C.get (C.operate o (C.exec inner) s).store = merged stack context := by
      rw [get_operate hC o s (get_exec hC inner), hs]
    have hending : (C.operate o (C.exec inner) s).ending = inner.ending := ending_exec inner _
    rw [ContextStore.exec, scenes_andThen, scenes_operate hC, hending, hs, ihi hentered, ihr hleft,
      ← merged_cons]
    rfl
  | attempts inner rest ihi ihr =>
    intro s stack context hs
    have hleft : C.get (C.exec inner s).store = merged stack context := by
      rw [get_exec hC, hs]
    rw [ContextStore.exec, scenes_andThen, Body.scenes]
    exact congrArg₂ _ (ihi hs) (ihr hleft)

end exec

theorem unwinding_concat (e : Failure) (context : Bindings) (o : Operation) (outer : List Operation)
    (left : List Operation) : unwinding e context (left ++ [o]) outer =
      unwinding e context left (o :: outer) ++
        o.closing (.error e) (merged (o :: outer) context) := by
  induction left with
  | nil => exact List.append_nil _
  | cons p left ih =>
    have hstack : p :: (left ++ [o]) ++ outer = p :: left ++ o :: outer := by simp
    rw [List.cons_append, unwinding, ih, hstack, unwinding, List.append_assoc]

theorem scenes_of_error {e : Failure} (b : Body) : ∀ (stack : List Operation) (context : Bindings),
    b.ending = .error e →
      ∃ before, b.scenes stack context = before ++ unwinding e context b.left stack := by
  -- for every stack, since an operation is pushed on it for its body
  induction b with
  | returns => exact nofun
  | raises e => exact fun _ _ _ => ⟨[], rfl⟩
  | logs call rest ih =>
    intro stack context he
    obtain ⟨before, hbefore⟩ := ih stack context he
    exact ⟨_ :: before, congrArg _ hbefore⟩
  | operates o inner rest ihi ihr =>
    intro stack context he
    rw [Body.ending] at he
    rw [Body.scenes, Body.left]
    cases hi : inner.ending with
    | ok a =>
      rw [hi] at he
      obtain ⟨before, hbefore⟩ := ihr stack context he
      exact ⟨_, (congrArg _ hbefore).trans (List.append_assoc ..).symm⟩
    | error x =>
      rw [hi] at he
      obtain rfl := Except.error.inj he
      obtain ⟨before, hbefore⟩ := ihi (o :: stack) context hi
      refine ⟨o.started.under (merged (o :: stack) context) :: before, ?_⟩
      dsimp only
      rw [unwinding_concat, Operation.scenes, hbefore, List.append_nil]
      simp only [List.cons_append, List.append_assoc]
  | attempts inner rest ihi ihr =>
    intro stack context he
    obtain ⟨before, hbefore⟩ := ihr stack context he
    exact ⟨_, (congrArg _ hbefore).trans (List.append_assoc ..).symm⟩

def scene? : Event → Option Scene
  | .logged level name fields => some (.told level name fields.get?)
  | .span s => some (.ended s)
  | _ => none

def Scene.isTold : Scene → Bool
  | .told .. => true
  | .ended _ => false

/-- The events are what is seen, with the log in its order; spans are listed where they begin. -/
structure Shows (events : List Event) (scenes : List Scene) : Prop where
  all : (events.map scene?).Perm (scenes.map some)
  log : (events.filterMap scene?).filter Scene.isTold = scenes.filter Scene.isTold

section run

variable {context : Entries Value} {stack : List Operation} {outer : Bindings}

theorem get?_withContext (context fields : Entries Value) :
    (withContext context fields).get? = overlay fields context.get? := by
  funext name
  rw [withContext, Entries.get?_append, overlay,
    Entries.get?_filter_names fun n => !fields.contains n]
  cases hf : fields.get? name with
  | some v => rfl
  | none =>
    have hfree : fields.contains name = false :=
      Entries.contains_eq_false_iff.mpr (Entries.get?_eq_none_iff.mp hf)
    rw [hfree]
    rfl

theorem shows_nil : Shows [] [] := ⟨.nil, rfl⟩

theorem Shows.append {es fs : List Event} {ss ts : List Scene} (h : Shows es ss)
    (k : Shows fs ts) : Shows (es ++ fs) (ss ++ ts) := by
  refine ⟨?_, ?_⟩
  · rw [List.map_append, List.map_append]
    exact h.all.append k.all
  · rw [List.filterMap_append, List.filter_append, List.filter_append, h.log, k.log]

def LogCall.event (call : LogCall) (context : Entries Value) : Event :=
  .logged call.level call.name (withContext context call.fields)

theorem shows_event (call : LogCall) (h : context.get? = outer) :
    Shows [call.event context] [call.under outer] := by
  have hscene : scene? (call.event context) = some (call.under outer) := by
    rw [LogCall.event, scene?, get?_withContext, h]
    rfl
  exact ⟨by rw [List.map_singleton, hscene]; rfl, by rw [List.filterMap_cons_some hscene]; rfl⟩

theorem Shows.span {es : List Event} {ss : List Scene} (h : Shows es ss) (r : SpanRecord) :
    Shows (.span r :: es) (ss ++ [.ended r]) := by
  refine ⟨?_, ?_⟩
  · rw [List.map_append]
    exact (h.all.cons _).trans (List.perm_append_singleton _ _).symm
  · have hspan : (Event.span r :: es).filterMap scene? = .ended r :: es.filterMap scene? :=
      List.filterMap_cons_some rfl
    rw [hspan, List.filter_cons_of_neg (Bool.false_ne_true ·), h.log, List.filter_append]
    exact (List.append_nil _).symm

theorem operation_apply (o : Operation) (body : Run Unit) (context : Entries Value) :
    operation o body context = ((body (o.context context)).1,
      .span (o.record (body (o.context context)).1) :: o.started.event (o.context context) ::
        (body (o.context context)).2 ++
          [(o.finished (body (o.context context)).1).event (o.context context)]) := by
  cases hb : (body (o.context context)).1 with
  | ok a => exact span_of_ok o.loggable_attributes _ true true hb
  | error e => exact span_of_error o.loggable_attributes _ true true hb

theorem shows_operation {o : Operation} {body : Run Unit} {ss : List Scene}
    (hc : context.get? = outer) (h : Shows (body (o.context context)).2 ss) :
    Shows (operation o body context).2
      (o.scenes (body (o.context context)).1 (overlay o.attributes outer) ss) := by
  have hwithin : (o.context context).get? = overlay o.attributes outer := by
    rw [Operation.context, get?_withContext, hc]
  have hlog := ((shows_event o.started hwithin).append h).append
    (shows_event (o.finished (body (o.context context)).1) hwithin)
  rw [operation_apply, Operation.scenes, Operation.closing]
  have hall := hlog.span (o.record (body (o.context context)).1)
  simpa only [List.cons_append, List.nil_append, List.append_assoc] using hall

theorem shows_run (b : Body) : ∀ {context : Entries Value} {stack outer},
    context.get? = merged stack outer →
      (b.run context).1 = b.ending ∧ Shows (b.run context).2 (b.scenes stack outer) := by
  -- for every stack, since the body of an operation runs under its bindings too
  induction b with
  | returns => exact fun _ => ⟨rfl, shows_nil⟩
  | raises e => exact fun _ => ⟨rfl, shows_nil⟩
  | logs call rest ih =>
    intro context stack outer hc
    obtain ⟨hending, hshows⟩ := ih hc
    rw [Body.run, bind_of_ok rfl]
    exact ⟨hending, (shows_event call hc).append hshows⟩
  | operates o inner rest ihi ihr =>
    intro context stack outer hc
    have hwithin : (o.context context).get? = merged (o :: stack) outer := by
      rw [Operation.context, get?_withContext, hc, merged_cons]
    obtain ⟨hi, hshowsi⟩ := ihi hwithin
    have hpassed : (operation o inner.run context).1 = inner.ending := by
      rw [operation_apply, hi]
    have hoperation := shows_operation hc hshowsi
    rw [hi, ← merged_cons] at hoperation
    rw [Body.run, Body.ending, Body.scenes]
    cases he : inner.ending with
    | ok a =>
      obtain ⟨hr, hshowsr⟩ := ihr hc
      rw [bind_of_ok (hpassed.trans he)]
      exact ⟨hr, (he ▸ hoperation).append hshowsr⟩
    | error e =>
      rw [bind_of_error (hpassed.trans he)]
      exact ⟨rfl, (List.append_nil _).symm ▸ he ▸ hoperation⟩
  | attempts inner rest ihi ihr =>
    intro context stack outer hc
    obtain ⟨-, hshowsi⟩ := ihi hc
    obtain ⟨hr, hshowsr⟩ := ihr hc
    rw [Body.run, bind_of_ok rfl]
    exact ⟨hr, hshowsi.append hshowsr⟩

end run

/-- An operation with a body, entered with a store. Its bindings are as before when it is left, it
ends as its body does, all that is told in it carries the bindings of the operations around it, and
a failure ends one operation after another from the innermost one on. The same is seen of the
operation when its bindings are handed to its body. -/
structure IsStackDiscipline {σ : Type} (C : ContextStore σ) (o : Operation) (b : Body) (s : σ) :
    Prop where
  restored : C.get (C.operate o (C.exec b) s).store = C.get s
  passed : (C.operate o (C.exec b) s).ending = b.ending
  carried : (C.operate o (C.exec b) s).scenes =
    o.scenes b.ending (merged [o] (C.get s)) (b.scenes [o] (C.get s))
  unwound : ∀ e, b.ending = .error e → ∃ before, (C.operate o (C.exec b) s).scenes =
    before ++ unwinding e (C.get s) (b.left ++ [o]) []
  followed : ∀ context : Entries Value, context.get? = C.get s →
    (operation o b.run context).1 = b.ending ∧
      Shows (operation o b.run context).2 (C.operate o (C.exec b) s).scenes

/-- Operations keep to the discipline at any depth, over every lawful store. -/
theorem isStackDiscipline {σ : Type} {C : ContextStore σ} (hC : C.Lawful) (o : Operation) (b : Body)
    (s : σ) : IsStackDiscipline C o b s := by
  have hmerged : merged [o] (C.get s) = overlay o.attributes (C.get s) := merged_cons o [] _
  have hentered : C.get (C.bind o.attributes s) = merged [o] (C.get s) := by
    rw [hC.get_bind, hmerged]
  have hscenes : (C.operate o (C.exec b) s).scenes =
      o.scenes b.ending (merged [o] (C.get s)) (b.scenes [o] (C.get s)) := by
    rw [scenes_operate hC, scenes_exec hC b hentered, hmerged]
  refine ⟨get_operate hC o s (get_exec hC b), ending_exec b _, hscenes, fun e he => ?_,
    fun context hc => ?_⟩
  · obtain ⟨before, hbefore⟩ := scenes_of_error b [o] (C.get s) he
    refine ⟨o.started.under (merged [o] (C.get s)) :: before, ?_⟩
    rw [hscenes, unwinding_concat, Operation.scenes, hbefore, he]
    simp only [List.cons_append, List.append_assoc]
  · have hwithin : (o.context context).get? = merged [o] (C.get s) := by
      rw [Operation.context, get?_withContext, hc, hmerged]
    obtain ⟨hending, hshows⟩ := shows_run b hwithin
    have hoperation := shows_operation hc hshows
    rw [hending, ← hmerged] at hoperation
    rw [hscenes]
    exact ⟨by rw [operation_apply, hending], hoperation⟩

def ContextStore.ofEntries : ContextStore (Entries Value) where
  get := Entries.get?
  bind fields s := withContext s fields
  restore fields before after := withContext (after.filter fun e => !fields.contains e.1)
    (before.filter fun e => fields.contains e.1)

theorem ContextStore.lawful_ofEntries : ContextStore.ofEntries.Lawful where
  get_bind fields s := get?_withContext s fields
  get_restore fields before after name := by
    show (withContext _ _).get? name = _
    rw [get?_withContext, overlay, Entries.get?_filter_names fun n => fields.contains n,
      Entries.get?_filter_names fun n => !fields.contains n]
    cases fields.contains name with
    | true => exact Option.or_none
    | false => rfl

theorem isStackDiscipline_of_nested : IsStackDiscipline ContextStore.ofEntries
    ⟨"bundle", some "file:///a.ts", some "module", none⟩
    (.operates ⟨"transpile", some "file:///b.ts", none, some true⟩
      (.logs ⟨.info, "loading", [logField "emit.root" (.string "file:///c.ts")]⟩ (.raises absence))
      .returns)
    [logField "emit.operation" (.string "test")] :=
  isStackDiscipline ContextStore.lawful_ofEntries _ _ _

end Run

end EmitBridge
