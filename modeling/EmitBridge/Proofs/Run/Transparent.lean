import EmitBridge.Proofs.Run.Attributes

/-! Spans around bodies that fail or not. A span ends as its body does, and tells of a failure once,
just if none of its attributes has a name that its own log events need. -/

namespace EmitBridge

namespace Run

variable {α : Type} {attributes context : Entries Value} {name : String}

def tellsFailure (name : String) : Event → Bool
  | .logged _ event _ => event == name ++ "_failed"
  | _ => false

def Carries (fields es : Entries Value) : Prop := ∀ k v, es.get? k = some v → fields.get? k = some v

theorem carries_withContext (context es : Entries Value) : Carries (withContext context es) es := by
  intro k v h
  rw [withContext, Entries.get?_append, h]
  rfl

/-- A span with a body: it ends as the body ends, and a failure is told in one event more than the
body tells, at the end, with all that describes it and all attributes. -/
structure IsTransparent (name : String) (attributes : Entries Value) (logStart logEnd : Bool)
    (body : Run α) (context : Entries Value) : Prop where
  outcome : (span name attributes logStart logEnd body context).1 = (body context).1
  told : ∀ e, (body context).1 = .error e → ∃ before fields,
    (span name attributes logStart logEnd body context).2 =
        before ++ [.logged .error (name ++ "_failed") fields] ∧
      before.countP (tellsFailure name) = (body context).2.countP (tellsFailure name) ∧
      Carries fields e.attributes ∧ Carries fields attributes

def neededNames (logStart logEnd : Bool) : Except Failure α → List Text
  | .ok _ => if logStart || logEnd then parameterNames else []
  | .error e => parameterNames ++ e.attributes.map Prod.fst

section span

variable {logStart logEnd : Bool} {body : Run α}

theorem span_of_mute (h : ¬Speakable attributes) (name : String) (logEnd : Bool) (body : Run α)
    (context : Entries Value) : ∃ f, span name attributes true logEnd body context =
      (.error (.fault f), [.span ⟨name, SpanRecord.attributesOf attributes, .unset⟩]) := by
  obtain ⟨f, hf⟩ := logNamed_of_clash (mt speakable_iff.mpr h) .debug (name ++ "_started")
  refine ⟨f, ?_⟩
  simp only [span, hf, if_true]
  rfl

theorem span_of_returned (hstart : logStart = true → Speakable attributes) {a : α}
    (hb : (body context).1 = .ok a) :
    span name attributes logStart logEnd body context =
      (Except.map (fun _ => a) (if logEnd then
          logNamed .info (name ++ "_completed") [] attributes context else (.ok (), [])).1,
        .span ⟨name, SpanRecord.attributesOf attributes, .ok⟩
          :: edge logStart .debug (name ++ "_started") attributes context
          ++ (body context).2 ++ (if logEnd then
            logNamed .info (name ++ "_completed") [] attributes context else (.ok (), [])).2) := by
  rcases hx : body context with ⟨r, inner⟩
  rw [hx] at hb
  subst hb
  simp only [span, optional_of_speakable hstart, hx]

theorem span_of_untold (name : String) (logEnd : Bool)
    (hstart : logStart = true → Speakable attributes) {e : Failure}
    (hb : (body context).1 = .error e)
    (hclash : ¬∀ d ∈ attributes, d.1 ∉ parameterNames ∧ d.1 ∉ e.attributes.map Prod.fst) :
    ∃ f, span name attributes logStart logEnd body context =
      (.error (.fault f), .span (raisedSpan name attributes e)
        :: edge logStart .debug (name ++ "_started") attributes context ++ (body context).2) := by
  rcases hx : body context with ⟨r, inner⟩
  rw [hx] at hb
  subst hb
  obtain ⟨f, hf⟩ := logNamed_of_clash hclash .error (name ++ "_failed")
  refine ⟨f, ?_⟩
  simp only [span, optional_of_speakable hstart, hx, hf]
  exact Prod.ext rfl (List.append_nil _)

theorem countP_tellsFailure_edge (wanted : Bool) (level : Level) (suffix : String)
    (hs : suffix ≠ "_failed") :
    (edge wanted level (name ++ suffix) attributes context).countP (tellsFailure name) = 0 := by
  cases wanted with
  | true =>
    refine List.countP_eq_zero.mpr fun e he => ?_
    rw [List.mem_singleton.mp he, tellsFailure, beq_iff_eq, String.append_right_inj]
    exact hs
  | false => rfl

theorem countP_tellsFailure_begun (s : SpanRecord) (inner : List Event) :
    (.span s :: edge logStart .debug (name ++ "_started") attributes context ++ inner).countP
      (tellsFailure name) = inner.countP (tellsFailure name) := by
  have hstarted : (edge logStart .debug (name ++ "_started") attributes context).countP
      (tellsFailure name) = 0 := countP_tellsFailure_edge logStart .debug "_started" (by decide)
  rw [List.cons_append, List.countP_cons, List.countP_append, hstarted, Nat.zero_add]
  rfl

theorem not_isTransparent_of_untold {e f : Failure} (hb : (body context).1 = .error e)
    {es : List Event} (h : span name attributes logStart logEnd body context = (.error f, es))
    (hcount : es.countP (tellsFailure name) = (body context).2.countP (tellsFailure name)) :
    ¬IsTransparent name attributes logStart logEnd body context := by
  intro ht
  obtain ⟨before, fields, hevents, hbefore, -⟩ := ht.told e hb
  have hsame : es = before ++ [.logged .error (name ++ "_failed") fields] := by
    rw [← hevents, h]
  have hlast : [Event.logged .error (name ++ "_failed") fields].countP (tellsFailure name) = 1 := by
    rw [List.countP_singleton, tellsFailure, beq_self_eq_true, if_pos rfl]
  rw [hsame, List.countP_append, hbefore, hlast] at hcount
  omega

theorem forall_neededNames_of_raised {e : Failure} : (∀ d ∈ attributes,
      d.1 ∉ neededNames logStart logEnd (.error e : Except Failure α)) ↔
    ∀ d ∈ attributes, d.1 ∉ parameterNames ∧ d.1 ∉ e.attributes.map Prod.fst := by
  simp only [neededNames, List.mem_append, not_or]

theorem forall_neededNames_of_returned {a : α} : (∀ d ∈ attributes,
      d.1 ∉ neededNames logStart logEnd (.ok a : Except Failure α)) ↔
    (logStart = true → Speakable attributes) ∧ (logEnd = true → Speakable attributes) := by
  cases logStart <;> cases logEnd <;> simp [neededNames, Speakable]

theorem carries_told {e : Failure} (hfree : ∀ d ∈ attributes, d.1 ∉ e.attributes.map Prod.fst) :
    Carries (withContext context (e.attributes ++ attributes)) e.attributes ∧
      Carries (withContext context (e.attributes ++ attributes)) attributes := by
  have hall : Carries (withContext context (e.attributes ++ attributes))
      (e.attributes ++ attributes) := carries_withContext context _
  refine ⟨fun k v hk => hall k v ?_, fun k v hk => hall k v ?_⟩
  · rw [Entries.get?_append, hk, Option.some_or]
  · have hnone : e.attributes.get? k = none := by
      refine Entries.get?_eq_none_iff.mpr fun d hd hname => ?_
      obtain ⟨a, ha, rfl⟩ := Entries.contains_eq_true_iff.mp (Option.isSome_of_eq_some hk)
      exact hfree a ha (List.mem_map.mpr ⟨d, hd, hname⟩)
    rw [Entries.get?_append, hnone, Option.none_or, hk]

theorem isTransparent_of_returned (hstart : logStart = true → Speakable attributes) {a : α}
    (hb : (body context).1 = .ok a) :
    IsTransparent name attributes logStart logEnd body context ↔
      (logEnd = true → Speakable attributes) := by
  by_cases hend : logEnd = true → Speakable attributes
  · refine iff_of_true ⟨?_, fun e he => ?_⟩ hend
    · rw [span_of_returned hstart hb, optional_of_speakable hend, hb]
      rfl
    · rw [hb] at he
      cases he
  · refine iff_of_false (fun ht => ?_) hend
    obtain ⟨rfl, hmute⟩ := Classical.not_imp.mp hend
    obtain ⟨f, hf⟩ := logNamed_of_clash (mt speakable_iff.mpr hmute) .info (name ++ "_completed")
    have hout := ht.outcome
    rw [span_of_returned hstart hb, if_pos rfl, hf, hb] at hout
    cases hout

theorem isTransparent_of_raised (hstart : logStart = true → Speakable attributes) {e : Failure}
    (hb : (body context).1 = .error e) :
    IsTransparent name attributes logStart logEnd body context ↔
      ∀ d ∈ attributes, d.1 ∉ parameterNames ∧ d.1 ∉ e.attributes.map Prod.fst := by
  by_cases hfree : ∀ d ∈ attributes, d.1 ∉ parameterNames ∧ d.1 ∉ e.attributes.map Prod.fst
  · refine iff_of_true ⟨?_, fun x hx => ?_⟩ hfree
    · rw [span_of_told hstart hb hfree, hb]
    · rw [hb] at hx
      obtain rfl := Except.error.inj hx
      rw [span_of_told hstart hb hfree]
      exact ⟨_, _, rfl, countP_tellsFailure_begun _ _, carries_told fun d hd => (hfree d hd).2⟩
  · obtain ⟨f, hf⟩ := span_of_untold name logEnd hstart hb hfree
    exact iff_of_false (not_isTransparent_of_untold hb hf (countP_tellsFailure_begun _ _)) hfree

theorem not_isTransparent_of_mute (hmute : ¬Speakable attributes) :
    ¬IsTransparent name attributes true logEnd body context := by
  obtain ⟨f, hf⟩ := span_of_mute hmute name logEnd body context
  intro ht
  cases hb : (body context).1 with
  | ok a =>
    have hout := ht.outcome
    rw [hf, hb] at hout
    cases hout
  | error e =>
    -- the failure might be one of the same text, but it is not told
    obtain ⟨before, fields, hevents, -⟩ := ht.told e hb
    rw [hf] at hevents
    have hlast := congrArg List.getLast? hevents
    rw [List.getLast?_concat] at hlast
    cases hlast

/-- A span is transparent to its body just if no attribute has a name that its log events need. -/
theorem isTransparent_iff (name : String) (attributes : Entries Value) (logStart logEnd : Bool)
    (body : Run α) (context : Entries Value) :
    IsTransparent name attributes logStart logEnd body context ↔
      ∀ d ∈ attributes, d.1 ∉ neededNames logStart logEnd (body context).1 := by
  by_cases hstart : logStart = true → Speakable attributes
  · cases hb : (body context).1 with
    | ok a =>
      rw [forall_neededNames_of_returned, and_iff_right hstart]
      exact isTransparent_of_returned hstart hb
    | error e =>
      rw [forall_neededNames_of_raised]
      exact isTransparent_of_raised hstart hb
  · obtain ⟨rfl, hmute⟩ := Classical.not_imp.mp hstart
    refine iff_of_false (not_isTransparent_of_mute hmute) fun hfree => hmute fun d hd hname => ?_
    refine hfree d hd ?_
    cases (body context).1 with
    | ok a => exact hname
    | error e => exact List.mem_append_left _ hname

end span

def absence : Failure := .emit (EmitError.load (.string "file:///a.ts") none)

theorem specifier_attribute_hides_failure :
    (fail absence : Run Unit).outcome = .error absence ∧
    (span "fetch" [logField "specifier" (.string "file:///a.ts")] true true
      (fail absence : Run Unit)).outcome = .error (.fault
        (.missingKey "'specifier'")) ∧
    ¬IsTransparent "fetch" [logField "specifier" (.string "file:///a.ts")] true true
      (fail absence : Run Unit) [] := by
  have hout : (span "fetch" [logField "specifier" (.string "file:///a.ts")] true true
      (fail absence : Run Unit)).outcome = .error (.fault
        (.missingKey "'specifier'")) := by
    rfl
  refine ⟨rfl, hout, fun h => ?_⟩
  have hsame : (span "fetch" [logField "specifier" (.string "file:///a.ts")] true true
      (fail absence : Run Unit)).outcome = .error absence := h.outcome
  rw [hout] at hsame
  cases hsame

end Run

end EmitBridge
