import EmitBridge.Load.Bridge
import EmitBridge.Proofs.Check.Field
import EmitBridge.Proofs.Load.Decision
import EmitBridge.Proofs.Text.Utf8

/-! What the bridge makes of the value that a loader hands back. -/

namespace EmitBridge

open HostNames.AsciiOnly

open Run Fetch

namespace Value

inductive Spells : Value → Text → Prop
  | text (t : Text) : Spells (.str t) t
  | choice {v : Value} {t : Text} : v.text? = some t → Spells v t
  | bytes (cs : List Char) : Spells (.bytes (Utf8.encodeChars cs)) (Text.ofChars cs)

end Value

inductive GivenLoader.Calls {α : Type} : GivenLoader α → LoaderFunction α → Prop
  | method {g : GivenLoader α} {f : LoaderFunction α} : g.member = .function f → Calls g f
  | itself {g : GivenLoader α} {f : LoaderFunction α} :
      (∀ f', g.member ≠ .function f') → g.own = some f → Calls g f

theorem GivenLoader.Calls.callee? {α : Type} {g : GivenLoader α} {f : LoaderFunction α}
    (h : g.Calls f) : (LoaderOf.custom g).callee? = some (.function f) := by
  obtain ⟨typeName, own, member⟩ := g
  cases h with
  | method hm =>
    cases hm
    rfl
  | itself hno ho =>
    cases ho
    cases member with
    | function f' => exact absurd rfl (hno f')
    | absent => rfl
    | other => rfl

inductive Content.Encodes : Content → Bytes → Prop
  | bytes (bs : Bytes) : Encodes (.bytes bs) bs
  | text (cs : List Char) : Encodes (.text (Text.ofChars cs)) (Utf8.encodeChars cs)

theorem Content.Encodes.toText {c : Content} {bs : Bytes} (h : c.Encodes bs) :
    (Content.bytes bs).toText = c.toText := by
  cases h with
  | bytes bs => rfl
  | text cs =>
    rw [Content.toText, Utf8.decode_encodeChars]
    rfl

namespace LoadResponse

def lowered (given : Section) : Section := Entries.ofList (given.map fun e => (e.1.lower, e.2))

theorem get?_lowered (given : Section) (name : Text) :
    (lowered given).get? name =
      (given.reverse.find? fun e => e.1.lower == name).map Prod.snd := by
  rw [lowered, Entries.get?_ofList, ← List.map_reverse]
  induction given.reverse with
  | nil => rfl
  | cons e es ih =>
    rw [List.map_cons, List.lookup_cons, List.find?_cons, BEq.comm (a := name)]
    cases e.1.lower == name with
    | true => rfl
    | false => exact ih

inductive GivesHeaders : Option Value → Option Section → Prop
  | absent : GivesHeaders none none
  | null : GivesHeaders (some .null) none
  | given {es : Entries Value} {hs : Section} :
      List.Forall₂ (fun e h => e.1 = h.1 ∧ e.2.Spells h.2) es hs →
      GivesHeaders (some (.dict es)) (some (lowered hs))

inductive GivesContent : Option Value → Content → Prop
  | bytes (bs : Bytes) : GivesContent (some (.bytes bs)) (.bytes bs)
  | text {v : Value} {t : Text} : v.text? = some t → GivesContent (some v) (.text t)

def GivesSpecifier (es : Entries Value) (s : String) : Prop :=
  s ≠ "" ∧ ∃ v, es.get? "specifier" = some v ∧ v.Spells (Text.ofString s)

inductive Describes (es : Entries Value) : LoadResponse → Prop
  | module {m : ModuleResponse} : es.get? "kind" = some (.string "module") →
      GivesSpecifier es m.specifier → GivesHeaders (es.get? "headers") m.headers →
      GivesContent (es.get? "content") m.content → Describes es (.module m)
  | external {s : String} : es.get? "kind" = some (.string "external") →
      GivesSpecifier es s → Describes es (.external s)
  | builtIn {s : String} : es.get? "kind" = some (.string "builtIn") →
      GivesSpecifier es s → Describes es (.builtIn s)

inductive Gives : Value → LoadResponse → Prop
  | record (r : LoadResponse) : Gives (.response r) r
  | mapping {es : Entries Value} {r : LoadResponse} : Describes es r → Gives (.dict es) r

inductive Normalizes : LoadResponse → LoadResponse → Prop
  | module {m : ModuleResponse} {bs : Bytes} : m.content.Encodes bs →
      Normalizes (.module m) (.module { m with content := .bytes bs })
  | external (s : String) : Normalizes (.external s) (.external s)
  | builtIn (s : String) : Normalizes (.builtIn s) (.builtIn s)

/-- The value stands for the answer: nothing for nothing, else a response for the one that it
gives. -/
def StandsFor (v : Value) : Option LoadResponse → Prop
  | none => v = .null
  | some a => ∃ r, Gives v r ∧ Normalizes r a

def HoldsSurrogate (v : Value) : Prop :=
  ∃ m t, Gives v (.module m) ∧ m.content = .text t ∧ t.hasSurrogate = true

end LoadResponse

namespace Check

open LoadResponse

variable {es : Entries Value}

theorem text_eq_passed_iff {v : Value} {t : Text} : text v = .passed t ↔ v.Spells t := by
  constructor
  · intro h
    unfold text at h
    split at h
    · next bs =>
      cases hbs : Utf8.decode bs with
      | error e => simp [hbs, refuse] at h
      | ok cs =>
        obtain rfl : Text.ofChars cs = t := by simpa [hbs, pure] using h
        rw [Utf8.decode_eq_ok_iff.mp hbs]
        exact .bytes cs
    · cases ht : v.text? with
      | none => simp [ht, refuse] at h
      | some u =>
        obtain rfl : u = t := by simpa [ht, pure] using h
        exact .choice ht
  · intro h
    cases h with
    | text t => rfl
    | choice ht =>
      unfold text
      split
      · cases ht
      · rw [ht]
        rfl
    | bytes cs =>
      rw [text, Utf8.decode_encodeChars]
      rfl

theorem toString?_eq_some_iff {t : Text} {s : String} :
    t.toString? = some s ↔ t = Text.ofString s := by
  rw [Text.toString?, Option.map_eq_some_iff]
  simp only [Text.toChars?_eq_some_iff]
  constructor
  · rintro ⟨cs, rfl, rfl⟩
    rw [Text.ofString, String.toList_ofList]
  · rintro rfl
    exact ⟨s.toList, rfl, String.ofList_toList⟩

theorem specifier_eq_passed_iff {v : Value} {s : String} :
    specifier v = .passed s ↔ s ≠ "" ∧ v.Spells (Text.ofString s) := by
  have hcharacters (u : String) : characters v = .passed u ↔ v.Spells (Text.ofString u) := by
    rw [characters, Checked.andThen_eq_passed_iff]
    simp only [text_eq_passed_iff]
    constructor
    · rintro ⟨t, ht, hu⟩
      cases hs : t.toString? with
      | none => simp [hs, refuse] at hu
      | some s' =>
        obtain rfl : s' = u := by simpa [hs, pure] using hu
        rwa [← toString?_eq_some_iff.mp hs]
    · intro h
      refine ⟨_, h, ?_⟩
      rw [toString?_eq_some_iff.mpr rfl]
      rfl
  rw [specifier, Checked.andThen_eq_passed_iff]
  simp only [hcharacters]
  constructor
  · rintro ⟨u, hu, h⟩
    split at h
    · cases h
    · next hne =>
      obtain rfl : u = s := Checked.passed.inj h
      exact ⟨by simpa using hne, hu⟩
  · rintro ⟨hne, h⟩
    refine ⟨s, h, ?_⟩
    rw [if_neg (by simpa using hne)]
    rfl

theorem lowerNames_eq (hs : Section) : lowerNames hs = lowered hs := by
  rw [lowerNames, lowered, Entries.ofList, List.foldl_map]

theorem headers_eq_passed_iff {v : Value} {hs : Option Section} :
    headers v = .passed hs ↔ GivesHeaders (some v) hs := by
  rw [headers, Checked.andThen_eq_passed_iff]
  simp only [option_eq_passed_iff, mapSection, dict_eq_passed_iff, text_eq_passed_iff]
  constructor
  · rintro ⟨given, hgiven, h⟩
    obtain rfl : given.map lowerNames = hs := Checked.passed.inj h
    rcases hgiven with ⟨rfl, rfl⟩ | ⟨-, as, ⟨es, rfl, has⟩, rfl⟩
    · exact .null
    · rw [Option.map_some, lowerNames_eq]
      exact .given has
  · intro h
    cases h with
    | null => exact ⟨none, .inl ⟨rfl, rfl⟩, rfl⟩
    | @given es hs has =>
      refine ⟨some hs, .inr ⟨Value.noConfusion, hs, ⟨es, rfl, has⟩, rfl⟩, ?_⟩
      rw [Option.map_some, lowerNames_eq]
      rfl

theorem content_eq_passed_iff {v : Value} {c : Content} :
    content v = .passed c ↔ GivesContent (some v) c := by
  constructor
  · intro h
    unfold content at h
    split at h
    · obtain rfl := Checked.passed.inj h
      exact .bytes _
    · split at h
      · next ht =>
        obtain rfl := Checked.passed.inj h
        exact .text ht
      · simp [refuse, Checked.under, Checked.orElse] at h
  · intro h
    cases h with
    | bytes bs => rfl
    | text ht =>
      unfold content
      split
      · cases ht
      · rw [ht]
        rfl

theorem givesSpecifier_iff {s : String} :
    Field.specifier.required specifier es = .passed s ↔ GivesSpecifier es s := by
  rw [required_eq_passed_iff rfl]
  simp only [specifier_eq_passed_iff]
  constructor
  · rintro ⟨v, hv, hne, hs⟩
    exact ⟨hne, v, hv, hs⟩
  · rintro ⟨hne, v, hv, hs⟩
    exact ⟨v, hv, hne, hs⟩

theorem givesHeaders_iff {hs : Option Section} :
    Field.headers.optional none headers es = .passed hs ↔ GivesHeaders (es.get? "headers") hs := by
  rw [optional_eq_passed_iff rfl]
  simp only [headers_eq_passed_iff]
  have hname : Entries.get? es Field.headers.name = es.get? "headers" := rfl
  rw [hname]
  cases es.get? "headers" with
  | none =>
    constructor
    · rintro (⟨-, rfl⟩ | ⟨v, hv, -⟩)
      · exact .absent
      · cases hv
    · intro h
      cases h
      exact .inl ⟨rfl, rfl⟩
  | some v => simp

theorem givesContent_iff {c : Content} :
    Field.content.required content es = .passed c ↔ GivesContent (es.get? "content") c := by
  rw [required_eq_passed_iff rfl]
  simp only [content_eq_passed_iff]
  have hname : Entries.get? es Field.content.name = es.get? "content" := rfl
  rw [hname]
  cases es.get? "content" with
  | none => exact iff_of_false (by simp) nofun
  | some v => simp

theorem kind_passes {kind : String} (h : es.get? "kind" = some (.string kind)) :
    Field.kind.optional () (literal kind) es = .passed () := by
  refine (optional_eq_passed_iff rfl).mpr (.inr ⟨_, h, ?_⟩)
  rw [Value.string, literal, if_pos (beq_self_eq_true _)]
  rfl

theorem readModuleResponse_eq_passed_iff
    (hkind : Field.kind.optional () (literal "module") es = .passed ()) {m : ModuleResponse} :
    readModuleResponse es = .passed m ↔ GivesSpecifier es m.specifier ∧
      GivesHeaders (es.get? "headers") m.headers ∧ GivesContent (es.get? "content") m.content := by
  rw [readModuleResponse, Checked.seq_eq_passed_iff]
  simp only [Checked.seq_eq_passed_iff, Checked.map_eq_passed_iff, hkind,
    givesSpecifier_iff, givesHeaders_iff, givesContent_iff]
  constructor
  · rintro ⟨_, c, ⟨_, hs, ⟨_, s, ⟨_, -, rfl⟩, hspecifier, rfl⟩, hheaders, rfl⟩, hcontent, rfl⟩
    exact ⟨hspecifier, hheaders, hcontent⟩
  · rintro ⟨hspecifier, hheaders, hcontent⟩
    exact ⟨_, _, ⟨_, _, ⟨_, _, ⟨(), trivial, rfl⟩, hspecifier, rfl⟩, hheaders, rfl⟩, hcontent, rfl⟩

theorem readNamed_eq_passed_iff {kind s : String} (h : es.get? "kind" = some (.string kind)) :
    readNamed kind es = .passed s ↔ GivesSpecifier es s := by
  rw [readNamed, Checked.seq_eq_passed_iff]
  simp only [Checked.map_eq_passed_iff, kind_passes h, givesSpecifier_iff]
  constructor
  · rintro ⟨_, s, ⟨_, -, rfl⟩, hspecifier, rfl⟩
    exact hspecifier
  · intro hspecifier
    exact ⟨_, s, ⟨(), trivial, rfl⟩, hspecifier, rfl⟩

theorem describes_of_loadResponse {r : LoadResponse} (h : loadResponse es = .passed r) :
    Describes es r := by
  unfold loadResponse at h
  split at h
  · simp [refuse] at h
  next v hkind =>
  split at h
  · next t =>
    split at h
    · next ht =>
      obtain rfl := beq_iff_eq.mp ht
      obtain ⟨m, hm, rfl⟩ := Checked.map_eq_passed h
      obtain ⟨hs, hh, hc⟩ := (readModuleResponse_eq_passed_iff (kind_passes hkind)).mp hm
      exact .module hkind hs hh hc
    split at h
    · next ht =>
      obtain rfl := beq_iff_eq.mp ht
      obtain ⟨s, hs, rfl⟩ := Checked.map_eq_passed h
      exact .external hkind ((readNamed_eq_passed_iff hkind).mp hs)
    split at h
    · next ht =>
      obtain rfl := beq_iff_eq.mp ht
      obtain ⟨s, hs, rfl⟩ := Checked.map_eq_passed h
      exact .builtIn hkind ((readNamed_eq_passed_iff hkind).mp hs)
    · simp [refuse] at h
  · simp [refuse] at h

theorem loadResponse_of_describes {r : LoadResponse} (h : Describes es r) :
    loadResponse es = .passed r := by
  cases h with
  | module hkind hs hh hc =>
    have hread := (readModuleResponse_eq_passed_iff (kind_passes hkind)).mpr ⟨hs, hh, hc⟩
    rw [loadResponse, hkind, Value.string]
    simp only [hread]
    rfl
  | external hkind hs =>
    have hread := (readNamed_eq_passed_iff hkind).mpr hs
    rw [loadResponse, hkind, Value.string]
    simp only [hread]
    rfl
  | builtIn hkind hs =>
    have hread := (readNamed_eq_passed_iff hkind).mpr hs
    rw [loadResponse, hkind, Value.string]
    simp only [hread]
    rfl

theorem loadResponse_eq_passed_iff {r : LoadResponse} :
    loadResponse es = .passed r ↔ Describes es r :=
  ⟨describes_of_loadResponse, loadResponse_of_describes⟩

end Check

namespace LoadResponse

theorem encodes_iff {c : Content} {bs : Bytes} : c.toBytes = .ok bs ↔ c.Encodes bs := by
  cases c with
  | bytes cs =>
    rw [Content.toBytes, Except.ok.injEq]
    constructor
    · rintro rfl
      exact .bytes _
    · intro h
      cases h
      rfl
  | text t =>
    rw [Content.toBytes, Utf8.encode_eq_ok_iff]
    constructor
    · rintro ⟨cs, rfl, rfl⟩
      exact .text cs
    · intro h
      cases h with
      | text cs => exact ⟨cs, rfl, rfl⟩

theorem withBytes_eq_ok_iff {r a : LoadResponse} : withBytes r = .ok a ↔ Normalizes r a := by
  cases r with
  | module m =>
    rw [withBytes]
    cases hbs : m.content.toBytes with
    | ok bs =>
      simp only [Except.ok.injEq]
      constructor
      · rintro rfl
        exact .module (encodes_iff.mp hbs)
      · intro h
        cases h with
        | module h =>
          rw [← encodes_iff, hbs] at h
          rw [Except.ok.inj h]
    | error e =>
      refine iff_of_false (by simp) fun h => ?_
      cases h with
      | module h =>
        rw [← encodes_iff, hbs] at h
        cases h
  | external s =>
    constructor
    · rintro ⟨⟩
      exact .external s
    · rintro ⟨⟩
      rfl
  | builtIn s =>
    constructor
    · rintro ⟨⟩
      exact .builtIn s
    · rintro ⟨⟩
      rfl

theorem withBytes_eq_error {r : LoadResponse} {e : Failure} (h : withBytes r = .error e) :
    ∃ m t f, r = .module m ∧ m.content = .text t ∧ t.hasSurrogate = true ∧
      e = .fault (.surrogates f) := by
  cases r with
  | external s | builtIn s => cases h
  | module m =>
    rw [withBytes] at h
    cases hc : m.content with
    | bytes bs =>
      rw [hc] at h
      cases h
    | text t =>
      cases hbs : Utf8.encode t with
      | ok bs => simp [hc, Content.toBytes, hbs] at h
      | error f =>
        obtain rfl : .fault (.surrogates f) = e := by simpa [hc, Content.toBytes, hbs] using h
        refine ⟨m, t, f, rfl, hc, ?_, rfl⟩
        by_contra ht
        obtain ⟨cs, rfl⟩ := Text.exists_ofChars (Bool.eq_false_iff.mpr ht)
        rw [Utf8.encode_eq_ok_iff.mpr ⟨cs, rfl, rfl⟩] at hbs
        cases hbs

theorem ofValue_of_gives {v : Value} {r : LoadResponse} (h : Gives v r) (specifier : String) :
    ofValue specifier v = .ok (some r) := by
  cases h with
  | record => rfl
  | mapping h => rw [ofValue, Check.loadResponse_eq_passed_iff.mpr h]

theorem ofValue_cases (specifier : String) (v : Value) :
    v = .null ∧ ofValue specifier v = .ok none ∨
      (∃ r, Gives v r ∧ ofValue specifier v = .ok (some r)) ∨
      v ≠ .null ∧ (∀ r, ¬Gives v r) ∧ IsRefused specifier (ofValue specifier v) := by
  by_cases hv : ∃ r, Gives v r
  · obtain ⟨r, hr⟩ := hv
    exact .inr (.inl ⟨r, hr, ofValue_of_gives hr specifier⟩)
  have hnone (r : LoadResponse) : ¬Gives v r := fun hr => hv ⟨r, hr⟩
  cases v with
  | null => exact .inl ⟨rfl, rfl⟩
  | response r => exact absurd (.record r) (hnone r)
  | dict es =>
    refine .inr (.inr ⟨Value.noConfusion, hnone, ?_⟩)
    cases hread : Check.loadResponse es with
    | passed r => exact absurd (.mapping (Check.loadResponse_eq_passed_iff.mp hread)) (hnone r)
    | refused vs =>
      rw [ofValue, hread]
      exact ⟨_, rfl, rfl, rfl⟩
  | _ => exact .inr (.inr ⟨Value.noConfusion, hnone, _, rfl, rfl, rfl⟩)

def normalized (specifier : String) (v : Value) : Except Failure (Option LoadResponse) :=
  ofValue specifier v >>= fun response => response.mapM withBytes

theorem not_gives_null (r : LoadResponse) : ¬Gives .null r := nofun

theorem gives_iff_eq {v : Value} {r r' : LoadResponse} (h : Gives v r) : Gives v r' ↔ r' = r := by
  refine ⟨fun h' => ?_, fun he => he ▸ h⟩
  have hsame := (ofValue_of_gives h' "").symm.trans (ofValue_of_gives h "")
  exact Option.some.inj (Except.ok.inj hsame)

theorem normalized_of_gives {v : Value} {r : LoadResponse} (h : Gives v r) (specifier : String) :
    normalized specifier v = some <$> withBytes r := by
  rw [normalized, ofValue_of_gives h]
  rfl

theorem map_some_eq_ok_iff {x : Except Failure LoadResponse} {a : Option LoadResponse} :
    some <$> x = .ok a ↔ ∃ b, a = some b ∧ x = .ok b := by
  constructor
  · intro h
    obtain ⟨b, hb, he⟩ := exists_of_map_eq_ok h
    exact ⟨b, he.symm, hb⟩
  · rintro ⟨b, rfl, rfl⟩
    rfl

theorem normalized_eq_ok_iff_of_gives {v : Value} {r : LoadResponse} (h : Gives v r)
    {specifier : String} {a : Option LoadResponse} :
    normalized specifier v = .ok a ↔ StandsFor v a := by
  rw [normalized_of_gives h, map_some_eq_ok_iff]
  cases a with
  | none =>
    refine iff_of_false nofun fun hnull => not_gives_null r ?_
    exact (show v = .null from hnull) ▸ h
  | some a =>
    simp only [StandsFor, gives_iff_eq h, exists_eq_left, Option.some.injEq, exists_eq_left',
      withBytes_eq_ok_iff]

theorem normalized_eq_ok_iff {specifier : String} {v : Value} {a : Option LoadResponse} :
    normalized specifier v = .ok a ↔ StandsFor v a := by
  rcases ofValue_cases specifier v with ⟨rfl, -⟩ | ⟨r, hr, -⟩ | ⟨hnull, hnone, e, hv, -⟩
  · have hread : normalized specifier .null = .ok none := rfl
    rw [hread, Except.ok.injEq]
    cases a with
    | none => exact iff_of_true rfl rfl
    | some a => exact iff_of_false nofun fun ⟨r, hr, _⟩ => not_gives_null r hr
  · exact normalized_eq_ok_iff_of_gives hr
  · have hread : normalized specifier v = .error (.emit e) := by
      rw [normalized, hv]
      rfl
    rw [hread]
    cases a with
    | none => exact iff_of_false nofun hnull
    | some a => exact iff_of_false nofun fun ⟨r, hr, _⟩ => hnone r hr

end LoadResponse

namespace Bridge

open LoadResponse

theorem outcome_answer (r : LoadRequest Value) (v : Value) :
    (answer r v).outcome = normalized r.specifier v := by
  simp only [answer, outcome_bind, outcome_ofExcept, outcome_log, outcome_pure, normalized]
  cases LoadResponse.ofValue r.specifier v with
  | error e => rfl
  | ok response =>
    cases h : response.mapM withBytes <;> simp [bind, Except.bind, h]

theorem outcome_load_eq [HostNames] (w : World) (b : Bridge) (r : BridgeRequest) :
    (load w b r).outcome = accept r >>= fun lr =>
      (ask w b lr).outcome >>= normalized lr.specifier := by
  have hfirst : (load w b r).outcome = (Run.ofExcept (accept r) >>= fun lr =>
      ask w b lr >>= answer lr).outcome := by
    rw [load, outcome_bind, outcome_record]
    rfl
  rw [hfirst, outcome_bind, outcome_ofExcept]
  simp only [outcome_bind, outcome_answer]

theorem outcome_ask_function [HostNames] (w : World) (f : LoaderFunction Value)
    (r : LoadRequest Value) :
    (ask w ⟨.function f⟩ r).outcome =
      (f.respond ⟨r.specifier, r.isDynamic.isTruthy, r.cacheSetting⟩).outcome := by
  simp only [ask, outcome_bind, outcome_record, outcome_ofExcept]
  rfl

def requested [HostNames] (w : World) (loader : Value) (r : BridgeRequest) :
    Except Failure (Option LoadResponse) :=
  ofValue loader >>= fun b => (load w b r).outcome

variable {w : World} {g : GivenLoader Value} {f : LoaderFunction Value} {r : BridgeRequest}
  {setting : Option CacheSetting} {v : Value}

theorem requested_of_calls [HostNames] (hg : g.Calls f) (w : World) (r : BridgeRequest) :
    requested w (.loader (.custom g)) r = (load w ⟨.function f⟩ r).outcome := by
  have hcallee : (LoaderOf.custom g).callee? = some (.function f) := hg.callee?
  have hbridge : ofValue (.loader (.custom g)) = .ok ⟨.function f⟩ := by
    rw [ofValue, Value.callee?, hcallee]
  rw [requested, hbridge]
  rfl

theorem outcome_load_of_function [HostNames] (hs : settingOf r.cacheSetting = .ok setting)
    (hv : (f.respond ⟨r.specifier, r.isDynamic.isTruthy, setting⟩).outcome = .ok v) :
    (load w ⟨.function f⟩ r).outcome = normalized r.specifier v := by
  have haccept : accept r = .ok ⟨r.specifier, r.isDynamic, setting⟩ := by
    rw [accept, hs]
    rfl
  rw [outcome_load_eq, haccept]
  show (ask w ⟨.function f⟩ ⟨r.specifier, r.isDynamic, setting⟩).outcome >>= _ = _
  rw [outcome_ask_function, hv]
  rfl

theorem isRefused_normalized_iff {specifier : String} (h : ∀ a, ¬StandsFor v a) :
    IsRefused specifier (normalized specifier v) ↔ ¬HoldsSurrogate v := by
  rcases ofValue_cases specifier v with ⟨rfl, -⟩ | ⟨r, hr, hv⟩ | ⟨-, hnone, hrefused⟩
  · exact absurd rfl (h none)
  · cases hbytes : withBytes r with
    | ok a => exact absurd ⟨r, hr, withBytes_eq_ok_iff.mp hbytes⟩ (h (some a))
    | error e =>
      obtain ⟨m, t, f, rfl, hc, ht, rfl⟩ := withBytes_eq_error hbytes
      have hread : normalized specifier v = .error (.fault (.surrogates f)) := by
        rw [normalized, hv]
        show some <$> withBytes (.module m) = _
        rw [hbytes]
        rfl
      rw [hread]
      refine iff_of_false ?_ fun hno => hno ⟨m, t, hr, hc, ht⟩
      rintro ⟨err, herr, -⟩
      cases herr
  · obtain ⟨e, he, hkind⟩ := hrefused
    refine iff_of_true ⟨e, ?_, hkind⟩ fun ⟨m, t, hm, _⟩ => hnone _ hm
    rw [normalized, he]
    rfl

/-- A loader's value is answered with what it stands for. Where it stands for nothing, the failure
names the request, unless the value is a module whose text has no bytes. A module that is answered
has bytes, which read as its content did. Whether the loader is a function or has one under `load`,
and whether that is asynchronous, does not count. -/
theorem load_normalizes [HostNames] (w : World) (hg : g.Calls f)
    (hs : settingOf r.cacheSetting = .ok setting)
    (hv : (f.respond ⟨r.specifier, r.isDynamic.isTruthy, setting⟩).outcome = .ok v) :
    (∀ a, requested w (.loader (.custom g)) r = .ok a ↔ StandsFor v a) ∧
    ((∀ a, ¬StandsFor v a) →
      (IsRefused r.specifier (requested w (.loader (.custom g)) r) ↔ ¬HoldsSurrogate v)) ∧
    (∀ m, StandsFor v (some (.module m)) → ∃ m' bs, Gives v (.module m') ∧
      m.content = .bytes bs ∧ m.content.toText = m'.content.toText) ∧
    ∀ w' g' f', GivenLoader.Calls g' f' → f'.respond = f.respond →
      requested w' (.loader (.custom g')) r = requested w (.loader (.custom g)) r := by
  have hload {w : World} {g : GivenLoader Value} {f' : LoaderFunction Value} (hg : g.Calls f')
      (hsame : f'.respond = f.respond) :
      requested w (.loader (.custom g)) r = normalized r.specifier v := by
    rw [requested_of_calls hg]
    exact outcome_load_of_function hs (hsame ▸ hv)
  refine ⟨fun a => ?_, fun h => ?_, ?_, fun w' g' f' hg' hsame => ?_⟩
  · rw [hload hg rfl]
    exact normalized_eq_ok_iff
  · rw [hload hg rfl]
    exact isRefused_normalized_iff h
  · rintro m ⟨r, hr, hm⟩
    cases hm with
    | @module m' bs hbs => exact ⟨m', bs, hr, rfl, hbs.toText⟩
  · rw [hload hg' hsame, hload hg rfl]

def handing (es : Entries Value) : GivenLoader Value :=
  ⟨"SimpleNamespace", none, .function ⟨false, fun _ => ⟨.ok (.dict es), 0⟩⟩⟩

def greeting : Entries Value :=
  [("kind", .string "module"), ("specifier", .string "x"), ("size", .int 1),
    ("headers", .dict [("ETag", .string "1"), ("etag", .string "2")]), ("content", .string "é")]

theorem greeting_normalized :
    requested .bare (.loader (.custom (handing greeting))) ⟨"file:///a.ts", .bool false, .null⟩ =
      .ok (some (.module ⟨"x", some [("etag", "2")], .bytes [0xC3, 0xA9]⟩)) := by
  have hcalls : (handing greeting).Calls ⟨false, fun _ => ⟨.ok (.dict greeting), 0⟩⟩ := .method rfl
  obtain ⟨hload, -⟩ := load_normalizes (r := ⟨"file:///a.ts", .bool false, .null⟩) .bare hcalls rfl
    rfl
  let headers : Section := [("etag", "2")]
  have hlowered : lowered [("ETag", "1"), ("etag", "2")] = headers := by decide +kernel
  have hheaders : GivesHeaders (greeting.get? "headers") (some headers) := by
    rw [← hlowered]
    exact .given (.cons ⟨rfl, .text _⟩ (.cons ⟨rfl, .text _⟩ .nil))
  have hmodule : Describes greeting
      (.module ⟨"x", some headers, .text (Text.ofChars ['é'])⟩) :=
    .module rfl ⟨by decide, _, rfl, .text _⟩ hheaders (.text rfl)
  exact (hload _).mpr ⟨_, .mapping hmodule, .module (.text ['é'])⟩

def surrogateModule : Entries Value :=
  [("kind", .string "module"), ("specifier", .string "x"),
    ("content", .str ⟨[CodePoint.ofNat 0xD800]⟩)]

theorem surrogate_not_refused :
    (∀ a, ¬StandsFor (.dict surrogateModule) a) ∧
    requested .bare (.loader (.custom (handing surrogateModule))) ⟨"x", .bool false, .null⟩ =
        .error (.fault (.surrogates ⟨CodePoint.ofNat 0xD800, 0, 1⟩)) ∧
      ¬IsRefused "x" (requested .bare (.loader (.custom (handing surrogateModule)))
        ⟨"x", .bool false, .null⟩) := by
  have hfails : normalized "x" (.dict surrogateModule) =
      .error (.fault (.surrogates ⟨CodePoint.ofNat 0xD800, 0, 1⟩)) := rfl
  have hload : requested .bare (.loader (.custom (handing surrogateModule)))
      ⟨"x", .bool false, .null⟩ = normalized "x" (.dict surrogateModule) := by
    rw [requested_of_calls (.method rfl)]
    exact outcome_load_of_function rfl rfl
  refine ⟨fun a ha => ?_, hload.trans hfails, ?_⟩
  · have hok : normalized "x" (.dict surrogateModule) = .ok a := normalized_eq_ok_iff.mpr ha
    rw [hfails] at hok
    cases hok
  · rw [hload, hfails]
    rintro ⟨e, he, -⟩
    cases he

end Bridge

end EmitBridge
