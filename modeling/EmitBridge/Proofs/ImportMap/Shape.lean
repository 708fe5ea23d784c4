import EmitBridge.Proofs.ImportMap.Failures
import EmitBridge.Proofs.Load.Normalized

/-! The documents that are taken as import maps, however deep they are nested. -/

namespace EmitBridge

open HostNames.AsciiOnly

open Json Run

theorem Value.get?_ofJsonMembers (ms : List (Text × Json)) (name : Text) :
    Entries.get? (Value.ofJsonMembers ms) name = (ms.lookup name).map Value.ofJson := by
  induction ms with
  | nil => rfl
  | cons m ms ih =>
    obtain ⟨n, v⟩ := m
    rw [Value.ofJsonMembers, Entries.get?_cons, ih, List.lookup_cons]
    by_cases h : name = n
    · simp [h]
    · have hne : (name == n) = false := beq_false_of_ne h
      simp [h, hne]

theorem Value.ofJson_eq_null_iff {v : Json} : Value.ofJson v = .null ↔ v = .null := by
  cases v <;> simp [Value.ofJson]

namespace Check

variable {α : Type} {check : Value → Checked α} {json : α → Json}

def Recovers (check : Value → Checked α) (json : α → Json) : Prop :=
  ∀ v a, check (Value.ofJson v) = .passed a ↔ v = json a

theorem recovers_text : Recovers text Json.str := by
  intro v t
  cases v with
  | str s =>
    have hread : text (Value.ofJson (.str s)) = .passed s := by
      rw [Value.ofJson]
      rfl
    rw [hread, Checked.passed.injEq, Json.str.injEq]
  | _ => simp [Value.ofJson, text, Value.text?, refuse]

theorem Recovers.dict (h : Recovers check json) :
    Recovers (Check.dict check) fun es : Entries α => .obj (es.map fun e => (e.1, json e.2)) := by
  intro v es
  cases v with
  | obj ms =>
    have hentries : List.Forall₂ (fun m e => m.1 = e.1 ∧ check m.2 = .passed e.2)
        (Value.ofJsonMembers ms) es ↔ ms = es.map fun e => (e.1, json e.2) := by
      induction ms generalizing es with
      | nil => cases es <;> simp [Value.ofJsonMembers]
      | cons m ms ih =>
        obtain ⟨name, v⟩ := m
        rw [Value.ofJsonMembers]
        cases es with
        | nil => simp
        | cons e es => simp [List.forall₂_cons, ih, h v, Prod.ext_iff]
    rw [Value.ofJson, dict_eq_passed_iff, Json.obj.injEq]
    simpa using hentries
  | _ => simp [Value.ofJson, Check.dict, refuse]

theorem recovers_section : Recovers mapSection ImportMap.jsonSection := recovers_text.dict

theorem recovers_scopes : Recovers Check.scopes ImportMap.jsonScopes := recovers_section.dict

end Check

namespace ImportMap

def HasPart {α : Type} (v : Json) (name : String) (json : α → Json) : Option α → Prop
  | none => ∀ u ∈ v.get? (Text.ofString name), u = .null
  | some a => v.get? (Text.ofString name) = some (json a)

/-- An object with the parts of an import map, each missing, null or an object of its kind; what
else there is does not count. -/
structure HasShape (v : Json) (d : ImportMapDocument) : Prop where
  isObject : ∃ ms, v = .obj ms
  imports : HasPart v "imports" jsonSection d.imports
  scopes : HasPart v "scopes" jsonScopes d.scopes

end ImportMap

namespace Check

open ImportMap

variable {α : Type} {check : Value → Checked α} {json : α → Json}

theorem hasPart_iff {f : Field} (hf : f.key = f.name) (h : Recovers check json)
    (hnull : ∀ a, json a ≠ .null) (ms : List (Text × Json)) (part : Option α) :
    f.optional none (option check) (Value.ofJsonMembers ms) = .passed part ↔
      HasPart (.obj ms) f.name json part := by
  have hget : Json.get? (Text.ofString f.name) (.obj ms) = ms.lookup (Text.ofString f.name) := rfl
  rw [optional_eq_passed_iff hf, Value.get?_ofJsonMembers]
  simp only [option_eq_passed_iff]
  cases hv : ms.lookup (Text.ofString f.name) with
  | none => cases part <;> simp [HasPart, hget, hv]
  | some v =>
    cases part with
    | none => simp [HasPart, hget, hv, Value.ofJson_eq_null_iff]
    | some a =>
      have hne : v = json a → v ≠ .null := by
        rintro rfl
        exact hnull a
      simpa [HasPart, hget, hv, Value.ofJson_eq_null_iff, h v] using hne

theorem readImportMapDocument_eq_passed_iff {ms : List (Text × Json)} {d : ImportMapDocument} :
    readImportMapDocument (Value.ofJsonMembers ms) = .passed d ↔ HasShape (.obj ms) d := by
  have himports := hasPart_iff (f := Field.imports) rfl recovers_section
    (fun _ => Json.noConfusion) ms
  have hscopes := hasPart_iff (f := Field.scopes) rfl recovers_scopes
    (fun _ => Json.noConfusion) ms
  rw [readImportMapDocument, Checked.seq_eq_passed_iff]
  simp only [Checked.map_eq_passed_iff, himports, hscopes]
  constructor
  · rintro ⟨_, scopes, ⟨imports, hi, rfl⟩, hs, rfl⟩
    exact ⟨⟨ms, rfl⟩, hi, hs⟩
  · rintro ⟨-, hi, hs⟩
    exact ⟨_, d.scopes, ⟨d.imports, hi, rfl⟩, hs, rfl⟩

end Check

namespace ImportMapDocument

open ImportMap

theorem ofJson_eq_ok_iff {v : Json} {d : ImportMapDocument} : ofJson v = .ok d ↔ HasShape v d := by
  by_cases h : ∃ ms, v = .obj ms
  · obtain ⟨ms, rfl⟩ := h
    rw [← Check.readImportMapDocument_eq_passed_iff, ofJson]
    split
    · next hread => rw [hread, Except.ok.injEq, Checked.passed.injEq]
    · next hread =>
      rw [hread]
      exact iff_of_false (by simp) (by simp)
  · have hrefused : ofJson v = .error .notAnObject := by
      cases v <;> first | exact absurd ⟨_, rfl⟩ h | rfl
    rw [hrefused]
    exact iff_of_false (by simp) fun hv => h hv.isObject

end ImportMapDocument

def Content.Holds (cs : List Char) : Content → Prop
  | .bytes bs => bs = Utf8.encodeChars cs
  | .text t => t = Text.ofChars cs

def ImportMapDocument.IsHeldBy (room : Nat) (d : ImportMapDocument) (content : Content) : Prop :=
  ∃ cs v, content.Holds cs ∧ IsDocument room cs v ∧ ImportMap.HasShape v d

namespace ImportMapDocument

variable {room : Nat}

theorem read_bytes_eq_ok_iff {bs : Bytes} {d : ImportMapDocument} :
    read room (.bytes bs) = .ok d ↔ d.IsHeldBy room (.bytes bs) := by
  have hparse (cs : List Char) : parse room (Text.ofChars cs) = .ok d ↔
      ∃ v, IsDocument room cs v ∧ ImportMap.HasShape v d := by
    simp only [← parse_eq_ok_iff, ← ofJson_eq_ok_iff]
    rw [parse, Text.toChars?_ofChars, Option.getD_some]
    cases Json.parse room cs <;> simp
  rw [read, Content.toText]
  constructor
  · intro h
    cases hbs : Utf8.decode bs with
    | error e =>
      rw [hbs] at h
      cases h
    | ok cs =>
      rw [hbs] at h
      obtain ⟨v, hv, hd⟩ := (hparse cs).mp h
      exact ⟨cs, v, Utf8.decode_eq_ok_iff.mp hbs, hv, hd⟩
  · rintro ⟨cs, v, hbs, hv, hd⟩
    rw [Utf8.decode_eq_ok_iff.mpr hbs]
    exact (hparse cs).mpr ⟨v, hv, hd⟩

theorem isHeldBy_iff_toBytes {content : Content} {d : ImportMapDocument} :
    d.IsHeldBy room content ↔ ∃ bs, content.toBytes = .ok bs ∧ d.IsHeldBy room (.bytes bs) := by
  cases content with
  | bytes bs => simp [Content.toBytes]
  | text t =>
    simp only [Content.toBytes, Utf8.encode_eq_ok_iff]
    constructor
    · rintro ⟨cs, v, ht, hv, hd⟩
      exact ⟨_, ⟨cs, ht, rfl⟩, cs, v, rfl, hv, hd⟩
    · rintro ⟨bs, ⟨cs, ht, hbs⟩, ds, v, hds, hv, hd⟩
      obtain rfl : cs = ds := Utf8.encodeChars_injective (hbs.symm.trans hds)
      exact ⟨cs, v, ht, hv, hd⟩

end ImportMapDocument

namespace ImportMap

variable {n : Nat}

theorem isSection_of_denotes {t : List Char} {s : Section} (h : Denotes n t (jsonSection s)) :
    IsSection s := by
  obtain ⟨hnodup, hmembers⟩ := h.members
  refine ⟨names_map Json.str s ▸ hnodup, fun e he => ?_⟩
  obtain ⟨hname, m, u, hu⟩ := hmembers _ (List.mem_map_of_mem he)
  exact ⟨hname, hu.isJoined⟩

theorem areScopes_of_denotes {t : List Char} {s : Scopes} (h : Denotes n t (jsonScopes s)) :
    AreScopes s := by
  obtain ⟨hnodup, hmembers⟩ := h.members
  refine ⟨names_map jsonSection s ▸ hnodup, fun e he => ?_, fun e he => ?_⟩
  · exact (hmembers _ (List.mem_map_of_mem he)).1
  · obtain ⟨-, m, u, hu⟩ := hmembers _ (List.mem_map_of_mem he)
    exact isSection_of_denotes hu

theorem HasPart.denotes {α : Type} {t : List Char} {v : Json} {name : String} {json : α → Json}
    {a : α} (ht : Denotes n t v) (h : HasPart v name json (some a)) :
    ∃ m u, Denotes m u (json a) := by
  cases v with
  | obj ms =>
    obtain ⟨before, after, rfl, -⟩ := List.lookup_eq_some_iff.mp h
    exact (ht.members.2 _ (List.mem_append_right before List.mem_cons_self)).2
  | _ => cases h

theorem isMapping_of_denotes {t : List Char} {v : Json} {d : ImportMapDocument} (ht : Denotes n t v)
    (h : HasShape v d) : IsMapping ⟨none, d.imports, d.scopes⟩ := by
  constructor
  · intro s hs
    have hpart : HasPart v "imports" jsonSection (some s) := by
      rw [← Option.mem_def.mp hs]
      exact h.imports
    obtain ⟨m, u, hu⟩ := hpart.denotes ht
    exact isSection_of_denotes hu
  · intro s hs
    have hpart : HasPart v "scopes" jsonScopes (some s) := by
      rw [← Option.mem_def.mp hs]
      exact h.scopes
    obtain ⟨m, u, hu⟩ := hpart.denotes ht
    exact areScopes_of_denotes hu

theorem isDocument_documentText {room : Nat} {content : Content} {d : ImportMapDocument}
    (h : d.IsHeldBy room content) (n : Nat) (v : Json) :
    IsDocument (n + 3) (document d.imports d.scopes).render v ↔
      v = document d.imports d.scopes := by
  obtain ⟨cs, u, -, ⟨b₁, t, b₂, -, -, -, ht⟩, hd⟩ := h
  have hspells := spells_document (isMapping_of_denotes ht hd) n
  have hread := parse_of_spells hspells areBlanks_nil
  rw [List.append_nil] at hread
  rw [← parse_eq_ok_iff, hread, Except.ok.injEq]
  exact eq_comm

end ImportMap

def Url.IsAbsolute [HostNames] (s : String) : Prop :=
  ∃ u a, Url.verbatim s = .ok u ∧ Location.supportedSchemes.contains u.scheme ∧
    Authority.read u.authority.toList = .ok a

theorem Url.IsAbsolute.hasDirectory [HostNames] {s : String} (h : IsAbsolute s) :
    HasDirectory s := by
  obtain ⟨u, a, hu, hscheme, ha⟩ := h
  refine ⟨u, hu, fun _ => ⟨⟨a, ha⟩, fun hempty => ?_⟩⟩
  rw [hempty] at hscheme
  exact absurd hscheme (by decide)

namespace SerializedImportMap

open LoadResponse ImportMap

variable {w : World} {b : Bridge} {setting location : Value} {specifier : String}
  {m : ModuleResponse}

def HandsBack [HostNames] (w : World) (b : Bridge) (setting : Value) (specifier : String)
    (m : ModuleResponse) : Prop :=
  ∃ r v, Bridge.accept (fileRequest setting specifier) = .ok r ∧ (b.ask w r).outcome = .ok v ∧
    Gives v (.module m)

theorem outcome_of_handsBack [HostNames] (h : HandsBack w b setting specifier m) :
    (b.load w (fileRequest setting specifier)).outcome = some <$> withBytes (.module m) := by
  obtain ⟨r, v, hr, hv, hm⟩ := h
  rw [Bridge.outcome_load_eq, hr]
  show (b.ask w r).outcome >>= normalized r.specifier = _
  rw [hv]
  show LoadResponse.ofValue r.specifier v >>= _ = _
  rw [ofValue_of_gives hm]
  rfl

theorem answers_of_handsBack [HostNames] (hs : specifierOf w location = .ok specifier)
    (h : HandsBack w b setting specifier m) {bs : Bytes} (hbs : m.content.toBytes = .ok bs) :
    Answers w b setting location { m with content := .bytes bs } := by
  refine ⟨specifier, hs, ?_⟩
  rw [outcome_of_handsBack h, withBytes, hbs]
  rfl

theorem outcome_load_of_held [HostNames] (hs : specifierOf w location = .ok specifier)
    (h : HandsBack w b setting specifier m) (hm : Url.IsAbsolute m.specifier)
    {d : ImportMapDocument} (hd : d.IsHeldBy w.nesting.importMap m.content) :
    ∃ base, (load w b setting location).outcome = .ok ⟨base, documentText d.imports d.scopes⟩ := by
  obtain ⟨bs, hbs, hd⟩ := ImportMapDocument.isHeldBy_iff_toBytes.mp hd
  have hanswer := answers_of_handsBack hs h hbs
  have hread := ImportMapDocument.read_bytes_eq_ok_iff.mpr hd
  obtain ⟨u, hu, -⟩ := id hm.hasDirectory
  obtain ⟨r, hr⟩ := (exists_make_iff hu d.imports d.scopes).mpr hm.hasDirectory
  obtain ⟨base, -, -, rfl⟩ := make_eq_ok_iff.mp hr
  exact ⟨_, (outcome_load_of_answer hanswer hread hu).trans hr⟩

theorem exists_isHeldBy_of_load [HostNames] (hs : specifierOf w location = .ok specifier)
    (h : HandsBack w b setting specifier m) {s : SerializedImportMap}
    (hok : (load w b setting location).outcome = .ok s) :
    ∃ d : ImportMapDocument, d.IsHeldBy w.nesting.importMap m.content := by
  rw [outcome_load_of_specifier hs, outcome_of_handsBack h] at hok
  obtain ⟨response, hresponse, hok⟩ := exists_of_bind_eq_ok hok
  obtain ⟨read, hread, -⟩ := exists_of_bind_eq_ok hok
  obtain ⟨r, hr, rfl⟩ := exists_of_map_eq_ok (mapError_eq_ok_iff.mp hresponse)
  rw [withBytes] at hr
  cases hbytes : m.content.toBytes with
  | error f =>
    rw [hbytes] at hr
    cases hr
  | ok bs =>
    rw [hbytes] at hr
    cases hr
    unfold ofResponse at hread
    cases hd : ImportMapDocument.read w.nesting.importMap (.bytes bs) with
    | ok d =>
      have hheld := ImportMapDocument.read_bytes_eq_ok_iff.mp hd
      exact ⟨d, ImportMapDocument.isHeldBy_iff_toBytes.mpr ⟨bs, hbytes, hheld⟩⟩
    | error e =>
      simp only [hd] at hread
      cases hread

def IsTooDeep (room : Nat) (content : Content) : Prop :=
  ∃ bs f, content.toBytes = .ok bs ∧ ImportMapDocument.read room (.bytes bs) = .error (.tooDeep f)

theorem outcome_load_of_not_held [HostNames] (hs : specifierOf w location = .ok specifier)
    (h : HandsBack w b setting specifier m) (hshallow : ¬IsTooDeep w.nesting.importMap m.content)
    (hd : ∀ d : ImportMapDocument, ¬d.IsHeldBy w.nesting.importMap m.content) :
    ∃ problem cause,
      (load w b setting location).outcome = .error (failure specifier problem cause) := by
  rw [outcome_load_of_specifier hs, outcome_of_handsBack h]
  cases hbytes : m.content.toBytes with
  | error f =>
    rw [withBytes, hbytes]
    exact ⟨_, _, rfl⟩
  | ok bs =>
    cases hread : ImportMapDocument.read w.nesting.importMap (.bytes bs) with
    | ok d =>
      have hheld := ImportMapDocument.read_bytes_eq_ok_iff.mp hread
      exact absurd (ImportMapDocument.isHeldBy_iff_toBytes.mpr ⟨bs, hbytes, hheld⟩) (hd d)
    | error r =>
      have htold : ∃ problem cause, r.toFailure specifier = failure specifier problem cause := by
        cases r with
        | tooDeep f => exact absurd ⟨bs, f, hbytes, hread⟩ hshallow
        | _ => exact ⟨_, _, rfl⟩
      obtain ⟨problem, cause, hfailure⟩ := htold
      have hrefused : ofResponse w.nesting.importMap specifier
          (some (.module { m with content := .bytes bs })) =
          .error (failure specifier problem cause) := by
        simp only [ofResponse, hread, hfailure]
      refine ⟨problem, cause, ?_⟩
      rw [withBytes, hbytes]
      show (ofResponse w.nesting.importMap specifier
        (some (.module { m with content := .bytes bs })) >>= _) = _
      rw [hrefused]
      rfl

/-- An import map file is loaded exactly if its content is a JSON text in UTF-8, nested no deeper
than it can be read, of an object with the parts of an import map. Any other content is refused
under its address, unless it is nested too deep. The text of what is loaded denotes one value only:
the object with the parts that are there. -/
theorem load_ok_iff_isHeldBy [HostNames] (hs : specifierOf w location = .ok specifier)
    (h : HandsBack w b setting specifier m) (hm : Url.IsAbsolute m.specifier) :
    ((∃ s, (load w b setting location).outcome = .ok s) ↔
      ∃ d : ImportMapDocument, d.IsHeldBy w.nesting.importMap m.content) ∧
    (¬IsTooDeep w.nesting.importMap m.content →
      ∀ e, (load w b setting location).outcome = .error e →
        ∃ problem cause, e = failure specifier problem cause) ∧
    ∀ d : ImportMapDocument, d.IsHeldBy w.nesting.importMap m.content → ∃ s cs,
      (load w b setting location).outcome = .ok s ∧ s.jsonString = Text.ofChars cs ∧
        ∀ n v, IsDocument (n + 3) cs v ↔ v = document d.imports d.scopes := by
  have hloads (d : ImportMapDocument) (hd : d.IsHeldBy w.nesting.importMap m.content) :
      ∃ s cs, (load w b setting location).outcome = .ok s ∧ s.jsonString = Text.ofChars cs ∧
        ∀ n v, IsDocument (n + 3) cs v ↔ v = document d.imports d.scopes := by
    obtain ⟨base, hload⟩ := outcome_load_of_held hs h hm hd
    exact ⟨_, _, hload, rfl, isDocument_documentText hd⟩
  refine ⟨⟨?_, ?_⟩, ?_, hloads⟩
  · rintro ⟨s, hok⟩
    exact exists_isHeldBy_of_load hs h hok
  · rintro ⟨d, hd⟩
    obtain ⟨s, -, hok, -⟩ := hloads d hd
    exact ⟨s, hok⟩
  · intro hshallow e herror
    by_cases hheld : ∃ d : ImportMapDocument, d.IsHeldBy w.nesting.importMap m.content
    · obtain ⟨d, hd⟩ := hheld
      obtain ⟨s, -, hok, -⟩ := hloads d hd
      rw [hok] at herror
      cases herror
    · obtain ⟨problem, cause, hfails⟩ :=
        outcome_load_of_not_held hs h hshallow fun d hd => hheld ⟨d, hd⟩
      rw [hfails] at herror
      exact ⟨problem, cause, (Except.error.inj herror).symm⟩

def printing (text : Text) : Bridge :=
  ⟨.function ⟨false, fun _ =>
    ⟨.ok (.response (.module ⟨"file:///m.json", none, .text text⟩)), 0⟩⟩⟩

theorem handsBack_printing [HostNames] (text : Text) :
    HandsBack w (printing text) .null specifier ⟨"file:///m.json", none, .text text⟩ :=
  ⟨⟨specifier, .bool false, none⟩, _, rfl, rfl, .record _⟩

def looseFile : Text :=
  " \x7b\"imports\": \x7b\"a\": \"b\", \"a\": \"\\u0063\"\x7d, \"scopes\": null, \"x\": [1e3]\x7d"

theorem looseFile_loaded : ∃ s cs,
    (load .bare (printing looseFile) .null (.string "https://h/m.json")).outcome = .ok s ∧
      s.jsonString = Text.ofChars cs ∧
      ∀ n v, IsDocument (n + 3) cs v ↔ v = .obj [("imports", .obj [("a", .str "c")])] := by
  have haddress : Url.IsAbsolute "file:///m.json" :=
    ⟨⟨"file", "", "/m.json", "", "", none⟩, ⟨none, none, none, none⟩,
      Location.ok_of_toOption (by decide +kernel), by decide,
      Location.ok_of_toOption (by decide +kernel)⟩
  let d : ImportMapDocument := ⟨some [("a", "c")], none⟩
  have hd : d.IsHeldBy World.bare.nesting.importMap (.text looseFile) := by
    refine ImportMapDocument.isHeldBy_iff_toBytes.mpr ⟨Utf8.encodeChars looseFile.toString.toList,
      Location.ok_of_toOption (by decide +kernel), ?_⟩
    exact ImportMapDocument.read_bytes_eq_ok_iff.mp (Location.ok_of_toOption (by decide +kernel))
  obtain ⟨-, -, hloads⟩ :=
    load_ok_iff_isHeldBy specifierOf_mapFile (handsBack_printing looseFile) haddress
  exact hloads d hd

end SerializedImportMap

end EmitBridge
