import EmitBridge.ImportMap.Serialized
import EmitBridge.Proofs.Check.Field
import EmitBridge.Proofs.Json.Spelling
import EmitBridge.Proofs.Location.Route
import EmitBridge.Proofs.Text.Utf8

/-! The JSON text of an import map is ASCII, and an import map file with this text has the sections
that the text was made from. -/

namespace EmitBridge

open HostNames.AsciiOnly

open Json

namespace ImportMap

/-- Specifiers that are all different, without surrogates that would be taken for one code point. -/
structure IsSection (s : Section) : Prop where
  names : (s.map Prod.fst).Nodup
  joined : ∀ e ∈ s, IsJoined e.1.points ∧ IsJoined e.2.points

structure AreScopes (s : Scopes) : Prop where
  names : (s.map Prod.fst).Nodup
  joined : ∀ e ∈ s, IsJoined e.1.points
  sections : ∀ e ∈ s, IsSection e.2

structure IsMapping (m : ImportMap) : Prop where
  imports : ∀ s ∈ m.imports, IsSection s
  scopes : ∀ s ∈ m.scopes, AreScopes s

theorem names_map {α β : Type} (f : α → β) (es : Entries α) :
    (es.map fun e => (e.1, f e.2)).map Prod.fst = es.map Prod.fst := by
  rw [List.map_map]
  rfl

theorem spells_section {s : Section} (h : IsSection s) (n : Nat) :
    Spells (n + 1) (jsonSection s) (jsonSection s).render := by
  refine spells_render_obj ((names_map Json.str s).symm ▸ h.names) fun e he => ?_
  obtain ⟨d, hd, rfl⟩ := List.mem_map.1 he
  obtain ⟨hname, htext⟩ := h.joined d hd
  exact ⟨hname, .str htext⟩

theorem spells_scopes {s : Scopes} (h : AreScopes s) (n : Nat) :
    Spells (n + 2) (jsonScopes s) (jsonScopes s).render := by
  refine spells_render_obj ((names_map jsonSection s).symm ▸ h.names) fun e he => ?_
  obtain ⟨d, hd, rfl⟩ := List.mem_map.1 he
  exact ⟨h.joined d hd, spells_section (h.sections d hd) n⟩

theorem mem_member {α : Type} {name : String} {json : α → Json} {part : Option α} {e : Text × Json}
    (h : e ∈ member name json part) :
    ∃ a ∈ part, e = (Text.ofString name, json a) := by
  obtain ⟨a, ha, rfl⟩ := List.mem_map.1 h
  exact ⟨a, Option.mem_toList.1 ha, rfl⟩

theorem isJoined_ofString (s : String) : IsJoined (Text.ofString s).points := by
  refine isJoined_of_noSurrogates fun p hp => ?_
  obtain ⟨c, _, rfl⟩ := List.mem_map.1 hp
  exact CodePoint.isSurrogate_ofChar c

theorem spells_document {m : ImportMap} (h : m.IsMapping) (n : Nat) :
    Spells (n + 3) (document m.imports m.scopes) (document m.imports m.scopes).render := by
  refine spells_render_obj ?_ fun e he => ?_
  · have hne : Text.ofString "imports" ≠ Text.ofString "scopes" := by decide
    cases m.imports <;> cases m.scopes <;> simp [member, hne]
  · rcases List.mem_append.1 he with he | he
    · obtain ⟨s, hs, rfl⟩ := mem_member he
      exact ⟨isJoined_ofString _, spells_section (h.imports s hs) (n + 1)⟩
    · obtain ⟨s, hs, rfl⟩ := mem_member he
      exact ⟨isJoined_ofString _, spells_scopes (h.scopes s hs) n⟩

theorem isAscii_section (s : Section) : IsAscii (jsonSection s).render := by
  refine isAscii_render_obj fun e he => ?_
  obtain ⟨d, _, rfl⟩ := List.mem_map.1 he
  exact isAscii_quoted d.2

theorem isAscii_scopes (s : Scopes) : IsAscii (jsonScopes s).render := by
  refine isAscii_render_obj fun e he => ?_
  obtain ⟨d, _, rfl⟩ := List.mem_map.1 he
  exact isAscii_section d.2

theorem isAscii_document (imports : Option Section) (scopes : Option Scopes) :
    IsAscii (document imports scopes).render := by
  refine isAscii_render_obj fun e he => ?_
  rcases List.mem_append.1 he with he | he
  · obtain ⟨s, _, rfl⟩ := mem_member he
    exact isAscii_section s
  · obtain ⟨s, _, rfl⟩ := mem_member he
    exact isAscii_scopes s

end ImportMap

theorem Value.ofJsonMembers_map {α : Type} (json : α → Json) (es : Entries α) :
    Value.ofJsonMembers (es.map fun e => (e.1, json e.2)) =
      es.map fun e => (e.1, Value.ofJson (json e.2)) := by
  induction es with
  | nil => rfl
  | cons e es ih => rw [List.map_cons, Value.ofJsonMembers, ih, List.map_cons]

namespace Check

open ImportMap

theorem mapSection_jsonSection (s : Section) :
    mapSection (Value.ofJson (jsonSection s)) = .passed s := by
  have htext (t : Text) : text (Value.ofJson (.str t)) = .passed t := by
    rw [Value.ofJson]
    rfl
  rw [jsonSection, Value.ofJson, Value.ofJsonMembers_map]
  exact entries_map (f := fun t => Value.ofJson (.str t)) fun e _ => htext e.2

theorem scopes_jsonScopes (s : Scopes) :
    Check.scopes (Value.ofJson (jsonScopes s)) = .passed s := by
  rw [jsonScopes, Value.ofJson, Value.ofJsonMembers_map]
  exact entries_map (f := fun s => Value.ofJson (jsonSection s)) fun e _ =>
    mapSection_jsonSection e.2

theorem readImportMapDocument_document (imports : Option Section) (scopes : Option Scopes) :
    readImportMapDocument (Value.ofJsonMembers
      (member "imports" jsonSection imports ++ member "scopes" jsonScopes scopes)) =
      .passed ⟨imports, scopes⟩ := by
  have hsection (s : Section) : option mapSection (Value.ofJson (jsonSection s)) =
      .passed (some s) :=
    option_of_passed (by rw [jsonSection, Value.ofJson]; exact Value.noConfusion)
      (mapSection_jsonSection s)
  have hscopes (s : Scopes) : option Check.scopes (Value.ofJson (jsonScopes s)) =
      .passed (some s) :=
    option_of_passed (by rw [jsonScopes, Value.ofJson]; exact Value.noConfusion)
      (scopes_jsonScopes s)
  have himports : Field.imports.optional none (option mapSection) (Value.ofJsonMembers
      (member "imports" jsonSection imports ++ member "scopes" jsonScopes scopes)) =
      .passed imports := by
    cases imports with
    | none => cases scopes <;> exact optional_of_missing rfl rfl
    | some s => exact optional_of_get? rfl (hsection s)
  have hscopes : Field.scopes.optional none (option Check.scopes) (Value.ofJsonMembers
      (member "imports" jsonSection imports ++ member "scopes" jsonScopes scopes)) =
      .passed scopes := by
    cases scopes with
    | none => cases imports <;> exact optional_of_missing rfl rfl
    | some s => cases imports <;> exact optional_of_get? rfl (hscopes s)
  rw [readImportMapDocument, himports, hscopes]
  rfl

end Check

namespace ImportMapDocument

theorem parse_documentText {m : ImportMap} (h : m.IsMapping) (room : Nat) :
    parse (room + 3) (ImportMap.documentText m.imports m.scopes) = .ok ⟨m.imports, m.scopes⟩ := by
  have hparse := parse_of_spells (ImportMap.spells_document h room) areBlanks_nil
  rw [List.append_nil] at hparse
  rw [parse, ImportMap.documentText, Text.toChars?_ofChars, Option.getD_some, hparse]
  show ofJson (ImportMap.document m.imports m.scopes) = _
  rw [ImportMap.document, ofJson, Check.readImportMapDocument_document]

theorem read_toBytes (cs : List Char) :
    ∃ bs, (Content.text (Text.ofChars cs)).toBytes = .ok bs ∧
      ∀ room, read room (.bytes bs) = read room (.text (Text.ofChars cs)) := by
  refine ⟨Utf8.encodeChars cs, ?_, fun room => ?_⟩
  · rw [Content.toBytes, Utf8.encode, Text.toChars?_ofChars]
  · rw [read, read, Content.toText, Utf8.decode_encodeChars]
    rfl

end ImportMapDocument

namespace SerializedImportMap

theorem readSerializedImportMap_eq (base : String) (t : Text) :
    Check.readSerializedImportMap
      [(Text.ofString "base_url", .string base), (Text.ofString "json_string", .str t)] =
      (fun b => ⟨b, t⟩) <$> (Check.directoryText (.string base)).under "base_url" := by
  have hbase : Check.Field.baseUrl.required Check.directoryText
      [(Text.ofString "base_url", .string base), (Text.ofString "json_string", .str t)] =
      (Check.directoryText (.string base)).under "base_url" := rfl
  rw [Check.readSerializedImportMap, hbase]
  cases Check.directoryText (.string base) <;> rfl

theorem make_sections {base : Url} {s₀ : SerializedImportMap} (h : make base none none = .ok s₀)
    (imports : Option Section) (scopes : Option Scopes) :
    make base imports scopes = .ok ⟨s₀.baseUrl, ImportMap.documentText imports scopes⟩ := by
  rw [make] at h ⊢
  cases hbase : base.render.mapError Location.urlFailure with
  | error e =>
    rw [hbase] at h
    cases h
  | ok text =>
    rw [hbase] at h
    simp only [bind, Except.bind, readSerializedImportMap_eq] at h ⊢
    cases hread : (Check.directoryText (.string text)).under "base_url" with
    | refused vs =>
      rw [hread] at h
      cases h
    | passed b =>
      rw [hread] at h
      cases h
      rfl

theorem ofInline_sections [HostNames] {cwd : PosixPath} {m : ImportMap} {s₀ : SerializedImportMap}
    (h : ofInline cwd ⟨m.baseUrl, none, none⟩ = .ok s₀) :
    ofInline cwd m = .ok ⟨s₀.baseUrl, ImportMap.documentText m.imports m.scopes⟩ := by
  rw [ofInline] at h ⊢
  generalize Location.toUrl cwd none _ = base at h ⊢
  cases base with
  | error e => cases h
  | ok base => exact make_sections h m.imports m.scopes

/-- Serialization is lossless: with a base that has a text, every import map is serialized, in
ASCII, and the sections that are read from the result, as text or as bytes and wherever three levels
of JSON can be read, are those of the import map, in their order and missing where they are
missing. -/
theorem read_ofInline [HostNames] {cwd : PosixPath} {m : ImportMap} {s₀ : SerializedImportMap}
    (hm : m.IsMapping) (h : ofInline cwd ⟨m.baseUrl, none, none⟩ = .ok s₀) :
    ∃ s, ofInline cwd m = .ok s ∧ s.baseUrl = s₀.baseUrl ∧
      (∀ p ∈ s.jsonString.points, p.val < 0x80) ∧
      (∀ room, ImportMapDocument.read (room + 3) (.text s.jsonString) = .ok ⟨m.imports, m.scopes⟩) ∧
      ∃ bs, (Content.text s.jsonString).toBytes = .ok bs ∧
        ∀ room, ImportMapDocument.read (room + 3) (.bytes bs) = .ok ⟨m.imports, m.scopes⟩ := by
  have hread (room : Nat) : ImportMapDocument.read (room + 3)
      (.text (ImportMap.documentText m.imports m.scopes)) = .ok ⟨m.imports, m.scopes⟩ :=
    ImportMapDocument.parse_documentText hm room
  refine ⟨_, ofInline_sections h, rfl, fun p hp => ?_, hread, ?_⟩
  · obtain ⟨c, hc, rfl⟩ := List.mem_map.1 hp
    rw [CodePoint.ofChar_val]
    exact ImportMap.isAscii_document m.imports m.scopes c hc
  · obtain ⟨bs, hbs, hsame⟩ :=
      ImportMapDocument.read_toBytes (ImportMap.document m.imports m.scopes).render
    exact ⟨bs, hbs, fun room => (hsame _).trans (hread room)⟩

def escapesMap : ImportMap :=
  ⟨some (.url ⟨"file", "", "/srv/app", "", "", none⟩), none,
    some [("/a/", []), ("\"\\\n/😀", [("\u0000é", ""), ("", "\t\u2028")])]⟩

theorem read_ofInline_escapesMap : escapesMap.IsMapping ∧
    ofInline Location.workDirectory ⟨escapesMap.baseUrl, none, none⟩ =
      .ok ⟨"file:///srv/app/", "\x7b\x7d"⟩ ∧
    ∃ s, ofInline Location.workDirectory escapesMap = .ok s ∧ s.baseUrl = "file:///srv/app/" ∧
      ∀ room,
        ImportMapDocument.read (room + 3) (.text s.jsonString) = .ok ⟨none, escapesMap.scopes⟩ := by
  have hm : escapesMap.IsMapping := by
    constructor
    · rintro s ⟨⟩
    · rintro s ⟨⟩
      exact ⟨by decide, by decide, fun e he => by
        constructor
        · revert e
          decide
        · revert e
          decide⟩
  have h : ofInline Location.workDirectory ⟨escapesMap.baseUrl, none, none⟩ =
      .ok ⟨"file:///srv/app/", "\x7b\x7d"⟩ := Location.ok_of_toOption (by decide +kernel)
  obtain ⟨s, hs, hbase, _, hread, _⟩ := read_ofInline hm h
  exact ⟨hm, h, s, hs, hbase, hread⟩

end SerializedImportMap

end EmitBridge
