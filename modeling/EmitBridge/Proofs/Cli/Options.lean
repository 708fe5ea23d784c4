import EmitBridge.Cli.Command
import EmitBridge.Proofs.Options.Call

/-! Options of a call from the command line. Compiler options are put together key by key, and a
call reads the import map sources and the compiler options that are put together for it. -/

namespace EmitBridge

open Run Check

namespace EmitFlags

variable {f : EmitFlags}

def turnsOn (f : EmitFlags) (key : Text) : Bool :=
  f.sourceMap && key == Text.ofString "sourceMap" ||
    f.inlineSourceMap && key == Text.ofString "inlineSourceMap" ||
    f.inlineSources && key == Text.ofString "inlineSources"

def turned (isOn : Bool) (name : String) (es : Entries Value) : Entries Value :=
  if isOn then es.put (Text.ofString name) (.bool true) else es

theorem compilerOptions_eq (f : EmitFlags) (es : Entries Value) :
    f.compilerOptions es = turned f.inlineSources "inlineSources"
      (turned f.inlineSourceMap "inlineSourceMap" (turned f.sourceMap "sourceMap" es)) := rfl

theorem get?_turned (isOn : Bool) (name : String) (es : Entries Value) (key : Text) :
    (turned isOn name es).get? key =
      if isOn && key == Text.ofString name then some (.bool true) else es.get? key := by
  cases isOn with
  | false => rfl
  | true =>
    rw [turned, if_pos rfl, Entries.get?_put]
    simp only [Bool.true_and, beq_iff_eq]

theorem filter_turned {p : Text → Bool} {isOn : Bool} {name : String}
    (h : isOn = true → p (Text.ofString name) = false) (es : Entries Value) :
    (turned isOn name es).filter (fun e => p e.1) = es.filter fun e => p e.1 := by
  cases isOn with
  | false => rfl
  | true => exact Entries.filter_put (h rfl) _ es

theorem get?_compilerOptions (f : EmitFlags) (es : Entries Value) (key : Text) :
    (f.compilerOptions es).get? key =
      if f.turnsOn key then some (.bool true) else es.get? key := by
  rw [compilerOptions_eq, get?_turned, get?_turned, get?_turned, turnsOn]
  cases f.sourceMap && key == Text.ofString "sourceMap" <;>
    cases f.inlineSourceMap && key == Text.ofString "inlineSourceMap" <;>
    cases f.inlineSources && key == Text.ofString "inlineSources" <;> rfl

theorem filter_compilerOptions (f : EmitFlags) (es : Entries Value) :
    (f.compilerOptions es).filter (fun e => !f.turnsOn e.1) =
      es.filter fun e => !f.turnsOn e.1 := by
  have hkept {isOn : Bool} {name : String} (h : isOn = true → f.turnsOn (Text.ofString name) = true)
      (ds : Entries Value) : (turned isOn name ds).filter (fun e => !f.turnsOn e.1) =
        ds.filter fun e => !f.turnsOn e.1 :=
    filter_turned (p := fun key => !f.turnsOn key) (fun hon => by simp [h hon]) ds
  rw [compilerOptions_eq, hkept, hkept, hkept]
  · intro h
    simp [turnsOn, h]
  · intro h
    simp [turnsOn, h]
  · intro h
    simp [turnsOn, h]

end EmitFlags

namespace ConfigFile

def sourceNames : List String := ["imports", "scopes", "import_map"]

theorem name_of_mem_sources {c : ConfigFile Value} {named : Option Url} {e : Text × Value}
    (he : e ∈ c.sources named) : e.1 ∈ sourceNames.map Text.ofString := by
  simp only [sources, List.mem_append, Option.mem_toList, Option.map_eq_some_iff] at he
  rcases he with (⟨s, -, rfl⟩ | ⟨s, -, rfl⟩) | ⟨u, -, rfl⟩
  · exact List.mem_map_of_mem (by decide)
  · exact List.mem_map_of_mem (by decide)
  · exact List.mem_map_of_mem (by decide)

theorem get?_sources (c : ConfigFile Value) (named : Option Url) :
    (c.sources named).get? "imports" = c.imports.map Value.ofSection ∧
      (c.sources named).get? "scopes" = c.scopes.map Value.ofScopes ∧
      (c.sources named).get? "import_map" = named.map Value.url := by
  have hone {α : Type} (x : Option α) (g : α → Value) (name : String) (key : Text) :
      Entries.get? (x.map fun a => Members.field name (g a)).toList key =
        if key = Text.ofString name then x.map g else none := by
    cases x with
    | none => exact (ite_self none).symm
    | some a => exact Entries.get?_cons (Text.ofString name) (g a) [] key
  refine ⟨?_, ?_, ?_⟩ <;>
    simp [sources, Entries.get?_append, hone, Text.ofString_injective.eq_iff]

end ConfigFile

namespace CommandLine

def compilerEntry (compiler : Entries Value) : Entries Value :=
  if compiler.isEmpty then [] else [Members.field "compiler_options" (.dict compiler)]

def otherOptions (f : EmitFlags) (shape : Option BundleShape) : Entries Value :=
  (if f.noRemote then [Members.field "allow_remote" (.bool false)] else [])
    ++ (f.cacheRoot.map fun p => Members.field "cache_root" (.path (.posix p))).toList
    ++ (f.cacheSetting.map fun s => Members.field "cache_setting" (.string s)).toList
    ++ match shape with
      | some s =>
        [Members.field "type" (.string s.type.text), Members.field "minify" (.bool s.minify)]
      | none => []

def otherNames : List String := ["allow_remote", "cache_root", "cache_setting", "type", "minify"]

def callEntries (f : EmitFlags) (shape : Option BundleShape) (sources compiler : Entries Value) :
    Entries Value :=
  f.importMapEntries sources ++ (compilerEntry compiler ++ otherOptions f shape)

theorem callOptions_assemble (f : EmitFlags) (shape : Option BundleShape)
    (configured sources : Entries Value) :
    callOptions shape (f.assemble configured sources) =
      .dict (callEntries f shape sources (f.compilerOptions configured)) := by
  cases shape with
  | none => simp only [callOptions, EmitFlags.assemble, callEntries, compilerEntry, otherOptions,
      List.append_assoc, List.append_nil]
  | some s => simp only [callOptions, EmitFlags.assemble, callEntries, compilerEntry,
      otherOptions, List.append_assoc]

theorem name_of_mem_otherOptions {f : EmitFlags} {shape : Option BundleShape} {e : Text × Value}
    (he : e ∈ otherOptions f shape) : e.1 ∈ otherNames.map Text.ofString := by
  have hfield {name : String} (v : Value) (hn : name ∈ otherNames) :
      (Members.field name v).1 ∈ otherNames.map Text.ofString := List.mem_map_of_mem hn
  simp only [otherOptions, List.mem_append, Option.mem_toList, Option.map_eq_some_iff] at he
  rcases he with ((he | ⟨p, -, rfl⟩) | ⟨s, -, rfl⟩) | he
  · split at he
    · rw [List.mem_singleton.mp he]
      exact hfield _ (by decide)
    · cases he
  · exact hfield _ (by decide)
  · exact hfield _ (by decide)
  · cases shape with
    | none => cases he
    | some s =>
      rcases List.mem_cons.mp he with he | he
      · rw [he]
        exact hfield _ (by decide)
      · rw [List.mem_singleton.mp he]
        exact hfield _ (by decide)

theorem get?_compilerEntry (compiler : Entries Value) (key : Text) :
    (compilerEntry compiler).get? key =
      if compiler ≠ [] ∧ key = Text.ofString "compiler_options" then some (.dict compiler)
      else none := by
  cases compiler with
  | nil => rfl
  | cons e es =>
    refine (Entries.get?_cons ..).trans (if_congr ?_ rfl rfl)
    exact ⟨fun h => ⟨List.cons_ne_nil e es, h⟩, And.right⟩

end CommandLine

namespace Check

theorem mapSection_ofSection (s : Section) : mapSection (Value.ofSection s) = .passed s :=
  entries_map (f := Value.str) fun _ _ => rfl

theorem scopes_ofScopes (s : Scopes) : Check.scopes (Value.ofScopes s) = .passed s :=
  entries_map (f := Value.ofSection) fun e _ => mapSection_ofSection e.2

theorem importMapSource_text (t : Text) : importMapSource (.str t) = .passed (.text t) := rfl

theorem importMapSource_url (u : Url) : importMapSource (.url u) = .passed (.url u) := rfl

end Check

namespace EmitFlags

variable {f : EmitFlags} {sources : Entries Value}

theorem name_of_mem_importMapEntries
    (h : ∀ e ∈ sources, e.1 ∈ ConfigFile.sourceNames.map Text.ofString) :
    ∀ e ∈ f.importMapEntries sources, e.1 ∈ ConfigFile.sourceNames.map Text.ofString := by
  intro e he
  unfold importMapEntries at he
  split at he
  · split at he
    · exact h e he
    · rw [List.mem_singleton.mp he]
      exact List.mem_map_of_mem (by decide)
  · exact h e he

variable {shape : Option BundleShape} {compiler : Entries Value} {o : EmitOptions Value}

theorem get?_of_sourceName {name : String} (hn : name ∉ CommandLine.otherNames)
    (hc : name ≠ "compiler_options") :
    (CommandLine.callEntries f shape sources compiler).get? name =
      (f.importMapEntries sources).get? name := by
  have hother : (CommandLine.otherOptions f shape).get? name = none :=
    Entries.get?_eq_none_of_names (fun _ he => CommandLine.name_of_mem_otherOptions he) hn
  have hcompiler : (CommandLine.compilerEntry compiler).get? name = none := by
    rw [CommandLine.get?_compilerEntry, if_neg]
    rintro ⟨-, heq⟩
    exact hc (Text.ofString_injective heq)
  rw [CommandLine.callEntries, Entries.get?_append, Entries.get?_append, hother, hcompiler,
    Option.or_none, Option.or_none]

section

variable (hnames : ∀ e ∈ sources, e.1 ∈ ConfigFile.sourceNames.map Text.ofString)

include hnames

theorem get?_eq_none_of_name {name : String} (hs : name ∉ ConfigFile.sourceNames)
    (hn : name ∉ CommandLine.otherNames) (hc : name ≠ "compiler_options") :
    (CommandLine.callEntries f shape sources compiler).get? name = none := by
  rw [get?_of_sourceName hn hc]
  exact Entries.get?_eq_none_of_names (name_of_mem_importMapEntries hnames) hs

theorem get?_of_compilerName :
    (CommandLine.callEntries f shape sources compiler).get? "compiler_options" =
      if compiler ≠ [] then some (.dict compiler) else none := by
  have hother : (CommandLine.otherOptions f shape).get? "compiler_options" = none :=
    Entries.get?_eq_none_of_names (fun _ he => CommandLine.name_of_mem_otherOptions he) (by decide)
  have hsource : (f.importMapEntries sources).get? "compiler_options" = none :=
    Entries.get?_eq_none_of_names (name_of_mem_importMapEntries hnames) (by decide)
  rw [CommandLine.callEntries, Entries.get?_append, Entries.get?_append, hother, hsource,
    Option.or_none, Option.none_or, CommandLine.get?_compilerEntry]
  exact if_congr (and_iff_left rfl) rfl rfl

end

structure Supplies (entries : Entries Value) (imports : Option Section) (scopes : Option Scopes)
    (source : Option ImportMapSource) : Prop where
  imports : entries.get? "imports" = imports.map Value.ofSection
  scopes : entries.get? "scopes" = scopes.map Value.ofScopes
  importMap : entries.get? "import_map" = source.map Value.ofImportMapSource
  isRead : ∀ x ∈ source, Value.ofImportMapSource x ≠ .null ∧
    importMapSource (Value.ofImportMapSource x) = .passed x

theorem read_sources
    (ho : readEmitOptions (CommandLine.callEntries f shape sources compiler) = .passed o)
    (hnames : ∀ e ∈ sources, e.1 ∈ ConfigFile.sourceNames.map Text.ofString)
    {imports : Option Section} {scopes : Option Scopes} {source : Option ImportMapSource}
    (hsupplies : Supplies (f.importMapEntries sources) imports scopes source) :
    o.importMap = source ∧ o.imports = imports ∧ o.scopes = scopes := by
  obtain ⟨hi, hs, hx, hread⟩ := hsupplies
  obtain ⟨hmap, himports, hscopes, -⟩ := readEmitOptions_eq_passed_iff.mp ho
  have hkey : (CommandLine.callEntries f shape sources compiler).get? "importMap" = none :=
    get?_eq_none_of_name hnames (by decide) (by decide) (by decide)
  rw [← get?_of_sourceName (by decide) (by decide)] at hi hs hx
  have hsections (s : Section) : Value.ofSection s ≠ .null ∧
      mapSection (Value.ofSection s) = .passed s := ⟨Value.noConfusion, mapSection_ofSection s⟩
  have hscopesRead (s : Scopes) : Value.ofScopes s ≠ .null ∧
      Check.scopes (Value.ofScopes s) = .passed s := ⟨Value.noConfusion, scopes_ofScopes s⟩
  have hx := optional_of_name (f := .importMap) (.inl hkey) hx hread
  have hi := optional_of_name (f := .imports) (.inr rfl) hi fun s _ => hsections s
  have hs := optional_of_name (f := .scopes) (.inr rfl) hs fun s _ => hscopesRead s
  exact ⟨Checked.passed.inj (hmap.symm.trans hx), Checked.passed.inj (himports.symm.trans hi),
    Checked.passed.inj (hscopes.symm.trans hs)⟩

theorem read_compilerOptions
    (ho : readEmitOptions (CommandLine.callEntries f shape sources compiler) = .passed o)
    (hnames : ∀ e ∈ sources, e.1 ∈ ConfigFile.sourceNames.map Text.ofString) :
    (compiler = [] ∧ o.compilerOptions = none) ∨
      ∃ d, readCompilerOptions compiler = .passed d ∧ o.compilerOptions = some d := by
  obtain ⟨-, -, -, hfield, -⟩ := readEmitOptions_eq_passed_iff.mp ho
  have hkey : (CommandLine.callEntries f shape sources compiler).get? "compilerOptions" = none :=
    get?_eq_none_of_name hnames (by decide) (by decide) (by decide)
  have hname : (CommandLine.callEntries f shape sources compiler).get? "compiler_options" =
      if compiler ≠ [] then some (.dict compiler) else none := get?_of_compilerName hnames
  by_cases hc : compiler = []
  · rw [if_neg (not_not.mpr hc)] at hname
    exact .inl ⟨hc, Checked.passed.inj (hfield.symm.trans (optional_of_missing hkey hname))⟩
  · rw [if_pos hc] at hname
    rw [Field.optional, Field.find?, Field.compilerOptions, hkey, hname] at hfield
    have hgiven : option Check.compilerOptions (.dict compiler) = .passed o.compilerOptions :=
      Checked.under_eq_passed hfield
    obtain ⟨d, hd, heq⟩ := Checked.map_eq_passed hgiven
    exact .inr ⟨d, hd, heq.symm⟩

end EmitFlags

end EmitBridge
