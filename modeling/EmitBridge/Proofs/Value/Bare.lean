import EmitBridge.Value.Dumped

/-! Values without records in them. An engine receives such values as they are, and receives nothing
but such values. -/

namespace EmitBridge

namespace Value

def isAtom : Value → Bool
  | list _ | tuple _ | dict _ => false
  | v => v.members?.isNone

inductive IsBare : Value → Prop
  | atom {v : Value} (h : v.isAtom = true) : IsBare v
  | list {items : List Value} (h : ∀ v ∈ items, IsBare v) : IsBare (list items)
  | tuple {items : List Value} (h : ∀ v ∈ items, IsBare v) : IsBare (tuple items)
  | dict {es : List (Text × Value)} (h : ∀ e ∈ es, IsBare e.2) : IsBare (dict es)

theorem dumpedItems_eq (items : List Value) : dumpedItems items = items.map dumped := by
  induction items with
  | nil => rfl
  | cons v items ih => rw [dumpedItems, ih, List.map_cons]

theorem dumpedEntries_eq (es : Entries Value) :
    dumpedEntries es = es.map fun e => (e.1, dumped e.2) := by
  induction es with
  | nil => rfl
  | cons e es ih => rw [dumpedEntries, ih, List.map_cons]

theorem dumped_of_isAtom {v : Value} (h : v.isAtom = true) : dumped v = v := by
  cases v <;> first | rfl | cases h

theorem IsBare.dumped_eq {v : Value} (h : v.IsBare) : dumped v = v := by
  induction h with
  | atom h => exact dumped_of_isAtom h
  | list _ ih => rw [dumped, dumpedItems_eq, List.map_congr_left ih, List.map_id']
  | tuple _ ih => rw [dumped, dumpedItems_eq, List.map_congr_left ih, List.map_id']
  | @dict es _ ih =>
    have hentries : es.map (fun e => (e.1, dumped e.2)) = es.map fun e => e :=
      List.map_congr_left fun e he => Prod.ext rfl (ih e he)
    rw [dumped, dumpedEntries_eq, hentries, List.map_id']

section parts

variable {es fs : Entries Value}

def EntriesBare (es : Entries Value) : Prop := ∀ e ∈ es, e.2.IsBare

theorem entriesBare_nil : EntriesBare [] := fun _ => nofun

theorem entriesBare_cons {e : Text × Value} (h : e.2.IsBare) (hs : EntriesBare es) :
    EntriesBare (e :: es) := List.forall_mem_cons.mpr ⟨h, hs⟩

theorem entriesBare_append (h : EntriesBare es) (k : EntriesBare fs) :
    EntriesBare (es ++ fs : Entries Value) := List.forall_mem_append.mpr ⟨h, k⟩

theorem entriesBare_filter (p : Text × Value → Bool) (h : EntriesBare es) :
    EntriesBare (es.filter p) := fun e he => h e (List.mem_filter.mp he).1

theorem entriesBare_outward (h : EntriesBare es) : EntriesBare (Members.outward es) := by
  intro e he
  obtain ⟨d, hd, rfl⟩ := List.mem_map.mp he
  exact h d (List.mem_filter.mp hd).1

theorem isBare_ofOption {α : Type} {f : α → Value} (h : ∀ a, (f a).IsBare) (x : Option α) :
    (ofOption f x).IsBare := by
  cases x with
  | none => exact .atom rfl
  | some a => exact h a

theorem isBare_ofSection (s : Section) : (ofSection s).IsBare := by
  refine .dict fun e he => ?_
  obtain ⟨d, _, rfl⟩ := List.mem_map.mp he
  exact .atom rfl

theorem isBare_ofScopes (s : Scopes) : (ofScopes s).IsBare := by
  refine .dict fun e he => ?_
  obtain ⟨d, _, rfl⟩ := List.mem_map.mp he
  exact isBare_ofSection d.2

theorem isBare_ofMapBase (b : MapBase) : (ofMapBase b).IsBare := by
  cases b <;> exact .atom rfl

theorem isBare_bool (b : Bool) : (bool b).IsBare := .atom rfl

theorem isBare_str (t : Text) : (str t).IsBare := .atom rfl

theorem entriesBare_importMap (m : ImportMap) : EntriesBare (Members.importMap m) :=
  entriesBare_cons (isBare_ofOption isBare_ofMapBase _) <|
    entriesBare_cons (isBare_ofOption isBare_ofSection _) <|
      entriesBare_cons (isBare_ofOption isBare_ofScopes _) entriesBare_nil

theorem entriesBare_response (r : LoadResponse) : EntriesBare (Members.response r) := by
  cases r with
  | module m =>
    have hcontent : (ofContent m.content).IsBare := by
      cases m.content <;> exact .atom rfl
    exact entriesBare_cons (.atom rfl) <| entriesBare_cons (.atom rfl) <|
      entriesBare_cons (isBare_ofOption isBare_ofSection _) <|
        entriesBare_cons hcontent entriesBare_nil
  | _ => exact entriesBare_cons (.atom rfl) (entriesBare_cons (.atom rfl) entriesBare_nil)

end parts

mutual

theorem isBare_dumped : ∀ v : Value, (dumped v).IsBare
  | list items => .list (isBare_dumpedItems items)
  | tuple items => .tuple (isBare_dumpedItems items)
  | dict es => .dict (entriesBare_dumpedEntries es)
  | compilerOptions o => .dict (entriesBare_dumpedCompilerOptions o)
  | importMap m => .dict (entriesBare_outward (entriesBare_importMap m))
  | bundleOptions o => .dict (entriesBare_dumpedBundleOptions o)
  | transpileOptions o => .dict (entriesBare_dumpedEmitOptions o)
  | configFile c => .dict (entriesBare_dumpedConfigFile c)
  | serializedImportMap _ =>
    .dict (entriesBare_cons (isBare_str _) (entriesBare_cons (isBare_str _) entriesBare_nil))
  | importMapDocument _ =>
    .dict (entriesBare_outward (entriesBare_cons (isBare_ofOption isBare_ofSection _)
      (entriesBare_cons (isBare_ofOption isBare_ofScopes _) entriesBare_nil)))
  | response r => .dict (entriesBare_outward (entriesBare_response r))
  | bundleEmit _ =>
    .dict (entriesBare_outward (entriesBare_cons (isBare_str _)
      (entriesBare_cons (isBare_ofOption isBare_str _) entriesBare_nil)))
  | null | bool _ | int _ | float _ | str _ | bytes _ | url _ | path _ | cacheSetting _
  | bundleType _ | object _ | loader _ => .atom rfl

theorem isBare_dumpedItems : ∀ items : List Value, ∀ v ∈ dumpedItems items, v.IsBare
  | [] => fun _ => nofun
  | v :: rest => List.forall_mem_cons.mpr ⟨isBare_dumped v, isBare_dumpedItems rest⟩

theorem entriesBare_dumpedEntries : ∀ es : List (Text × Value), EntriesBare (dumpedEntries es)
  | [] => entriesBare_nil
  | (_, v) :: rest => entriesBare_cons (isBare_dumped v) (entriesBare_dumpedEntries rest)

theorem isBare_dumpedOption : ∀ v : Option Value, (dumpedOption v).IsBare
  | some v => isBare_dumped v
  | none => .atom rfl

theorem isBare_dumpedDict : ∀ es : Option (List (Text × Value)), (dumpedDict es).IsBare
  | some es => .dict (entriesBare_dumpedEntries es)
  | none => .atom rfl

theorem entriesBare_dumpedCompilerOptions :
    ∀ o : CompilerOptions Value, EntriesBare (dumpedCompilerOptions o)
  | ⟨_, _, _, _, _, _, _, _, _, _, extras⟩ => by
    refine entriesBare_append (entriesBare_outward ?_)
      (entriesBare_filter _ (entriesBare_dumpedEntries extras))
    intro e he
    simp only [List.mem_cons, List.not_mem_nil, or_false] at he
    rcases he with rfl | rfl | rfl | rfl | rfl | rfl | rfl | rfl | rfl | rfl
    all_goals first
      | exact isBare_ofOption isBare_bool _
      | exact isBare_ofOption isBare_str _

theorem isBare_dumpedSomeOptions :
    ∀ o : Option (CompilerOptions Value), (dumpedSomeOptions o).IsBare
  | some o => .dict (entriesBare_dumpedCompilerOptions o)
  | none => .atom rfl

theorem entriesBare_dumpedEmitOptions :
    ∀ o : EmitOptions Value, EntriesBare (dumpedEmitOptions o)
  | ⟨source, _, _, options, load, _, _, _⟩ => by
    refine entriesBare_outward ?_
    refine entriesBare_cons ?_ <| entriesBare_cons (isBare_ofOption isBare_ofSection _) <|
      entriesBare_cons (isBare_ofOption isBare_ofScopes _) <|
      entriesBare_cons (isBare_dumpedSomeOptions options) <|
      entriesBare_cons (isBare_dumpedOption load) <|
      entriesBare_cons (isBare_ofOption isBare_bool _) <|
      entriesBare_cons (isBare_ofOption (fun _ => .atom rfl) _) <|
      entriesBare_cons (isBare_ofOption (fun _ => .atom rfl) _) entriesBare_nil
    match source with
    | some (.inline m) => exact .dict (entriesBare_outward (entriesBare_importMap m))
    | some (.text _) | some (.path _) | some (.url _) | none => exact .atom rfl

theorem entriesBare_dumpedBundleOptions :
    ∀ o : BundleOptions Value, EntriesBare (dumpedBundleOptions o)
  | ⟨common, _, _⟩ =>
    entriesBare_append (entriesBare_dumpedEmitOptions common)
      (entriesBare_cons (.atom rfl) (entriesBare_cons (.atom rfl) entriesBare_nil))

theorem entriesBare_dumpedConfigFile :
    ∀ c : ConfigFile Value, EntriesBare (dumpedConfigFile c)
  | ⟨options, _, _, _⟩ =>
    entriesBare_outward <| entriesBare_cons (isBare_dumpedDict options) <|
      entriesBare_cons (isBare_ofOption isBare_ofSection _) <|
      entriesBare_cons (isBare_ofOption isBare_ofScopes _) <|
      entriesBare_cons (isBare_ofOption isBare_str _) entriesBare_nil

end

theorem dumped_eq_self_iff {v : Value} : dumped v = v ↔ v.IsBare :=
  ⟨fun h => h ▸ isBare_dumped v, IsBare.dumped_eq⟩

end Value

end EmitBridge
