import EmitBridge.Proofs.Engine.Lookup
import EmitBridge.Proofs.Text.Cut

/-! What a path names, by its spelling and by what modules hold: a module in front of the first
colon, and attributes to follow in it, one after another. -/

namespace EmitBridge

open Run

namespace Plugin

inductive Reaches : Plugin → List String → Plugin → Prop
  | here {p : Plugin} : Reaches p [] p
  | step {p q target : Plugin} {name : String} {names : List String} :
    p.members.lookup name = some (.ok q) → Reaches q names target → Reaches p (name :: names) target

theorem follow?_cons (p : Plugin) (name : String) (names : List String) :
    p.follow? (name :: names) = match p.members.lookup name with
      | none => .ok none
      | some (.ok q) => q.follow? names
      | some (.error f) => .error f := rfl

theorem follow?_eq_some_iff {p target : Plugin} {names : List String} :
    p.follow? names = .ok (some target) ↔ p.Reaches names target := by
  constructor
  · intro h
    induction names generalizing p with
    | nil =>
      cases h
      exact .here
    | cons name names ih =>
      rw [follow?_cons] at h
      split at h
      · cases h
      · next q hq => exact .step hq (ih h)
      · cases h
  · intro h
    induction h with
    | here => rfl
    | step hq _ ih =>
      rw [follow?_cons, hq]
      exact ih

theorem Reaches.unique {p target target' : Plugin} {names : List String}
    (h : p.Reaches names target) (h' : p.Reaches names target') : target = target' :=
  Option.some.inj (Except.ok.inj
    ((follow?_eq_some_iff.mpr h).symm.trans (follow?_eq_some_iff.mpr h')))

/-- The object has both methods of an engine, which are there also where reading them fails. -/
def Provides (p : Plugin) : Prop :=
  ∀ name ∈ ["bundle", "transpile"], ∃ m, p.members.lookup name = some m ∧
    ∀ q, m = .ok q → q.calls.name ≠ "NoneType"

end Plugin

namespace Engine

variable {w : World} {path m : String} {attributes : List String} {target o : Plugin} {f : Failure}

structure Spells (path m : String) (attributes : List String) : Prop where
  path_eq : path.toList = m.toList ++ ':' :: Cut.join '.' (attributes.map String.toList)
  module_ne : m ≠ ""
  module_colon : ':' ∉ m.toList
  attributes_ne : attributes ≠ [] ∧ attributes ≠ [""]
  attributes_dot : ∀ name ∈ attributes, '.' ∉ name.toList

theorem names_join (hne : attributes ≠ []) (hdot : ∀ name ∈ attributes, '.' ∉ name.toList) :
    names (String.ofList (Cut.join '.' (attributes.map String.toList))) = attributes := by
  have hall : Cut.all '.' (Cut.join '.' (attributes.map String.toList)) =
      attributes.map String.toList := by
    refine Cut.all_join (mt List.map_eq_nil_iff.mp hne) ?_
    intro piece hpiece
    obtain ⟨name, hname, rfl⟩ := List.mem_map.mp hpiece
    exact hdot name hname
  rw [names, String.toList_ofList, hall, List.map_map]
  exact (List.map_congr_left fun name _ => String.ofList_toList).trans (List.map_id attributes)

theorem join_names (member : List Char) :
    Cut.join '.' ((names (String.ofList member)).map String.toList) = member := by
  rw [names, List.map_map, String.toList_ofList]
  refine (congrArg (Cut.join '.') ?_).trans (Cut.join_all '.' member)
  exact (List.map_congr_left fun piece _ => String.toList_ofList).trans (List.map_id _)

theorem Spells.splitPath? (h : Spells path m attributes) :
    ∃ member, Engine.splitPath? path = some (m, member) ∧ names member = attributes := by
  have hmember := names_join h.attributes_ne.1 h.attributes_dot
  refine ⟨_, ?_, hmember⟩
  have hnonempty : Cut.join '.' (attributes.map String.toList) ≠ [] := by
    intro hnil
    rw [hnil] at hmember
    exact h.attributes_ne.2 hmember.symm
  have hmodule : m.toList ≠ [] := fun hnil => h.module_ne (String.toList_eq_nil_iff.mp hnil)
  unfold Engine.splitPath?
  rw [h.path_eq, Cut.first_append h.module_colon]
  simp only [List.isEmpty_eq_false_iff.mpr hmodule, List.isEmpty_eq_false_iff.mpr hnonempty,
    Bool.or_self, Bool.false_eq_true, if_false, String.ofList_toList]

theorem spells_of_splitPath? {member : String} (h : splitPath? path = some (m, member)) :
    Spells path m (names member) := by
  unfold splitPath? at h
  split at h
  · cases h
  · next before after hfirst =>
    split at h
    · cases h
    next hparts =>
    cases h
    obtain ⟨hbefore, hafter⟩ := not_or.mp (mt (Bool.or_eq_true _ _).mpr hparts)
    constructor
    · rw [String.toList_ofList, join_names]
      exact Cut.eq_of_first hfirst
    · intro hempty
      exact hbefore (List.isEmpty_iff.mpr (String.ofList_eq_empty_iff.mp hempty))
    · rw [String.toList_ofList]
      exact Cut.notMem_of_first hfirst
    · refine ⟨mt List.map_eq_nil_iff.mp (Cut.all_ne_nil _ _), fun hnames => ?_⟩
      have hjoin := join_names after
      rw [hnames] at hjoin
      exact hafter (List.isEmpty_iff.mpr hjoin.symm)
    · intro name hname
      obtain ⟨piece, hpiece, rfl⟩ := List.mem_map.mp hname
      rw [String.toList_ofList]
      exact Cut.notMem_of_mem_all hpiece

theorem spells_iff : Spells path m attributes ↔
    ∃ member, splitPath? path = some (m, member) ∧ names member = attributes := by
  constructor
  · exact Spells.splitPath?
  · rintro ⟨member, hsplit, rfl⟩
    exact spells_of_splitPath? hsplit

def Denotes (w : World) (path : String) (target : Plugin) : Prop :=
  ∃ m attributes plugin, Spells path m attributes ∧ imported w m = .module plugin ∧
    plugin.Reaches attributes target

def Finds (w : World) (path : String) (o : Plugin) : Prop :=
  ∃ target, Denotes w path target ∧ target.made = .ok o ∧ o.Provides

theorem Denotes.unique {target' : Plugin} (h : Denotes w path target)
    (h' : Denotes w path target') : target = target' := by
  obtain ⟨m, attributes, plugin, hspells, hplugin, hreaches⟩ := h
  obtain ⟨m', attributes', plugin', hspells', hplugin', hreaches'⟩ := h'
  obtain ⟨member, hsplit, rfl⟩ := spells_iff.mp hspells
  obtain ⟨member', hsplit', rfl⟩ := spells_iff.mp hspells'
  cases hsplit.symm.trans hsplit'
  cases hplugin.symm.trans hplugin'
  exact hreaches.unique hreaches'

end Engine

end EmitBridge
