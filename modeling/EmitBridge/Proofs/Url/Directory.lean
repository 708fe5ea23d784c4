import EmitBridge.Proofs.Run.Trace
import EmitBridge.Proofs.Url.Reread
import EmitBridge.Url.Directory

/-! The directory that an address names. It is written as the address with a slash at its end,
unless the address has a host and no path, or an authority that is read differently from its text.
-/

namespace EmitBridge.Url

def closedPath (path : List Char) : List Char :=
  if path.getLast? = some '/' then path else path ++ ['/']

def closed (u : Url) : Url :=
  { u with path := String.ofList (closedPath u.path.toList), query := "", fragment := "" }

def KeepsAuthority (u : Url) : Prop :=
  ∃ a b, u.parts = .ok a ∧ Authority.read u.authority.toList = .ok b ∧
    shownAuthority u.scheme u.authority.toList b = shownAuthority u.scheme u.authority.toList a

/-- The host is in brackets, if there are colons in it or brackets around. -/
def SetsOff (u : Url) (a : Authority) : Prop :=
  ∀ host ∈ a.host, ':' ∈ host ∨ '[' ∈ u.authority.toList → IsBracketedIn host u.authority.toList

theorem keepsAuthority_of_verbatim {u : Url} (h : u.known = none) :
    u.KeepsAuthority ↔ ∃ a, u.parts = .ok a := by
  have hparts : u.parts = Authority.read u.authority.toList := by rw [parts, h]
  constructor
  · rintro ⟨a, -, ha, -⟩
    exact ⟨a, ha⟩
  · rintro ⟨a, ha⟩
    exact ⟨a, a, ha, hparts ▸ ha, rfl⟩

theorem getLast?_closedPath (path : List Char) : (closedPath path).getLast? = some '/' := by
  unfold closedPath
  split
  · assumption
  · exact List.getLast?_concat

def IsBareOrigin (u : Url) : Prop := u.path = "" ∧ u.authority ≠ ""

theorem rawPath_of_bareOrigin {u : Url} (h : u.IsBareOrigin) : u.rawPath = "/" := by
  rw [rawPath, if_pos (by simpa [IsBareOrigin] using h)]

theorem rawPath_of_not_bareOrigin {u : Url} (h : ¬u.IsBareOrigin) : u.rawPath = u.path := by
  rw [rawPath, if_neg (by simpa [IsBareOrigin] using h)]

variable {u : Url}

theorem render_of_plain {scheme authority : String} {path : List Char} {known : Option Authority}
    (hs : IsPlainScheme scheme.toList) :
    (⟨scheme, authority, String.ofList path, "", "", known⟩ : Url).render =
      (⟨scheme, authority, String.ofList path, "", "", known⟩ : Url).parts.map fun a =>
        String.ofList (scheme.toList ++ ':' :: '/' :: '/' ::
          (shownAuthority scheme authority.toList a ++ rooted path)) := by
  rw [render_of_bare rfl rfl]
  simp only [hs.unsplit_eq, String.toList_ofList, List.isEmpty_nil, if_true, List.append_nil]

theorem render_closed (hs : IsPlainScheme u.scheme.toList) :
    u.closed.render = u.parts.map fun a => String.ofList (u.scheme.toList ++ ':' :: '/' :: '/' ::
      (shownAuthority u.scheme u.authority.toList a ++ rooted (closedPath u.path.toList))) :=
  render_of_plain hs

theorem render_directory_of_bareOrigin (hs : IsPlainScheme u.scheme.toList) (h : u.IsBareOrigin) :
    u.directory.render = (Authority.read u.authority.toList).map fun b =>
      String.ofList (u.scheme.toList ++ ':' :: '/' :: '/' ::
        shownAuthority u.scheme u.authority.toList b) := by
  have hdirectory : u.directory = ⟨u.scheme, u.authority, String.ofList [], "", "", none⟩ := by
    rw [directory, rawPath_of_bareOrigin h, if_pos (by rfl), h.1]
  rw [hdirectory, render_of_plain hs, rooted_nil]
  simp only [List.append_nil]
  rfl

theorem render_directory (hs : IsPlainScheme u.scheme.toList) (h : ¬u.IsBareOrigin) :
    u.directory.render = (Authority.read u.authority.toList).map fun b =>
      String.ofList (u.scheme.toList ++ ':' :: '/' :: '/' ::
        (shownAuthority u.scheme u.authority.toList b ++ rooted (closedPath u.path.toList))) := by
  have hrooted : ∃ path, u.directory = ⟨u.scheme, u.authority, String.ofList path, "", "", none⟩ ∧
      rooted path = rooted (closedPath u.path.toList) := by
    rw [directory, rawPath_of_not_bareOrigin h, closedPath]
    by_cases hlast : u.path.toList.getLast? = some '/'
    · rw [if_pos (by simpa using hlast), if_pos hlast]
      exact ⟨u.path.toList, by rw [String.ofList_toList], rfl⟩
    · rw [if_neg (by simpa using hlast), if_neg hlast]
      exact ⟨rooted (u.path.toList ++ ['/']), rfl, rooted_rooted _⟩
  obtain ⟨path, hdirectory, hpath⟩ := hrooted
  rw [hdirectory, render_of_plain hs, hpath]
  rfl

theorem getLast?_rooted_closedPath (path : List Char) (front : List Char) :
    (front ++ rooted (closedPath path)).getLast? = some '/' := by
  have hlast := getLast?_closedPath path
  rw [List.getLast?_append, rooted]
  split
  · rw [hlast]
    rfl
  · rw [List.getLast?_cons, hlast]
    rfl

def ShowsDirectory (u : Url) : Prop :=
  ∃ text, u.closed.render = .ok text ∧ u.directory.render = .ok text ∧
    text.toList.getLast? = some '/'

theorem showsDirectory_iff (hs : IsPlainScheme u.scheme.toList) (hu : u.Separated) :
    u.ShowsDirectory ↔ u.KeepsAuthority ∧ ¬u.IsBareOrigin := by
  rw [ShowsDirectory, KeepsAuthority, render_closed hs]
  by_cases hbare : u.IsBareOrigin
  · rw [render_directory_of_bareOrigin hs hbare]
    refine iff_of_false ?_ fun h => h.2 hbare
    rintro ⟨text, hclosed, hdirectory, -⟩
    obtain ⟨a, -, rfl⟩ := Run.exists_of_map_eq_ok hclosed
    obtain ⟨b, hb, hsame⟩ := Run.exists_of_map_eq_ok hdirectory
    simp only [String.ofList_inj, List.append_cancel_left_eq, List.cons.injEq, true_and] at hsame
    -- the authority that is shown holds no slash
    have hinside : StaysInside (shownAuthority u.scheme u.authority.toList b) :=
      staysInside_shownAuthority hu.authority (Authority.staysInside_read hu.authority hb)
    have hslash := hinside '/' (by
      rw [hsame, hbare.1]
      exact List.mem_append_right _ List.mem_cons_self)
    cases hslash
  · rw [render_directory hs hbare, and_iff_left hbare]
    constructor
    · rintro ⟨text, hclosed, hdirectory, -⟩
      obtain ⟨a, ha, rfl⟩ := Run.exists_of_map_eq_ok hclosed
      obtain ⟨b, hb, hsame⟩ := Run.exists_of_map_eq_ok hdirectory
      simp only [String.ofList_inj, List.append_cancel_left_eq, List.cons.injEq, true_and,
        List.append_cancel_right_eq] at hsame
      exact ⟨a, b, ha, hb, hsame⟩
    · rintro ⟨a, b, ha, hb, hsame⟩
      have hcut : u.scheme.toList ++ ':' :: '/' :: '/' ::
          (shownAuthority u.scheme u.authority.toList a ++ rooted (closedPath u.path.toList)) =
          (u.scheme.toList ++ ':' :: '/' :: '/' :: shownAuthority u.scheme u.authority.toList a) ++
            rooted (closedPath u.path.toList) := by simp
      rw [ha, hb, Except.map, Except.map, hsame, hcut]
      refine ⟨_, rfl, rfl, ?_⟩
      rw [String.toList_ofList]
      exact getLast?_rooted_closedPath _ _

end EmitBridge.Url
