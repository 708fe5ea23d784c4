import EmitBridge.Cli.Delivery
import EmitBridge.Proofs.FilePath.Chars
import EmitBridge.Proofs.Run.Trace

/-! What reading and writing files can fail with. The name of a path without null characters is only
refused by the system. -/

namespace EmitBridge

namespace PosixPath

variable {p : PosixPath}

structure IsClean (p : PosixPath) : Prop where
  root : '\x00' ∉ p.root.toList
  parts : ∀ part ∈ p.parts, '\x00' ∉ part.toList

theorem isClean_iff : p.IsClean ↔ '\x00' ∉ p.toChars := by
  have hwhole : '\x00' ∉ p.toChars ↔
      '\x00' ∉ p.root.toList ++ Cut.join '/' (p.parts.map String.toList) := by
    unfold toChars
    simp only
    split
    · next hempty =>
      rw [List.isEmpty_iff.mp hempty]
      decide
    · rfl
  rw [hwhole, List.mem_append, not_or]
  constructor
  · rintro ⟨hroot, hparts⟩
    refine ⟨hroot, fun hmem => ?_⟩
    obtain hslash | ⟨part, hpart, hnull⟩ := Cut.mem_join hmem
    · cases hslash
    · obtain ⟨name, hname, rfl⟩ := List.mem_map.mp hpart
      exact hparts name hname hnull
  · rintro ⟨hroot, hparts⟩
    refine ⟨hroot, fun name hname hnull => ?_⟩
    exact hparts (Cut.subset_join (List.mem_map_of_mem hname) hnull)

theorem isClean_ofString {s : String} (h : '\x00' ∉ s.toList) : (ofString s).IsClean :=
  isClean_iff.mpr fun hnull => (madeOf_toChars s.toList _ hnull).elim (by simp [IsPunctuation]) h

theorem isClean_parent (h : p.IsClean) : p.parent.IsClean :=
  ⟨h.root, fun part hpart => h.parts part (List.dropLast_subset _ hpart)⟩

theorem null_notMem_name (h : p.IsClean) : '\x00' ∉ p.name.toList := by
  rw [name, List.getLastD_eq_getLast?]
  cases hlast : p.parts.getLast? with
  | none => exact List.not_mem_nil
  | some part => exact h.parts part (List.mem_of_getLast? hlast)

theorem isClean_withSuffix {suffix : String} (h : p.IsClean) (hsuffix : '\x00' ∉ suffix.toList) :
    (p.withSuffix suffix).IsClean := by
  refine ⟨h.root, fun part hpart => ?_⟩
  rcases List.mem_append.mp hpart with hpart | hpart
  · exact h.parts part (List.dropLast_subset _ hpart)
  · rw [List.mem_singleton.mp hpart, String.toList_append, List.mem_append, not_or]
    exact ⟨null_notMem_name h, hsuffix⟩

end PosixPath

namespace World

variable {w : World} {path : String} {f : Fault}

theorem hasNull_eq (path : String) : hasNull path = decide ('\x00' ∈ path.toList) :=
  String.contains_char_eq ..

theorem hasNull_of_isClean {p : PosixPath} (h : p.IsClean) : hasNull p.toString = false := by
  rw [hasNull_eq, PosixPath.toString, String.toList_ofList]
  exact decide_eq_false (PosixPath.isClean_iff.mp h)

theorem system_of_makeDirectory (hclean : hasNull path = false)
    (h : w.makeDirectory path = .error f) : ∃ e, f = .system e := by
  rw [makeDirectory, if_neg (ne_true_of_eq_false hclean)] at h
  split at h
  · cases h
    exact ⟨_, rfl⟩
  · cases h
  · split at h
    · cases h
    · cases h
      exact ⟨_, rfl⟩

inductive Stores (w : World) (path : String) (bs : Bytes) : Except Fault Written → Prop
  | denied {n : Nat} : Stores w path bs (.error (systemFault n path))
  | whole : Stores w path bs (.ok ⟨w.put path bs, bs, none⟩)
  | part {taken : Bytes} {n : Nat} : taken <+: bs → taken ≠ bs →
    Stores w path bs (.ok ⟨w.put path taken, taken, some (.system ⟨n, none⟩)⟩)

theorem stores_store (w : World) (path : String) (bs : Bytes) :
    Stores w path bs (w.store path bs) := by
  unfold store
  split
  · exact .whole
  · exact .denied
  · next room n _ =>
    split
    · exact .whole
    · next hroom =>
      refine .part (List.take_prefix room bs) fun hall => hroom ?_
      have hlength := congrArg List.length hall
      rw [List.length_take] at hlength
      omega

theorem stores_write {bs : Bytes} (hclean : hasNull path = false) :
    Stores w path bs (w.write path bs) := by
  rw [write, if_neg (ne_true_of_eq_false hclean)]
  split
  · exact stores_store w path bs
  · exact .denied
  · split
    · exact stores_store w path bs
    · exact .denied

inductive WritesText (w : World) (p : PosixPath) (t : Text) : Except Fault Written → Prop
  | refused {e : SystemError} : WritesText w p t (.error (.system e))
  | whole {bs : Bytes} : Utf8.encode t = .ok bs →
    WritesText w p t (.ok ⟨w.put p.toString bs, bs, none⟩)
  | part {bs taken : Bytes} {e : SystemError} : Utf8.encode t = .ok bs → taken <+: bs →
    taken ≠ bs → WritesText w p t (.ok ⟨w.put p.toString taken, taken, some (.system e)⟩)
  | unencodable {e : Utf8.EncodeError} : Utf8.encode t = .error e →
    WritesText w p t (.ok ⟨w.put p.toString [], [], some (.surrogates e)⟩)

theorem writesText_writeText {p : PosixPath} (hp : p.IsClean) (t : Text) :
    WritesText w p t (w.writeText p t) := by
  unfold writeText
  cases hmake : w.makeDirectory p.parent.toString with
  | error f =>
    obtain ⟨e, rfl⟩ :=
      system_of_makeDirectory (hasNull_of_isClean (PosixPath.isClean_parent hp)) hmake
    exact .refused
  | ok u =>
    simp only [bind, Except.bind]
    cases ht : Utf8.encode t with
    | ok bs =>
      have hstores : Stores w p.toString bs (w.write p.toString bs) :=
        stores_write (hasNull_of_isClean hp)
      show WritesText w p t (w.write p.toString bs)
      generalize w.write p.toString bs = r at hstores
      cases hstores with
      | denied => exact .refused
      | whole => exact .whole ht
      | part hprefix hne => exact .part ht hprefix hne
    | error e =>
      have hstores : Stores w p.toString [] (w.write p.toString []) :=
        stores_write (hasNull_of_isClean hp)
      simp only
      generalize w.write p.toString [] = r at hstores
      cases hstores with
      | denied => exact .refused
      | whole => exact .unencodable ht
      | part hprefix hne => exact absurd (List.prefix_nil.mp hprefix) hne

section WriteText

variable {p : PosixPath} {t : Text} {bs : Bytes}

theorem makeDirectory_of_directory (hclean : hasNull path = false)
    (h : w.entry path = .directory) : w.makeDirectory path = .ok () := by
  rw [makeDirectory, if_neg (ne_true_of_eq_false hclean), h]

theorem writeText_of_missing (hp : p.IsClean) (hparent : w.entry p.parent.toString = .directory)
    (hentry : w.entry p.toString = .failure SystemError.missing) (hfree : w.writeFaults = [])
    (ht : Utf8.encode t = .ok bs) :
    w.writeText p t = .ok ⟨w.put p.toString bs, bs, none⟩ := by
  have hmake : w.makeDirectory p.parent.toString = .ok () :=
    makeDirectory_of_directory (hasNull_of_isClean (PosixPath.isClean_parent hp)) hparent
  have hstore : w.store p.toString bs = .ok ⟨w.put p.toString bs, bs, none⟩ := by
    rw [store, writeFault?, hfree]
    rfl
  have hwrite : w.write p.toString bs = .ok ⟨w.put p.toString bs, bs, none⟩ := by
    rw [write, if_neg (ne_true_of_eq_false (hasNull_of_isClean hp)), hentry]
    exact hstore
  rw [writeText, hmake]
  simp only [bind, Except.bind, ht, hwrite]

theorem writeText_of_directory (hp : p.IsClean) (hparent : w.entry p.parent.toString = .directory)
    (hentry : w.entry p.toString = .directory) (ht : Utf8.encode t = .ok bs) :
    w.writeText p t = .error (systemFault SystemError.isADirectory p.toString) := by
  have hmake : w.makeDirectory p.parent.toString = .ok () :=
    makeDirectory_of_directory (hasNull_of_isClean (PosixPath.isClean_parent hp)) hparent
  have hwrite : w.write p.toString bs =
      .error (systemFault SystemError.isADirectory p.toString) := by
    rw [write, if_neg (ne_true_of_eq_false (hasNull_of_isClean hp)), hentry]
  rw [writeText, hmake]
  simp only [bind, Except.bind, ht, hwrite]

end WriteText

end World

end EmitBridge
