import EmitBridge.Proofs.Cli.Channels
import EmitBridge.Proofs.Load.Normalized
import EmitBridge.Proofs.World.Access

/-! The files of a bundle and the status that its command leaves with. Files are written one after
another, and what is written stays: the code of a source map that cannot be written, and the
beginning of a file that the system takes in part. -/

namespace EmitBridge

open HostNames.AsciiOnly

open Run

theorem Check.isEmpty_text {v : Value} {t : Text} (hv : v.isTruthy = true)
    (h : text v = .passed t) : t.isEmpty = false := by
  cases text_eq_passed_iff.mp h with
  | text t => exact Bool.not_eq_true' _ ▸ hv
  | choice ht =>
    cases v with
    | str s =>
      cases ht
      exact Bool.not_eq_true' _ ▸ hv
    | cacheSetting s =>
      cases ht
      cases s <;> decide
    | bundleType s =>
      cases ht
      cases s <;> decide
    | _ => cases ht
  | bytes cs =>
    cases cs with
    | nil => cases hv
    | cons c cs => rfl

namespace BundleEmit

variable {v : Value} {e : BundleEmit}

theorem truthy_of_sourceMap? {find? : Text → Option Value} (h : sourceMap? find? = some v) :
    v.isTruthy = true := by
  have htrue (n : Text) (h : (find? n).bind Value.truthy? = some v) : v.isTruthy = true := by
    obtain ⟨u, -, hu⟩ := Option.bind_eq_some_iff.mp h
    unfold Value.truthy? at hu
    split at hu
    · next htruthy =>
      cases hu
      exact htruthy
    · cases hu
  rcases Option.or_eq_some_iff.mp h with h | ⟨-, h⟩
  · exact htrue _ h
  · exact htrue _ h

theorem option_text_of_passed {map : Option Text} (h : Check.option Check.text v = .passed map) :
    v = .null ∧ map = none ∨ ∃ t, map = some t ∧ Check.text v = .passed t := by
  cases v with
  | null =>
    cases h
    exact .inl ⟨rfl, rfl⟩
  | _ =>
    obtain ⟨t, ht, hmap⟩ := Checked.map_eq_passed h
    exact .inr ⟨t, hmap.symm, ht⟩

theorem isEmpty_map_of_make {code : Value} {source? : Option Value}
    (hsource : ∀ v ∈ source?, v.isTruthy = true) (h : make code source? = .ok e) :
    ∀ m ∈ e.map, m.isEmpty = false := by
  have hread := Checked.toExcept_eq_ok h
  unfold Check.readBundleEmit at hread
  obtain ⟨g, map, hcode, hmap, rfl⟩ := Checked.seq_eq_passed hread
  obtain ⟨read, -, rfl⟩ := Checked.map_eq_passed hcode
  have hfind : Check.Field.map.find? [(Text.ofString "code", code),
      (Text.ofString "map", source?.getD .null)] = some ("map", source?.getD .null) := rfl
  unfold Check.Field.optional at hmap
  rw [hfind] at hmap
  intro m hm
  obtain ⟨-, rfl⟩ | ⟨t, rfl, ht⟩ := option_text_of_passed (Checked.under_eq_passed hmap)
  · cases hm
  · obtain rfl : t = m := Option.some.inj hm
    cases source? with
    | none => cases ht
    | some v => exact Check.isEmpty_text (hsource v rfl) ht

theorem isEmpty_map_of_ofValue (h : ofValue v = .ok e) : ∀ m ∈ e.map, m.isEmpty = false := by
  unfold ofValue at h
  simp only at h
  split at h
  · split at h
    · exact isEmpty_map_of_make (fun _ => truthy_of_sourceMap?) h
    · cases h
  · split at h
    · exact isEmpty_map_of_make (fun _ => truthy_of_sourceMap?) h
    · cases h

end BundleEmit

theorem EmitCall.exists_shape_of_run [HostNames] {α : Type} {w : World} {c : EmitCall}
    {shape : Value → Except Failure α} {a : α} (h : (c.run w shape).outcome = .ok a) :
    ∃ raw, shape raw = .ok a := by
  obtain ⟨s, hs, -⟩ := exists_of_ofExcept_bind (run_eq c w shape ▸ h)
  rw [outcome_run_of_shown (mapError_eq_ok_iff.mp hs)] at h
  obtain ⟨raw, -, hraw⟩ := exists_of_bind_eq_ok h
  exact ⟨raw, hraw⟩

theorem CommandLine.Emits.isEmpty_map [HostNames] {w : World} {c : CommandLine} {e : BundleEmit}
    (h : c.Emits w e) : ∀ m ∈ e.map, m.isEmpty = false := by
  obtain ⟨es, engine, -, -, h⟩ := h
  rw [bundle_eq] at h
  obtain ⟨call, -, h⟩ := exists_of_ofExcept_bind h
  obtain ⟨raw, hraw⟩ := EmitCall.exists_shape_of_run h
  exact BundleEmit.isEmpty_map_of_ofValue hraw

namespace Delivery

variable {line : Except Fault String} {path : PosixPath} {t : Text} {d : Delivery}
  {files : List (PosixPath × Text)}

theorem andThen_of_ok {step : Delivery → Delivery} (h : d.ending = .ok ()) :
    d.andThen step = step d := by
  rw [andThen, h]

theorem andThen_of_error {step : Delivery → Delivery} {e : Failure} (h : d.ending = .error e) :
    d.andThen step = d := by
  rw [andThen, h]

theorem andThen_assoc (d : Delivery) (first second : Delivery → Delivery) :
    (d.andThen first).andThen second = d.andThen fun d => (first d).andThen second := by
  cases h : d.ending with
  | ok u => rw [andThen_of_ok h, andThen_of_ok h]
  | error e => rw [andThen_of_error h, andThen_of_error h, andThen_of_error h]

def writeAll (line : Except Fault String) : List (PosixPath × Text) → Delivery → Delivery
  | [], d => d.tell line
  | (path, t) :: files, d => (d.write path t).andThen (writeAll line files)

inductive Stops (path : PosixPath) (place : String) :
    Except Fault World.Written → List (String × Contents) → Failure → Prop
  | refused {e : SystemError} : Stops path place (.error (.system e)) []
    (.command (.system ("Cannot write to: " ++ path.toString)))
  | cut {w : World} {bs : Bytes} {e : SystemError} :
    Stops path place (.ok ⟨w, bs, some (.system e)⟩) [(place, .part bs)]
      (.command (.system ("Cannot write to: " ++ path.toString)))
  | unencodable {w : World} {bs : Bytes} {e : Utf8.EncodeError} :
    Stops path place (.ok ⟨w, bs, some (.surrogates e)⟩) [(place, .part bs)]
      (.fault (.surrogates e))

inductive WritesOut (line : Except Fault String) : World → List (PosixPath × Text) →
    List (String × Contents) → Except Failure Unit → Prop
  | told {w : World} {s : String} : line = .ok s → WritesOut line w [] [] (.ok ())
  | untold {w : World} {f : Fault} : line = .error f → WritesOut line w [] [] (.error (.fault f))
  | written {w w' : World} {path : PosixPath} {t : Text} {bs : Bytes}
      {files : List (PosixPath × Text)} {entries : List (String × Contents)}
      {ending : Except Failure Unit} :
      w.writeText path t = .ok ⟨w', bs, none⟩ → WritesOut line w' files entries ending →
      WritesOut line w ((path, t) :: files) ((w.absolutePath path.toString, .whole t) :: entries)
        ending
  | stopped {w : World} {path : PosixPath} {t : Text} {files : List (PosixPath × Text)}
      {entries : List (String × Contents)} {f : Failure} :
      Stops path (w.absolutePath path.toString) (w.writeText path t) entries f →
      WritesOut line w ((path, t) :: files) entries (.error f)

theorem write_of_ok {w : World} {bs : Bytes} (h : d.world.writeText path t = .ok ⟨w, bs, none⟩) :
    d.write path t = d.keep path (.whole t) w := by
  rw [write, h]

theorem write_of_stops {entries : List (String × Contents)} {f : Failure}
    (h : Stops path (d.world.absolutePath path.toString) (d.world.writeText path t) entries f) :
    (d.write path t).ending = .error f ∧ (d.write path t).written = d.written ++ entries := by
  rw [write]
  generalize d.world.writeText path t = r at h ⊢
  cases h with
  | refused => exact ⟨rfl, (List.append_nil _).symm⟩
  | cut => exact ⟨rfl, rfl⟩
  | unencodable => exact ⟨rfl, rfl⟩

theorem written_or_stops (hpath : path.IsClean) (w : World) (t : Text) (place : String) :
    (∃ w' bs, w.writeText path t = .ok ⟨w', bs, none⟩) ∨
      ∃ entries f, Stops path place (w.writeText path t) entries f := by
  have hwrites := World.writesText_writeText (w := w) hpath t
  generalize w.writeText path t = r at hwrites ⊢
  cases hwrites with
  | refused => exact .inr ⟨_, _, .refused⟩
  | whole => exact .inl ⟨_, _, rfl⟩
  | part => exact .inr ⟨_, _, .cut⟩
  | unencodable => exact .inr ⟨_, _, .unencodable⟩

theorem writeAll_of_ok {w : World} {bs : Bytes} (hd : d.ending = .ok ())
    (h : d.world.writeText path t = .ok ⟨w, bs, none⟩) : writeAll line ((path, t) :: files) d =
      writeAll line files (d.keep path (.whole t) w) := by
  have hwritten := write_of_ok h
  have hending : (d.write path t).ending = .ok () := hwritten ▸ hd
  rw [writeAll, andThen_of_ok hending, hwritten]

theorem writeAll_of_stops {entries : List (String × Contents)} {f : Failure}
    (h : Stops path (d.world.absolutePath path.toString) (d.world.writeText path t) entries f) :
    writeAll line ((path, t) :: files) d = d.write path t := by
  rw [writeAll, andThen_of_error (write_of_stops h).1]

theorem writeAll_of_refused {e : SystemError} (h : d.world.writeText path t = .error (.system e)) :
    writeAll line ((path, t) :: files) d =
      d.fail (.command (.system ("Cannot write to: " ++ path.toString))) := by
  have hwrite : d.write path t =
      d.fail (.command (.system ("Cannot write to: " ++ path.toString))) := by
    rw [write, h]
    rfl
  rw [writeAll, hwrite]
  rfl

theorem writesOut_writeAll (line : Except Fault String) (hfiles : ∀ f ∈ files, f.1.IsClean)
    (hd : d.ending = .ok ()) :
    ∃ entries, WritesOut line d.world files entries (writeAll line files d).ending ∧
      (writeAll line files d).written = d.written ++ entries := by
  induction files generalizing d with
  | nil =>
    refine ⟨[], ?_, (written_tell line d).trans (List.append_nil _).symm⟩
    cases line with
    | ok s =>
      have hending : (writeAll (.ok s) [] d).ending = .ok () := hd
      rw [hending]
      exact .told rfl
    | error f => exact .untold rfl
  | cons file files ih =>
    obtain ⟨path, t⟩ := file
    obtain ⟨hpath, hfiles⟩ := List.forall_mem_cons.mp hfiles
    obtain ⟨w, bs, hw⟩ | ⟨entries, f, hstops⟩ := written_or_stops hpath d.world t
      (d.world.absolutePath path.toString)
    · rw [writeAll_of_ok hd hw]
      obtain ⟨entries, hrest, hentries⟩ := ih (d := d.keep path (.whole t) w) hfiles hd
      rw [hentries]
      exact ⟨_, .written hw hrest, List.append_assoc ..⟩
    · obtain ⟨hending, hwritten⟩ := write_of_stops hstops
      rw [writeAll_of_stops hstops, hending, hwritten]
      exact ⟨entries, .stopped hstops, rfl⟩

section WritesOut

variable {w : World} {entries entries' : List (String × Contents)}
  {ending ending' : Except Failure Unit} {f f' : Failure}

theorem Stops.unique {place : String} {r : Except Fault World.Written}
    (h : Stops path place r entries f) (h' : Stops path place r entries' f') : f = f' := by
  cases h with
  | refused =>
    cases h'
    rfl
  | cut =>
    cases h'
    rfl
  | unencodable =>
    cases h'
    rfl

theorem Stops.ne_written {place : String} {r : Except Fault World.Written}
    (h : Stops path place r entries f) (w' : World) (bs : Bytes) : r ≠ .ok ⟨w', bs, none⟩ := by
  rintro rfl
  cases h

theorem Stops.ne_whole {place : String} {r : Except Fault World.Written}
    (h : Stops path place r entries f) {entry : String} :
    entries ≠ (entry, .whole t) :: entries' := by
  rintro rfl
  cases h

theorem WritesOut.unique (h : WritesOut line w files entries ending)
    (h' : WritesOut line w files entries' ending') : ending = ending' := by
  induction h generalizing entries' with
  | told hs =>
    cases h' with
    | told _ => rfl
    | untold hf => cases hs.symm.trans hf
  | untold hf =>
    cases h' with
    | told hs => cases hf.symm.trans hs
    | untold hf' =>
      cases hf.symm.trans hf'
      rfl
  | written hw _ ih =>
    cases h' with
    | written hw' h' =>
      cases hw.symm.trans hw'
      exact ih h'
    | stopped hstops => exact absurd hw (hstops.ne_written _ _)
  | stopped hstops =>
    cases h' with
    | written hw _ => exact absurd hw (hstops.ne_written _ _)
    | stopped hstops' => exact congrArg Except.error (hstops.unique hstops')

def entriesOf (w : World) (files : List (PosixPath × Text)) : List (String × Contents) :=
  files.map fun f => (w.absolutePath f.1.toString, .whole f.2)

theorem entriesOf_of_writeText {w' : World} {bs : Bytes}
    (h : w.writeText path t = .ok ⟨w', bs, none⟩) (files : List (PosixPath × Text)) :
    entriesOf w' files = entriesOf w files := by
  refine List.map_congr_left fun f _ => ?_
  rw [show w'.absolutePath f.1.toString = _ from World.absolutePath_of_writeText h _]

theorem WritesOut.of_ok (h : WritesOut line w files entries (.ok ())) :
    entries = entriesOf w files := by
  generalize hending : (.ok () : Except Failure Unit) = ending at h
  induction h with
  | told _ => rfl
  | written hw _ ih => exact congrArg _ ((ih hending).trans (entriesOf_of_writeText hw _))
  | _ => cases hending

theorem WritesOut.ending_of_entries (h : WritesOut line w files entries ending)
    (hentries : entries = entriesOf w files) {s : String} (hline : line = .ok s) :
    ending = .ok () := by
  induction h with
  | told _ => rfl
  | untold hf =>
    rw [hline] at hf
    cases hf
  | written hw _ ih =>
    exact ih ((List.cons.inj hentries).2.trans (entriesOf_of_writeText hw _).symm)
  | stopped hstops => exact absurd hentries hstops.ne_whole

theorem WritesOut.of_failure {f : Failure} (hfiles : ∀ f ∈ files, f.1.IsClean)
    (h : WritesOut line w files entries (.error f)) :
    (∃ e, f = .command e) ∨ (∃ e, line = .error e) ∨
      ∃ file ∈ files, ∃ e, Utf8.encode file.2 = .error e := by
  generalize hending : (.error f : Except Failure Unit) = ending at h
  induction h with
  | told _ => cases hending
  | untold hf => exact .inr (.inl ⟨_, hf⟩)
  | written _ _ ih =>
    obtain ⟨-, hfiles⟩ := List.forall_mem_cons.mp hfiles
    rcases ih hfiles hending with h | h | ⟨file, hfile, he⟩
    · exact .inl h
    · exact .inr (.inl h)
    · exact .inr (.inr ⟨file, List.mem_cons_of_mem _ hfile, he⟩)
  | @stopped w path t files entries g hstops =>
    cases hending
    obtain ⟨hpath, -⟩ := List.forall_mem_cons.mp hfiles
    have hwrites := World.writesText_writeText (w := w) hpath t
    generalize w.writeText path t = r at hstops hwrites
    cases hstops with
    | refused => exact .inl ⟨_, rfl⟩
    | cut => exact .inl ⟨_, rfl⟩
    | unencodable =>
      cases hwrites with
      | unencodable he => exact .inr (.inr ⟨_, List.mem_cons_self, _, he⟩)

end WritesOut

end Delivery

namespace CommandRequest

variable {w : World} {n : CommandName} {words : List String} {c : CommandLine} {path : PosixPath}

theorem not_hasNull_of_check {d : Demand} {hint value : String} (hd : d.isPath = true)
    (h : d.check w hint value = .ok ()) : World.hasNull value = false := by
  rw [Demand.check, hd, Bool.true_and] at h
  split at h
  · cases h
  · next hnull => exact eq_false_of_ne_true hnull

theorem isClean_path? {a : Arguments Key} {k : Key} (hk : (demand k).isPath = true)
    (hchecks : ∀ k ∈ a.keys, checkOption w n a k = .ok ()) (hpath : path? a k = some path) :
    path.IsClean := by
  obtain ⟨value, hvalue, rfl⟩ := Option.map_eq_some_iff.mp hpath
  have hcheck := hchecks k (Arguments.mem_keys_of_value? hvalue)
  rw [checkOption, hvalue] at hcheck
  have hnull := not_hasNull_of_check hk hcheck
  rw [World.hasNull_eq, decide_eq_false_iff_not] at hnull
  exact PosixPath.isClean_ofString hnull

theorem isClean_output (h : read w n words = .ok (.emit c)) (hpath : c.output = some path) :
    path.IsClean := by
  obtain ⟨a, r, hchecks, rfl⟩ := exists_arguments_of_read h
  exact isClean_path? rfl hchecks hpath

end CommandRequest

namespace CommandLine

variable {w : World} {c : CommandLine} {path : PosixPath} {e : BundleEmit}

def bundledLine (console : Console) (path : PosixPath) (map : Option Text) : Except Fault String :=
  Status.success console (match map with
    | none => "Bundled to " ++ path.toString
    | some _ => "Bundled to " ++ path.toString ++ " (source map: " ++ (mapPath path).toString
        ++ ")")

def bundleFiles (path : PosixPath) (e : BundleEmit) : List (PosixPath × Text) :=
  (path, e.code) :: e.map.toList.map fun map => (mapPath path, map)

theorem filter_map (h : ∀ m ∈ e.map, m.isEmpty = false) :
    e.map.filter (!·.isEmpty) = e.map := by
  cases hmap : e.map with
  | none => rfl
  | some map =>
    rw [Option.filter_some, h map hmap]
    rfl

theorem deliverBundle_eq (h : ∀ m ∈ e.map, m.isEmpty = false) (d : Delivery) :
    deliverBundle (some path) e d =
      d.writeAll (bundledLine d.world.console path e.map) (bundleFiles path e) := by
  unfold deliverBundle
  simp only [filter_map h]
  obtain ⟨code, map⟩ := e
  cases map with
  | none => rfl
  | some map => exact Delivery.andThen_assoc ..

theorem isClean_bundleFiles (h : path.IsClean) : ∀ f ∈ bundleFiles path e, f.1.IsClean := by
  intro f hf
  rcases List.mem_cons.mp hf with rfl | hf
  · exact h
  · obtain ⟨map, -, rfl⟩ := List.mem_map.mp hf
    exact PosixPath.isClean_withSuffix h (by decide)

theorem writesOut_bundle (hpath : path.IsClean) (he : ∀ m ∈ e.map, m.isEmpty = false) (w : World) :
    Delivery.WritesOut (bundledLine w.console path e.map) w (bundleFiles path e)
      (deliverBundle (some path) e (.start w)).written
      (deliverBundle (some path) e (.start w)).ending := by
  have hdeliver : deliverBundle (some path) e (.start w) =
      (Delivery.start w).writeAll (bundledLine w.console path e.map) (bundleFiles path e) :=
    deliverBundle_eq he (.start w)
  obtain ⟨entries, hwrites, hwritten⟩ := Delivery.writesOut_writeAll (d := .start w)
    (bundledLine w.console path e.map) (isClean_bundleFiles (e := e) hpath) rfl
  rw [hdeliver, hwritten]
  exact hwrites

def bundleEntries (w : World) (path : PosixPath) (e : BundleEmit) : List (String × Contents) :=
  (w.absolutePath path.toString, .whole e.code) ::
    e.map.toList.map fun map => (w.absolutePath (mapPath path).toString, .whole map)

theorem entriesOf_bundleFiles (w : World) (path : PosixPath) (e : BundleEmit) :
    Delivery.entriesOf w (bundleFiles path e) = bundleEntries w path e := by
  rw [Delivery.entriesOf, bundleFiles, List.map_cons, List.map_map]
  rfl

def IsCut (t : Text) (taken : Bytes) : Prop :=
  ∃ bs, Utf8.encode t = .ok bs ∧ taken <+: bs ∧ taken ≠ bs

/-- What a bundle leaves behind that the system takes only in part: the beginning of its code, or
its code without its source map, or with the beginning of it. -/
inductive LeavesBehind (w : World) (path : PosixPath) (e : BundleEmit) :
    List (String × Contents) → Prop
  | codeCut {w' : World} {taken : Bytes} {f : SystemError} :
    w.writeText path e.code = .ok ⟨w', taken, some (.system f)⟩ → IsCut e.code taken →
    LeavesBehind w path e [(w.absolutePath path.toString, .part taken)]
  | mapRefused {w' : World} {bs : Bytes} {map : Text} {f : SystemError} : map ∈ e.map →
    w.writeText path e.code = .ok ⟨w', bs, none⟩ →
    w'.writeText (mapPath path) map = .error (.system f) →
    LeavesBehind w path e [(w.absolutePath path.toString, .whole e.code)]
  | mapCut {w' w'' : World} {bs taken : Bytes} {map : Text} {f : SystemError} : map ∈ e.map →
    w.writeText path e.code = .ok ⟨w', bs, none⟩ →
    w'.writeText (mapPath path) map = .ok ⟨w'', taken, some (.system f)⟩ → IsCut map taken →
    LeavesBehind w path e [(w.absolutePath path.toString, .whole e.code),
      (w.absolutePath (mapPath path).toString, .part taken)]

theorem isCut_of_writeText {t : Text} {w' : World} {taken : Bytes} {f : SystemError}
    (hpath : path.IsClean) (h : w.writeText path t = .ok ⟨w', taken, some (.system f)⟩) :
    IsCut t taken := by
  have hwrites := World.writesText_writeText (w := w) hpath t
  rw [h] at hwrites
  cases hwrites with
  | part ht hprefix hne => exact ⟨_, ht, hprefix, hne⟩

theorem leavesBehind_of_code {last : List (String × Contents)} {f : CommandError}
    (hpath : path.IsClean) (h : Delivery.Stops path (w.absolutePath path.toString)
      (w.writeText path e.code) last (.command f)) :
    f.status = 2 ∧ (last = [] ∨ LeavesBehind w path e last) := by
  generalize hr : w.writeText path e.code = r at h
  cases h with
  | refused => exact ⟨rfl, .inl rfl⟩
  | cut => exact ⟨rfl, .inr (.codeCut hr (isCut_of_writeText hpath hr))⟩

theorem leavesBehind_of_map {last : List (String × Contents)} {f : CommandError} {map : Text}
    {w' : World} {bs : Bytes} (hpath : path.IsClean) (hmap : map ∈ e.map)
    (hcode : w.writeText path e.code = .ok ⟨w', bs, none⟩)
    (h : Delivery.Stops (mapPath path) (w'.absolutePath (mapPath path).toString)
      (w'.writeText (mapPath path) map) last (.command f)) :
    f.status = 2 ∧
      LeavesBehind w path e ((w.absolutePath path.toString, .whole e.code) :: last) := by
  have hmapPath : (mapPath path).IsClean := PosixPath.isClean_withSuffix hpath (by decide)
  have hsame : w'.absolutePath (mapPath path).toString = w.absolutePath (mapPath path).toString :=
    World.absolutePath_of_writeText hcode _
  generalize hr : w'.writeText (mapPath path) map = r at h
  rw [hsame] at h
  cases h with
  | refused => exact ⟨rfl, .mapRefused hmap hcode hr⟩
  | cut => exact ⟨rfl, .mapCut hmap hcode hr (isCut_of_writeText hmapPath hr)⟩

theorem leavesBehind_of_command {line : Except Fault String} {entries : List (String × Contents)}
    {f : CommandError} (hpath : path.IsClean)
    (h : Delivery.WritesOut line w (bundleFiles path e) entries (.error (.command f))) :
    f.status = 2 ∧ (entries = [] ∨ LeavesBehind w path e entries) := by
  cases h with
  | stopped hstops => exact leavesBehind_of_code hpath hstops
  | written hcode hrest =>
    cases hmap : e.map with
    | none =>
      rw [hmap] at hrest
      cases hrest
    | some map =>
      rw [hmap] at hrest
      cases hrest with
      | stopped hstops =>
        exact (leavesBehind_of_map hpath hmap hcode hstops).imp id .inr
      | written _ hnone => cases hnone

end CommandLine

namespace CommandRun

variable {w : World} {clock : String} {words rest : List String} {c : CommandLine}
  {path : PosixPath} {e : BundleEmit}

def AsksForFile (w : World) (words : List String) (c : CommandLine) (path : PosixPath) : Prop :=
  AsksFor w words c ∧ c.output = some path

def AsksOnlyForFile (w : World) (words : List String) : Prop :=
  ∀ r, CliRequest.read words = .ok r →
    ∃ isVerbose rest, r = .command .bundle isVerbose rest ∧
      ∀ q, CommandRequest.read w .bundle rest = .ok q → ∃ c path, q = .emit c ∧ c.output = some path

/-- What a bundle command has written agrees with how it ends. Nothing is told here of commands
whose line cannot be rendered, or whose texts have no bytes. -/
structure FilesAgree [HostNames] (w : World) (words : List String) (r : CommandRun) : Prop where
  written : r.ending = .exit 0 → ∃ c path e, AsksForFile w words c path ∧ c.Emits w e ∧
    r.written = CommandLine.bundleEntries w path e
  succeeds : ∀ c path e line, AsksForFile w words c path → c.Emits w e →
    r.written = CommandLine.bundleEntries w path e →
    CommandLine.bundledLine w.console path e.map = .ok line → r.ending = .exit 0
  leaves : ∀ status, r.ending = .exit status → status ≠ 0 → r.written = [] ∨
    status = 2 ∧ ∃ c path e, AsksForFile w words c path ∧ c.Emits w e ∧
      CommandLine.LeavesBehind w path e r.written
  escapes : ∀ f, r.ending = .failure f → r.written = [] ∨
    ∃ c path e, AsksForFile w words c path ∧ c.Emits w e ∧
      ((∃ f, CommandLine.bundledLine w.console path e.map = .error f) ∨
        ∃ file ∈ CommandLine.bundleFiles path e, ∃ f, Utf8.encode file.2 = .error f)

theorem AsksFor.unique {c' : CommandLine} (h : AsksFor w words c) (h' : AsksFor w words c') :
    c = c' := by
  obtain ⟨isVerbose, rest, hcommand, hread⟩ := h
  obtain ⟨isVerbose', rest', hcommand', hread'⟩ := h'
  cases hcommand.symm.trans hcommand'
  cases hread.symm.trans hread'
  rfl

theorem filesAgree_of_unwritten [HostNames] {r : CommandRun} (hwritten : r.written = [])
    (hending : r.ending ≠ .exit 0) : FilesAgree w words r where
  written h := absurd h hending
  succeeds c path e line _ _ h _ := by
    rw [hwritten] at h
    cases h
  leaves _ _ _ := .inl hwritten
  escapes _ _ := .inl hwritten

theorem filesAgree_refused [HostNames] (w : World) (words : List String) (e : Failure) :
    FilesAgree w words (refused e) :=
  filesAgree_of_unwritten rfl nofun

theorem command_of_exit {console : Console} {format : LogFormat} {d : Delivery}
    {events : List Event} {status : Nat}
    (h : (ofDelivery console format d events).ending = .exit status) (hstatus : status ≠ 0) :
    ∃ f, d.ending = .error (.command f) ∧ f.status = status := by
  unfold ofDelivery at h
  cases hd : d.ending with
  | ok u =>
    rw [hd] at h
    exact absurd (Ending.exit.inj h).symm hstatus
  | error f =>
    cases f with
    | command f =>
      simp only [hd] at h
      exact ⟨f, rfl, Ending.exit.inj h⟩
    | _ =>
      simp only [hd] at h
      cases h

theorem error_of_failure {console : Console} {format : LogFormat} {d : Delivery}
    {events : List Event} {f : Failure}
    (h : (ofDelivery console format d events).ending = .failure f) :
    d.ending = .error f ∧ ∀ e, f ≠ .command e := by
  unfold ofDelivery at h
  cases hd : d.ending with
  | ok u =>
    rw [hd] at h
    cases h
  | error g =>
    cases g with
    | command g =>
      simp only [hd] at h
      cases h
    | _ =>
      simp only [hd] at h
      cases h
      exact ⟨rfl, nofun⟩

theorem filesAgree_delivered [HostNames] (hasks : AsksForFile w words c path) (hpath : path.IsClean)
    (he : c.Emits w e) (console : Console) (format : LogFormat) (events : List Event) :
    FilesAgree w words
      (.ofDelivery console format (CommandLine.deliverBundle (some path) e (.start w)) events) := by
  have hwrites := CommandLine.writesOut_bundle hpath he.isEmpty_map w
  obtain ⟨hleaves, -⟩ := CommandLine.written_deliverBundle w path e
  generalize CommandLine.deliverBundle (some path) e (.start w) = d at hwrites hleaves
  have hwritten : (ofDelivery console format d events).written = d.written := written_ofDelivery
  have hentries := CommandLine.entriesOf_bundleFiles w path e
  -- the ending tells how far the writing came, so that each clause is one about the entries
  constructor
  · intro h
    rw [ending_of_ofDelivery hleaves h] at hwrites
    exact ⟨c, path, e, hasks, he, hwritten.trans (hwrites.of_ok.trans hentries)⟩
  · intro c' path' e' line hasks' he' h hline
    obtain rfl := hasks.1.unique hasks'.1
    obtain rfl : path = path' := Option.some.inj (hasks.2.symm.trans hasks'.2)
    obtain rfl := he.unique he'
    exact ending_ofDelivery
      (hwrites.ending_of_entries (hwritten.symm.trans (h.trans hentries.symm)) hline)
  · intro status h hstatus
    obtain ⟨f, hf, rfl⟩ := command_of_exit h hstatus
    rw [hf] at hwrites
    obtain ⟨hsystem, hleft⟩ := CommandLine.leavesBehind_of_command hpath hwrites
    rw [hwritten]
    exact hleft.imp id fun hbehind => ⟨hsystem, c, path, e, hasks, he, hbehind⟩
  · intro f h
    obtain ⟨hf, hother⟩ := error_of_failure h
    rw [hf] at hwrites
    obtain ⟨g, rfl⟩ | hline | hfile :=
      hwrites.of_failure (CommandLine.isClean_bundleFiles hpath)
    · exact absurd rfl (hother g)
    · exact .inr ⟨c, path, e, hasks, he, .inl hline⟩
    · exact .inr ⟨c, path, e, hasks, he, .inr hfile⟩

/-- Written files and the status agree. A bundle command with an output file succeeds just if its
code is written as a whole, and its source map beside it; if it fails, nothing is written, or the
code whose source map cannot be written, or the beginning of the file that the system has cut. -/
theorem files_agree_with_status [HostNames] (w : World) (clock : String)
    (h : AsksOnlyForFile w words) :
    FilesAgree w words (ofWords w clock words) := by
  cases hcommand : CliRequest.read words with
  | error f =>
    rw [ofWords, hcommand]
    exact filesAgree_refused w words _
  | ok r =>
    obtain ⟨isVerbose, rest, rfl, hrest⟩ := h r hcommand
    rw [ofWords_of_command hcommand]
    cases hread : CommandRequest.read w .bundle rest with
    | error f =>
      unfold ofCommand
      cases logFormat w clock isVerbose with
      | error g => exact filesAgree_refused w words g
      | ok format =>
        rw [hread]
        exact filesAgree_refused w words f
    | ok q =>
      obtain ⟨c, path, rfl, hpath⟩ := hrest q hread
      have hasks : AsksForFile w words c path := ⟨⟨isVerbose, rest, hcommand, hread⟩, hpath⟩
      obtain ⟨f, hrun⟩ | ⟨format, hrun⟩ := ofCommand_of_read hread
      · rw [hrun]
        exact filesAgree_refused w words f
      rw [hrun, CommandLine.run_of_shape (CommandRequest.isSome_shape_of_read hread), hpath]
      cases hcall : (c.call w bundle).outcome with
      | error f =>
        -- the call has failed before anything could be written
        refine filesAgree_of_unwritten written_ofDelivery fun hsuccess => ?_
        have hleaves : (Delivery.failed w f).Leaves := by
          rintro _ ⟨⟩
          exact CommandLine.leaves_call hcall
        cases ending_of_ofDelivery hleaves hsuccess
      | ok e =>
        exact filesAgree_delivered hasks (CommandRequest.isClean_output hread hpath)
          (CommandLine.outcome_call_eq_ok_iff.mp hcall) w.console format _

end CommandRun

def Value.mapped : Value :=
  .dict [Members.field "code" (.str (.ofString "x")), Members.field "map" (.str (.ofString "m"))]

def World.mapped : World := .handing [] .mapped

def World.blocked : World := .handing [("/work/out.js.map", .directory)] .mapped

namespace CommandLine

open CommandRun

def mapped : BundleEmit := ⟨.ofString "x", some (.ofString "m")⟩

def mappedWords : List String := "bundle" :: "-o" :: "/work/out.js" :: fixedWords

def mapFile : PosixPath := mapPath outFile

theorem isClean_mapFile : mapFile.IsClean :=
  PosixPath.isClean_withSuffix isClean_outFile (by decide)

theorem asksForFile_mapped {files : List (String × FileEntry)}
    (h : (World.handing files .mapped).entry "/work/out.js" = .failure SystemError.missing) :
    AsksForFile (.handing files .mapped) mappedWords { fixed with output := some outFile }
      outFile :=
  ⟨⟨false, "-o" :: "/work/out.js" :: fixedWords, Location.ok_of_toOption (by decide),
    CommandRequest.read_withOutput rfl rfl (check_of_missing .bundle (by decide) h)⟩, rfl⟩

theorem asksOnlyForFile_of_asksForFile {w : World} {words : List String} {c : CommandLine}
    {path : PosixPath} (h : AsksForFile w words c path) : AsksOnlyForFile w words := by
  obtain ⟨⟨isVerbose, rest, hcommand, hread⟩, hpath⟩ := h
  intro r hr
  obtain rfl := Except.ok.inj (hcommand.symm.trans hr)
  refine ⟨isVerbose, rest, rfl, fun q hq => ?_⟩
  obtain rfl := Except.ok.inj (hread.symm.trans hq)
  exact ⟨c, path, rfl, hpath⟩

theorem deliver_mapped {w : World} (hparent : w.entry outFile.parent.toString = .directory)
    (hentry : w.entry outFile.toString = .failure SystemError.missing)
    (hfree : w.writeFaults = []) :
    deliverBundle (some outFile) mapped (.start w) =
      Delivery.writeAll (bundledLine w.console outFile mapped.map) [(mapFile, .ofString "m")]
        { Delivery.start w with
          world := w.put outFile.toString [0x78]
          written := [(w.absolutePath outFile.toString, .whole mapped.code)] } := by
  have hmap : ∀ m ∈ mapped.map, m.isEmpty = false := by decide
  rw [deliverBundle_eq hmap]
  exact Delivery.writeAll_of_ok rfl
    (World.writeText_of_missing isClean_outFile hparent hentry hfree rfl)

end CommandLine

namespace CommandRun

open CommandLine

theorem code_written_with_map : (ofWords .mapped "now" mappedWords).ending = .exit 0 ∧
    (ofWords .mapped "now" mappedWords).written =
      [("/work/out.js", .whole (.ofString "x")), ("/work/out.js.map", .whole (.ofString "m"))] := by
  have hasks : AsksForFile .mapped mappedWords { fixed with output := some outFile } outFile :=
    asksForFile_mapped (by decide)
  have hemits : { fixed with output := some outFile }.Emits .mapped mapped :=
    emits_handing [] .mapped rfl
  have hsuccess : (ofWords .mapped "now" mappedWords).ending = .exit 0 := by
    obtain ⟨format, events, hrun⟩ := run_handing [] .mapped hasks.1 hemits
    have hcode := deliver_mapped (w := .mapped) (by decide) (by decide) rfl
    have hmap := World.writeText_of_missing
      (w := World.mapped.put outFile.toString [0x78]) (t := .ofString "m") isClean_mapFile
      (by decide) (by decide) rfl rfl
    obtain ⟨line, hline⟩ : ∃ line,
        bundledLine World.mapped.console outFile CommandLine.mapped.map = .ok line :=
      Status.exists_success (by decide)
    rw [World.mapped] at hcode hline ⊢
    rw [hrun, hcode, Delivery.writeAll_of_ok rfl hmap]
    refine ending_ofDelivery ?_
    rw [Delivery.writeAll, hline]
    rfl
  obtain ⟨c, path, e, hasks', he, hwritten⟩ := (files_agree_with_status .mapped "now"
    (asksOnlyForFile_of_asksForFile hasks)).written hsuccess
  obtain rfl := hasks.1.unique hasks'.1
  obtain rfl : outFile = path := Option.some.inj (hasks.2.symm.trans hasks'.2)
  obtain rfl := hemits.unique he
  have hentries : bundleEntries .mapped outFile CommandLine.mapped =
      [("/work/out.js", .whole (.ofString "x")),
        ("/work/out.js.map", .whole (.ofString "m"))] := by decide
  exact ⟨hsuccess, hwritten.trans hentries⟩

theorem code_left_without_map : AsksOnlyForFile .blocked mappedWords ∧
    (ofWords .blocked "now" mappedWords).ending = .exit 2 ∧
    (ofWords .blocked "now" mappedWords).written = [("/work/out.js", .whole (.ofString "x"))] := by
  have hasks : AsksForFile .blocked mappedWords { fixed with output := some outFile } outFile :=
    asksForFile_mapped (by decide)
  have hemits : { fixed with output := some outFile }.Emits .blocked mapped :=
    emits_handing [("/work/out.js.map", .directory)] .mapped rfl
  obtain ⟨format, events, hrun⟩ :=
    run_handing [("/work/out.js.map", .directory)] .mapped hasks.1 hemits
  have hcode := deliver_mapped (w := .blocked) (by decide) (by decide) rfl
  have hmap := World.writeText_of_directory
    (w := World.blocked.put outFile.toString [0x78]) (t := .ofString "m") isClean_mapFile
    (by decide) (by decide) rfl
  have hplace : World.blocked.absolutePath outFile.toString = "/work/out.js" := by decide
  rw [World.blocked] at hcode hasks ⊢
  rw [hrun, hcode, Delivery.writeAll_of_refused hmap]
  refine ⟨asksOnlyForFile_of_asksForFile hasks, rfl, ?_⟩
  rw [written_ofDelivery]
  exact congrArg (fun name => [(name, Contents.whole (.ofString "x"))]) hplace

end CommandRun

end EmitBridge
