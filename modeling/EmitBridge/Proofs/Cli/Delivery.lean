import EmitBridge.Cli.Command
import EmitBridge.Proofs.Run.Trace
import EmitBridge.Proofs.Text.Escape
import EmitBridge.Proofs.Text.Utf8

/-! What a command hands over, and how it leaves. Only a bundle without an output file is printed,
and no failure leaves a command with the status of success. -/

namespace EmitBridge

namespace Text

variable {t : Text}

def shown (t : Text) : String := String.ofList (Escape.strip t.toString.toList)

def hasEscape (t : Text) : Bool := Escape.occurs t.toString.toList

theorem ofChars_injective : Function.Injective ofChars := fun cs ds h => by
  have hchars := congrArg toChars? h
  rw [toChars?_ofChars, toChars?_ofChars] at hchars
  exact Option.some.inj hchars

theorem encode_ofChars (cs : List Char) :
    Utf8.encode (ofChars cs) = .ok (Utf8.encodeString (String.ofList cs)) := by
  rw [Utf8.encode, toChars?_ofChars, Utf8.encodeString, String.toList_ofList]

theorem encode_ofString (s : String) : Utf8.encode (ofString s) = .ok (Utf8.encodeString s) := by
  rw [ofString, encode_ofChars, String.ofList_toList]

theorem ofString_shown_iff {bs : Bytes} (h : Utf8.encode t = .ok bs) :
    ofString t.shown = t ↔ t.hasEscape = false := by
  obtain ⟨cs, rfl, -⟩ := Utf8.encode_eq_ok_iff.mp h
  rw [shown, hasEscape, toString_ofChars, String.toList_ofList, ofString, String.toList_ofList,
    ofChars_injective.eq_iff]
  exact Escape.strip_eq_self_iff cs

end Text

def Failure.Leaves : Failure → Prop
  | .command e => e.status ≠ 0
  | _ => True

namespace World

variable {w w' : World} {path : PosixPath} {t : Text}

theorem exists_files_of_write {name : String} {bs : Bytes} {r : Written}
    (h : w.write name bs = .ok r) : ∃ files, r.world = { w with files := files } := by
  have hstore : ∀ {r : Written}, w.store name bs = .ok r →
      ∃ files, r.world = { w with files := files } := by
    intro r h
    unfold store at h
    split at h
    · cases h
      exact ⟨_, rfl⟩
    · cases h
    · split at h
      · cases h
        exact ⟨_, rfl⟩
      · cases h
        exact ⟨_, rfl⟩
  unfold write at h
  split at h
  · cases h
  split at h
  · exact hstore h
  · cases h
  · split at h
    · exact hstore h
    · cases h

theorem exists_files_of_writeText {r : Written} (h : w.writeText path t = .ok r) :
    ∃ files, r.world = { w with files := files } := by
  obtain ⟨-, -, h⟩ := Run.exists_of_bind_eq_ok h
  cases he : Utf8.encode t with
  | ok bs =>
    rw [he] at h
    exact exists_files_of_write h
  | error e =>
    rw [he] at h
    obtain ⟨opened, hopened, h⟩ := Run.exists_of_bind_eq_ok h
    obtain ⟨files, hfiles⟩ := exists_files_of_write hopened
    cases h
    exact ⟨files, hfiles⟩

theorem absolutePath_of_writeText {r : Written} (h : w.writeText path t = .ok r) (name : String) :
    r.world.absolutePath name = w.absolutePath name := by
  obtain ⟨files, hfiles⟩ := exists_files_of_writeText h
  rw [hfiles]
  rfl

end World

namespace Delivery

variable {d : Delivery} {t : Text}

def Leaves (d : Delivery) : Prop := ∀ e, d.ending = .error e → e.Leaves

theorem leaves_start (w : World) : (start w).Leaves := nofun

theorem leaves_fail {e : Failure} (h : e.Leaves) (d : Delivery) : (d.fail e).Leaves := by
  rintro _ ⟨⟩
  exact h

theorem ending_andThen_eq_ok {step : Delivery → Delivery} (h : (d.andThen step).ending = .ok ()) :
    d.ending = .ok () ∧ d.andThen step = step d := by
  unfold andThen at h ⊢
  cases hd : d.ending with
  | ok u =>
    rw [hd] at h
    exact ⟨rfl, rfl⟩
  | error e =>
    simp only [hd] at h
    cases h

theorem leaves_andThen {step : Delivery → Delivery} (hd : d.Leaves) (hs : (step d).Leaves) :
    (d.andThen step).Leaves := by
  unfold andThen
  split
  · exact hs
  · exact hd

theorem stdout_andThen {step : Delivery → Delivery} (h : (step d).stdout = d.stdout) :
    (d.andThen step).stdout = d.stdout := by
  unfold andThen
  split
  · exact h
  · rfl

theorem print_of_encode {bs : Bytes} (h : Utf8.encode t = .ok bs) (d : Delivery) :
    d.print t = { d with stdout := d.stdout ++ t.shown } := by
  rw [print, h]
  rfl

theorem print_of_error {e : Utf8.EncodeError} (h : Utf8.encode t = .error e) (d : Delivery) :
    d.print t = d.fail (.fault (.surrogates e)) := by
  rw [print, h]

theorem leaves_print (t : Text) (h : d.Leaves) : (d.print t).Leaves := by
  cases he : Utf8.encode t with
  | ok bs =>
    rw [print_of_encode he]
    exact h
  | error e =>
    rw [print_of_error he]
    exact leaves_fail (e := .fault (.surrogates e)) trivial d

theorem stdout_tell (line : Except Fault String) (d : Delivery) :
    (d.tell line).stdout = d.stdout := by
  cases line <;> rfl

theorem leaves_tell (line : Except Fault String) (h : d.Leaves) : (d.tell line).Leaves := by
  cases line with
  | ok s => exact h
  | error f => exact leaves_fail (e := .fault f) trivial d

theorem written_tell (line : Except Fault String) (d : Delivery) :
    (d.tell line).written = d.written := by
  cases line <;> rfl

theorem stdout_write (path : PosixPath) (t : Text) (d : Delivery) :
    (d.write path t).stdout = d.stdout := by
  unfold write
  split <;> rfl

theorem leaves_unwritable (path : PosixPath) (f : Fault) : (unwritable path f).Leaves := by
  cases f with
  | system e => exact (by decide : CommandError.systemStatus ≠ 0)
  | _ => trivial

theorem leaves_write (path : PosixPath) (t : Text) (h : d.Leaves) : (d.write path t).Leaves := by
  unfold write
  split
  · exact leaves_fail (leaves_unwritable path _) d
  · exact leaves_fail (leaves_unwritable path _) _
  · exact h

theorem written_write {path : PosixPath} (h : (d.write path t).ending = .ok ()) :
    (d.write path t).written = d.written ++ [(d.world.absolutePath path.toString, .whole t)] ∧
      (d.write path t).world.absolutePath = d.world.absolutePath := by
  unfold write at h ⊢
  split at h
  · cases h
  · cases h
  · next w bs hw =>
    exact ⟨rfl, funext fun name => World.absolutePath_of_writeText hw name⟩

end Delivery

namespace CommandLine

open Delivery

variable {w : World} {e : BundleEmit} {path : PosixPath}

def mapEntry (w : World) (path : PosixPath) (e : BundleEmit) : List (String × Contents) :=
  (e.map.filter (!·.isEmpty)).toList.map fun map =>
    (w.absolutePath (mapPath path).toString, .whole map)

theorem deliverBundle_none (d : Delivery) : ∃ line? : Option (Except Fault String),
    deliverBundle none e d = match line? with
      | none => d.print e.code
      | some line => (d.print e.code).andThen (.tell line) := by
  unfold deliverBundle
  cases e.map.filter (!·.isEmpty) with
  | none => exact ⟨none, rfl⟩
  | some map => exact ⟨some _, rfl⟩

theorem printed_deliverBundle (w : World) (e : BundleEmit) :
    (deliverBundle none e (.start w)).Leaves ∧
    ((deliverBundle none e (.start w)).stdout = "" ∨
      (deliverBundle none e (.start w)).stdout = e.code.shown) ∧
    ((deliverBundle none e (.start w)).ending = .ok () →
      (deliverBundle none e (.start w)).stdout = e.code.shown ∧
        ∃ bs, Utf8.encode e.code = .ok bs) := by
  have hprinted : ((start w).print e.code).Leaves := leaves_print _ (leaves_start w)
  have hstdout : ((start w).print e.code).stdout = "" ∨
      ((start w).print e.code).stdout = e.code.shown := by
    cases he : Utf8.encode e.code with
    | ok bs =>
      rw [print_of_encode he]
      exact .inr (String.empty_append ..)
    | error f =>
      rw [print_of_error he]
      exact .inl rfl
  have hok (h : ((start w).print e.code).ending = .ok ()) :
      ((start w).print e.code).stdout = e.code.shown ∧ ∃ bs, Utf8.encode e.code = .ok bs := by
    cases he : Utf8.encode e.code with
    | ok bs =>
      rw [print_of_encode he]
      exact ⟨String.empty_append .., bs, rfl⟩
    | error f =>
      rw [print_of_error he] at h
      cases h
  -- the line goes to standard error, so that it adds nothing to what is printed
  obtain ⟨line?, hline⟩ := deliverBundle_none (e := e) (start w)
  rw [hline]
  cases line? with
  | none => exact ⟨hprinted, hstdout, hok⟩
  | some line =>
    have hsame : (((start w).print e.code).andThen (.tell line)).stdout =
        ((start w).print e.code).stdout := stdout_andThen (stdout_tell line _)
    refine ⟨leaves_andThen hprinted (leaves_tell line hprinted), hsame ▸ hstdout, fun h => ?_⟩
    rw [hsame]
    exact hok (ending_andThen_eq_ok h).1

theorem deliverBundle_some (path : PosixPath) (e : BundleEmit) (d : Delivery) :
    ∃ line, deliverBundle (some path) e d = match e.map.filter (!·.isEmpty) with
      | none => (d.write path e.code).andThen (.tell line)
      | some map => ((d.write path e.code).andThen (.write (mapPath path) map)).andThen
          (.tell line) := by
  unfold deliverBundle
  cases e.map.filter (!·.isEmpty) with
  | none => exact ⟨_, rfl⟩
  | some map => exact ⟨_, rfl⟩

theorem written_deliverBundle (w : World) (path : PosixPath) (e : BundleEmit) :
    (deliverBundle (some path) e (.start w)).Leaves ∧
    (deliverBundle (some path) e (.start w)).stdout = "" ∧
    ((deliverBundle (some path) e (.start w)).ending = .ok () →
      (deliverBundle (some path) e (.start w)).written =
        (w.absolutePath path.toString, .whole e.code) :: mapEntry w path e) := by
  have hleaves : ((start w).write path e.code).Leaves := leaves_write _ _ (leaves_start w)
  have hstdout : ((start w).write path e.code).stdout = "" := stdout_write path e.code (start w)
  obtain ⟨line, hline⟩ := deliverBundle_some path e (start w)
  rw [hline, mapEntry]
  cases e.map.filter (!·.isEmpty) with
  | none =>
    refine ⟨leaves_andThen hleaves (leaves_tell line hleaves),
      (stdout_andThen (stdout_tell line _)).trans hstdout, fun h => ?_⟩
    obtain ⟨hok, hstep⟩ := ending_andThen_eq_ok h
    simp only [hstep]
    rw [written_tell, (written_write hok).1]
    rfl
  | some map =>
    have hmore : (((start w).write path e.code).andThen (.write (mapPath path) map)).Leaves :=
      leaves_andThen hleaves (leaves_write _ _ hleaves)
    refine ⟨leaves_andThen hmore (leaves_tell line hmore),
      (stdout_andThen (stdout_tell line _)).trans
        ((stdout_andThen (stdout_write _ _ _)).trans hstdout), fun h => ?_⟩
    obtain ⟨hboth, hstep⟩ := ending_andThen_eq_ok h
    obtain ⟨hok, hwrite⟩ := ending_andThen_eq_ok hboth
    rw [hwrite] at hboth
    -- the map is named in the world that the code is written to; no directory changes there
    obtain ⟨hcode, hworld⟩ := written_write hok
    simp only [hstep]
    rw [written_tell, hwrite, (written_write hboth).1, hcode, hworld]
    rfl

end CommandLine

end EmitBridge
