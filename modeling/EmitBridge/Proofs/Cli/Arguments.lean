import EmitBridge.Cli.Flags
import EmitBridge.Proofs.Run.Trace
import EmitBridge.Proofs.Text.Cut

/-! What the words of a command are read as. Every option that is read has a form, and a value just
if its form takes one; so an option may be put in front of the others. -/

namespace EmitBridge

namespace OptionForm

variable {κ : Type} {forms : List (OptionForm κ)}

def Fits (forms : List (OptionForm κ)) (o : κ × Option String) : Prop :=
  ∃ f ∈ forms, f.key = o.1 ∧ f.takesValue = o.2.isSome

structure Reading.Fits (forms : List (OptionForm κ)) (r : Reading κ) : Prop where
  options : ∀ o ∈ r.1, OptionForm.Fits forms o
  open? : ∀ o ∈ r.2, ∃ f ∈ forms, f.key = o.1 ∧ f.takesValue = true

theorem mem_of_find? {name : String} {f : OptionForm κ} (h : find? forms name = some f) :
    f ∈ forms := List.mem_of_find?_eq_some h

theorem Reading.fits_nil : Reading.Fits forms ([], none) := ⟨nofun, nofun⟩

theorem Reading.fits_option {f : OptionForm κ} (hf : f ∈ forms) {value? : Option String}
    (hvalue : f.takesValue = value?.isSome) : Reading.Fits forms ([(f.key, value?)], none) := by
  refine ⟨fun o ho => ?_, nofun⟩
  rw [List.mem_singleton.mp ho]
  exact ⟨f, hf, rfl, hvalue⟩

theorem Reading.fits_open {f : OptionForm κ} (hf : f ∈ forms) (hvalue : f.takesValue = true)
    (name : String) : Reading.Fits forms ([], some (f.key, name)) := by
  refine ⟨nofun, ?_⟩
  rintro o ⟨⟩
  exact ⟨f, hf, rfl, hvalue⟩

theorem readShort_cons {c : Char} {rest : List Char} {r : Reading κ}
    (h : readShort forms (c :: rest) = .ok r) : ∃ f ∈ forms,
      (f.takesValue = false ∧ ∃ more, readShort forms rest = .ok more ∧
        r = ((f.key, none) :: more.1, more.2)) ∨
      (f.takesValue = true ∧ ∃ name, r = ([], some (f.key, name))) ∨
      (f.takesValue = true ∧ r = ([(f.key, some (String.ofList rest))], none)) := by
  unfold readShort at h
  cases hf : find? forms (String.ofList ['-', c]) with
  | none =>
    simp only [hf] at h
    cases h
  | some f =>
    refine ⟨f, mem_of_find? hf, ?_⟩
    simp only [hf] at h
    cases hvalue : f.takesValue with
    | false =>
      simp only [hvalue, Bool.not_false, if_true] at h
      obtain ⟨more, hrest, h⟩ := Run.exists_of_bind_eq_ok h
      exact .inl ⟨rfl, more, hrest, (Except.ok.inj h).symm⟩
    | true =>
      simp only [hvalue, Bool.not_true, Bool.false_eq_true, if_false] at h
      split at h
      · exact .inr (.inl ⟨rfl, _, (Except.ok.inj h).symm⟩)
      · exact .inr (.inr ⟨rfl, (Except.ok.inj h).symm⟩)

theorem readWord_cases {word : String} {r : Reading κ} (h : readWord forms word = .ok r) :
    (∃ f ∈ forms, ∃ value? : Option String, f.takesValue = value?.isSome ∧
      (∀ value ∈ value?, value.toList ⊆ word.toList) ∧ r = ([(f.key, value?)], none)) ∨
    (∃ f ∈ forms, f.takesValue = true ∧ ∃ name, r = ([], some (f.key, name))) ∨
    (∃ c letters, word.toList = c :: letters ∧ readShort forms letters = .ok r) ∨
    r = ([], none) := by
  have hsplit : ∀ value ∈ (splitValue word).2, value.toList ⊆ word.toList := by
    intro value hvalue
    obtain ⟨cs, hcs, rfl⟩ := Option.map_eq_some_iff.mp hvalue
    rw [String.toList_ofList]
    exact Cut.first_snd_subset (Prod.ext rfl hcs)
  unfold readWord at h
  generalize splitValue word = parts at h hsplit
  obtain ⟨name, value?⟩ := parts
  simp only at h hsplit
  split at h
  -- the word is the long name of an option
  · next f hf =>
    have hmem : f ∈ forms := by
      split at hf
      · cases hf
      · exact mem_of_find? hf
    split at h
    · next value hvalue =>
      exact .inl ⟨f, hmem, some value, hvalue, hsplit, (Except.ok.inj h).symm⟩
    · next hvalue => exact .inr (.inl ⟨f, hmem, hvalue, name, (Except.ok.inj h).symm⟩)
    · cases h
    · next hvalue => exact .inl ⟨f, hmem, none, hvalue, nofun, (Except.ok.inj h).symm⟩
  · split at h
    · cases h
    · next c letters _ hletters => exact .inr (.inr (.inl ⟨c, letters, hletters, h⟩))
    · exact .inr (.inr (.inr (Except.ok.inj h).symm))

theorem fits_readShort {letters : List Char} {r : Reading κ} (h : readShort forms letters = .ok r) :
    Reading.Fits forms r := by
  induction letters generalizing r with
  | nil =>
    cases h
    exact Reading.fits_nil
  | cons c rest ih =>
    obtain ⟨f, hf, ⟨hvalue, more, hrest, rfl⟩ | ⟨hvalue, name, rfl⟩ | ⟨hvalue, rfl⟩⟩ :=
      readShort_cons h
    · obtain ⟨hoptions, hopen⟩ := ih hrest
      exact ⟨List.forall_mem_cons.mpr ⟨⟨f, hf, rfl, hvalue⟩, hoptions⟩, hopen⟩
    · exact Reading.fits_open hf hvalue name
    · exact Reading.fits_option hf hvalue

theorem fits_readWord {word : String} {r : Reading κ} (h : readWord forms word = .ok r) :
    Reading.Fits forms r := by
  obtain ⟨f, hf, value?, hvalue, -, rfl⟩ | ⟨f, hf, hvalue, name, rfl⟩ |
    ⟨c, letters, -, hshort⟩ | rfl := readWord_cases h
  · exact Reading.fits_option hf hvalue
  · exact Reading.fits_open hf hvalue name
  · exact fits_readShort hshort
  · exact Reading.fits_nil

end OptionForm

namespace Arguments

open OptionForm

variable {κ : Type} {forms : List (OptionForm κ)} {mixed : Bool} {words : List String}
  {a : Arguments κ}

section Equations

-- Unfolding the reader takes long; everything else is told from this equation.
theorem read_cons (forms : List (OptionForm κ)) (mixed : Bool) (word : String)
    (rest : List String) : read forms mixed (word :: rest) =
      if word == "--" then .ok ⟨[], rest⟩
      else if isOption word then
        match readWord forms word with
        | .error e => .error e
        | .ok (options, none) => withOptions options <$> read forms mixed rest
        | .ok (options, some (key, name)) =>
          match rest with
          | [] => .error (.optionArgument name)
          | value :: rest =>
            withOptions (options ++ [(key, some value)]) <$> read forms mixed rest
      else if mixed then withWord word <$> read forms mixed rest
      else .ok ⟨[], word :: rest⟩ :=
  read.eq_def forms mixed (word :: rest)

variable {word value : String} {rest : List String} {options : List (κ × Option String)} {key : κ}
  {name : String}

theorem read_dashes (h : (word == "--") = true) :
    read forms mixed (word :: rest) = .ok ⟨[], rest⟩ := by
  rw [read_cons, if_pos h]

theorem read_closed (hd : ¬(word == "--") = true) (ho : isOption word = true)
    (h : readWord forms word = .ok (options, none)) :
    read forms mixed (word :: rest) = withOptions options <$> read forms mixed rest := by
  rw [read_cons, if_neg hd, if_pos ho, h]

theorem read_open (hd : ¬(word == "--") = true) (ho : isOption word = true)
    (h : readWord forms word = .ok (options, some (key, name))) :
    read forms mixed (word :: value :: rest) =
      withOptions (options ++ [(key, some value)]) <$> read forms mixed rest := by
  rw [read_cons, if_neg hd, if_pos ho, h]

theorem read_word (hd : ¬(word == "--") = true) (ho : ¬isOption word = true) (hm : mixed = true) :
    read forms mixed (word :: rest) = withWord word <$> read forms mixed rest := by
  rw [read_cons, if_neg hd, if_neg ho, if_pos hm]

theorem read_last (hd : ¬(word == "--") = true) (ho : ¬isOption word = true)
    (hm : ¬mixed = true) : read forms mixed (word :: rest) = .ok ⟨[], word :: rest⟩ := by
  rw [read_cons, if_neg hd, if_neg ho, if_neg hm]

theorem read_failed {e : UsageError} (hd : ¬(word == "--") = true) (ho : isOption word = true)
    (h : readWord forms word = .error e) : read forms mixed (word :: rest) = .error e := by
  rw [read_cons, if_neg hd, if_pos ho, h]

theorem read_unfinished (hd : ¬(word == "--") = true) (ho : isOption word = true)
    (h : readWord forms word = .ok (options, some (key, name))) :
    read forms mixed [word] = .error (.optionArgument name) := by
  rw [read_cons, if_neg hd, if_pos ho, h]

end Equations

theorem forall_withOptions {Q : κ × Option String → Prop} {options : List (κ × Option String)}
    (ho : ∀ o ∈ options, Q o) (ha : ∀ o ∈ a.options, Q o) :
    ∀ o ∈ (a.withOptions options).options, Q o := by
  intro o h
  rcases List.mem_append.mp h with h | h
  · exact ho o h
  · exact ha o h

/-- How arguments are gathered from words: options are put in front of those that come later, and
the words behind two dashes or a first argument are left as they are. -/
inductive Gathers (forms : List (OptionForm κ)) : List String → Arguments κ → Prop
  | nil : Gathers forms [] ⟨[], []⟩
  | dashes (word : String) (rest : List String) : Gathers forms (word :: rest) ⟨[], rest⟩
  | closed {word : String} {rest : List String} {options : List (κ × Option String)}
    {b : Arguments κ} : readWord forms word = .ok (options, none) → Gathers forms rest b →
    Gathers forms (word :: rest) (b.withOptions options)
  | opened {word value name : String} {rest : List String} {options : List (κ × Option String)}
    {key : κ} {b : Arguments κ} : readWord forms word = .ok (options, some (key, name)) →
    Gathers forms rest b →
    Gathers forms (word :: value :: rest) (b.withOptions (options ++ [(key, some value)]))
  | word (word : String) {rest : List String} {b : Arguments κ} : Gathers forms rest b →
    Gathers forms (word :: rest) (b.withWord word)
  | last (words : List String) : Gathers forms words ⟨[], words⟩

theorem gathers_of_read (h : read forms mixed words = .ok a) : Gathers forms words a := by
  -- each word ends the options, is one, takes the next word for its value, or stands for itself
  induction words using read.induct forms mixed generalizing a with
  | case1 =>
    cases h
    exact .nil
  | case2 word rest hd =>
    rw [read_dashes hd] at h
    cases h
    exact .dashes word rest
  | case3 word rest hd ho e hw =>
    rw [read_failed hd ho hw] at h
    cases h
  | case4 word rest hd ho options hw ih =>
    rw [read_closed hd ho hw] at h
    obtain ⟨b, hb, rfl⟩ := Run.exists_of_map_eq_ok h
    exact .closed hw (ih hb)
  | case5 word hd ho options key name hw =>
    rw [read_unfinished hd ho hw] at h
    cases h
  | case6 word hd ho options key name hw value rest ih =>
    rw [read_open hd ho hw] at h
    obtain ⟨b, hb, rfl⟩ := Run.exists_of_map_eq_ok h
    exact .opened hw (ih hb)
  | case7 word rest hd ho hm ih =>
    rw [read_word hd ho hm] at h
    obtain ⟨b, hb, rfl⟩ := Run.exists_of_map_eq_ok h
    exact .word word (ih hb)
  | case8 word rest hd ho hm =>
    rw [read_last hd ho hm] at h
    cases h
    exact .last _

theorem Gathers.forall_options {Q : κ × Option String → Prop} (h : Gathers forms words a)
    (hclosed : ∀ word ∈ words, ∀ r, readWord forms word = .ok r → ∀ o ∈ r.1, Q o)
    (hopen : ∀ word ∈ words, ∀ options key name,
      readWord forms word = .ok (options, some (key, name)) →
        ∀ value ∈ words, Q (key, some value)) :
    ∀ o ∈ a.options, Q o := by
  induction h with
  | nil | dashes | last => exact nofun
  | closed hw _ ih =>
    obtain ⟨hword, hclosed⟩ := List.forall_mem_cons.mp hclosed
    refine forall_withOptions (hword _ hw) (ih hclosed fun u hu options key name hr value hv => ?_)
    exact hopen u (List.mem_cons_of_mem _ hu) options key name hr value (List.mem_cons_of_mem _ hv)
  | @opened word value name rest options key b hw _ ih =>
    have hrest {u : String} (hu : u ∈ rest) : u ∈ word :: value :: rest :=
      List.mem_cons_of_mem _ (List.mem_cons_of_mem _ hu)
    refine forall_withOptions (List.forall_mem_append.mpr ⟨?_, ?_⟩)
      (ih (fun u hu => hclosed u (hrest hu)) fun u hu options key name hr value hv =>
        hopen u (hrest hu) options key name hr value (hrest hv))
    · exact hclosed word List.mem_cons_self _ hw
    · -- the option that was open takes the next word as its value
      refine List.forall_mem_singleton.mpr ?_
      exact hopen word List.mem_cons_self options key name hw value
        (List.mem_cons_of_mem _ List.mem_cons_self)
  | word word _ ih =>
    refine ih (fun u hu => hclosed u (List.mem_cons_of_mem _ hu)) ?_
    intro u hu options key name hr value hv
    exact hopen u (List.mem_cons_of_mem _ hu) options key name hr value (List.mem_cons_of_mem _ hv)

theorem fits_read (h : read forms mixed words = .ok a) : ∀ o ∈ a.options, Fits forms o :=
  (gathers_of_read h).forall_options (fun _ _ _ hr => (fits_readWord hr).options)
    fun _ _ _ key name hr _ _ => (fits_readWord hr).open? (key, name) rfl

section Values

variable [BEq κ] [LawfulBEq κ] {k : κ} {value : String}

theorem mem_options_of_lookup {value? : Option String}
    (h : a.options.reverse.lookup k = some value?) : (k, value?) ∈ a.options := by
  obtain ⟨before, after, hsplit, -⟩ := List.lookup_eq_some_iff.mp h
  rw [← List.mem_reverse, hsplit]
  exact List.mem_append_right _ List.mem_cons_self

theorem mem_options_of_value? (h : a.value? k = some value) : (k, some value) ∈ a.options := by
  rw [value?, Option.join_eq_some_iff] at h
  exact mem_options_of_lookup h

theorem mem_keys_of_value? (h : a.value? k = some value) : k ∈ a.keys := by
  rw [keys, List.mem_eraseDups]
  exact List.mem_map_of_mem (mem_options_of_value? h)

end Values

end Arguments

namespace CommandRequest

variable {w : World} {n : CommandName} {words : List String} {a : Arguments Key} {c : CommandLine}

theorem forM_eq_ok_iff {ε α : Type} {xs : List α} {f : α → Except ε Unit} :
    xs.forM f = .ok () ↔ ∀ x ∈ xs, f x = .ok () := by
  induction xs with
  | nil => exact iff_of_true rfl nofun
  | cons x xs ih =>
    rw [List.forall_mem_cons, ← ih]
    show (f x >>= fun _ => xs.forM f) = .ok () ↔ _
    cases hx : f x with
    | error e => exact iff_of_false nofun (fun h => nomatch h.1)
    | ok u => exact (and_iff_right rfl).symm

theorem ofArguments_eq_emit_iff : ofArguments w n a = .ok (.emit c) ↔
    a.has .help = false ∧ (∀ k ∈ a.keys, checkOption w n a k = .ok ()) ∧
      ∃ r, root a = .ok r ∧
        c = ⟨r, flags a, a.value? .engine, path? a .output, shape n a⟩ := by
  unfold ofArguments
  cases hhelp : a.has .help with
  | true => exact iff_of_false nofun (fun h => nomatch h.1)
  | false =>
    rw [← forM_eq_ok_iff]
    show (a.keys.forM (checkOption w n a) >>= fun _ =>
      ((root a).mapError FailureOf.usage >>= fun r => _)) = _ ↔ _
    cases a.keys.forM (checkOption w n a) with
    | error e => exact iff_of_false nofun (fun h => nomatch h.2.1)
    | ok u =>
      cases root a with
      | error e => exact iff_of_false nofun (fun h => nomatch h.2.2)
      | ok r =>
        constructor
        · rintro ⟨⟩
          exact ⟨rfl, rfl, r, rfl, rfl⟩
        · rintro ⟨-, -, r, ⟨⟩, rfl⟩
          rfl

theorem exists_arguments_of_read (h : read w n words = .ok (.emit c)) :
    ∃ a r, (∀ k ∈ a.keys, checkOption w n a k = .ok ()) ∧
      c = ⟨r, flags a, a.value? .engine, path? a .output, shape n a⟩ := by
  obtain ⟨a, -, ha⟩ := Run.exists_of_bind_eq_ok h
  obtain ⟨-, hchecks, r, -, rfl⟩ := ofArguments_eq_emit_iff.mp ha
  exact ⟨a, r, hchecks, rfl⟩

def withOutput (path : String) (a : Arguments Key) : Arguments Key :=
  a.withOptions [(.output, some path)]

section Output

variable {path : String} {k : Key}

theorem has_withOutput (hk : k ≠ .output) : (withOutput path a).has k = a.has k := by
  have hne : (Key.output == k) = false := beq_false_of_ne hk.symm
  show (Key.output == k || a.has k) = _
  rw [hne, Bool.false_or]

theorem value?_withOutput (hk : k ≠ .output) : (withOutput path a).value? k = a.value? k := by
  have hne : (k == Key.output) = false := beq_false_of_ne hk
  show (((Key.output, some path) :: a.options).reverse.lookup k).join = _
  rw [Arguments.value?, List.reverse_cons, List.lookup_append]
  simp only [List.lookup_cons, hne, List.lookup_nil, Option.or_none]

theorem value?_output (h : ∀ o ∈ a.options, o.1 ≠ .output) :
    (withOutput path a).value? .output = some path := by
  have hnone : a.options.reverse.lookup .output = none := by
    apply List.lookup_eq_none_iff.mpr
    intro o ho
    exact bne_iff_ne.mpr (h o (List.mem_reverse.mp ho)).symm
  show (((Key.output, some path) :: a.options).reverse.lookup .output).join = _
  rw [List.reverse_cons, List.lookup_append, hnone]
  rfl

theorem mem_keys_withOutput (h : k ∈ (withOutput path a).keys) : k = .output ∨ k ∈ a.keys := by
  unfold Arguments.keys at h ⊢
  rw [List.mem_eraseDups] at h ⊢
  exact List.mem_cons.mp h

theorem flags_withOutput : flags (withOutput path a) = flags a := by
  simp only [flags, path?, has_withOutput, value?_withOutput, ne_eq, reduceCtorEq,
    not_false_eq_true]

theorem shape_withOutput : shape n (withOutput path a) = shape n a := by
  cases n with
  | bundle =>
    simp only [shape, value?_withOutput, has_withOutput, ne_eq, reduceCtorEq, not_false_eq_true]
  | transpile => rfl

theorem takesValue_output : ∀ f ∈ forms n, f.key = .output → f.takesValue = true := by
  cases n <;> decide

theorem ne_output_of_mem (hfits : ∀ o ∈ a.options, OptionForm.Fits (forms n) o)
    (h : a.value? .output = none) : ∀ o ∈ a.options, o.1 ≠ .output := by
  intro o ho hk
  unfold Arguments.value? at h
  cases hv : a.options.reverse.lookup .output with
  | none =>
    have hne := List.lookup_eq_none_iff.mp hv o (List.mem_reverse.mpr ho)
    exact bne_iff_ne.mp hne hk.symm
  | some v =>
    have hmem : (Key.output, v) ∈ a.options := Arguments.mem_options_of_lookup hv
    -- the form of this option takes a value, and so there would be one
    obtain ⟨f, hf, hkey, hvalue⟩ := hfits _ hmem
    rw [takesValue_output f hf hkey] at hvalue
    obtain ⟨s, rfl⟩ := Option.isSome_iff_exists.mp hvalue.symm
    rw [hv] at h
    cases h

theorem ofArguments_withOutput (hfits : ∀ o ∈ a.options, OptionForm.Fits (forms n) o)
    (h : ofArguments w n a = .ok (.emit c)) (hnone : c.output = none)
    (hpath : (demand .output).check w (hint n .output) path = .ok ()) :
    ofArguments w n (withOutput path a) =
      .ok (.emit { c with output := some (PosixPath.ofString path) }) := by
  obtain ⟨hhelp, hchecks, r, hroot, rfl⟩ := ofArguments_eq_emit_iff.mp h
  have hvalue : a.value? .output = none := Option.map_eq_none_iff.mp hnone
  have houtput : (withOutput path a).value? .output = some path :=
    value?_output (ne_output_of_mem hfits hvalue)
  refine ofArguments_eq_emit_iff.mpr ⟨?_, ?_, r, hroot, ?_⟩
  · rw [has_withOutput (by decide)]
    exact hhelp
  · intro k hk
    by_cases hkey : k = .output
    · rw [hkey, checkOption, houtput]
      exact hpath
    · rw [checkOption, value?_withOutput hkey]
      exact hchecks k ((mem_keys_withOutput hk).resolve_left hkey)
  · have hfile : path? (withOutput path a) .output = some (PosixPath.ofString path) := by
      rw [path?, houtput, Option.map_some]
    rw [flags_withOutput, shape_withOutput, value?_withOutput (by decide), hfile]

theorem readWord_output : OptionForm.readWord (forms n) "-o" = .ok ([], some (.output, "-o")) := by
  cases n <;> rfl

theorem arguments_withOutput (h : Arguments.read (forms n) true words = .ok a) :
    Arguments.read (forms n) true ("-o" :: path :: words) = .ok (withOutput path a) := by
  refine (Arguments.read_open (by decide) (by decide) readWord_output).trans ?_
  rw [h]
  rfl

theorem read_withOutput (h : read w n words = .ok (.emit c)) (hnone : c.output = none)
    (hpath : (demand .output).check w (hint n .output) path = .ok ()) :
    read w n ("-o" :: path :: words) =
      .ok (.emit { c with output := some (PosixPath.ofString path) }) := by
  obtain ⟨a, ha, h⟩ := Run.exists_of_bind_eq_ok h
  have ha := Run.mapError_eq_ok_iff.mp ha
  rw [read, arguments_withOutput ha]
  exact ofArguments_withOutput (Arguments.fits_read ha) h hnone hpath

end Output

end CommandRequest

end EmitBridge
