import EmitBridge.Proofs.Json.Entries
import EmitBridge.Proofs.Json.Strings

/-! The grammar of JSON texts, each with the value that it denotes. It says nothing of how a text is
read: the reader is measured against it. -/

namespace EmitBridge.Json

open EmitBridge.Json.Parser

def AreBlanks (s : List Char) : Prop := ∀ c ∈ s, isBlank c

inductive DenotesPoint : List Char → CodePoint → Prop
  | plain {c : Char} : c ≠ '"' → c ≠ '\\' → 0x20 ≤ c.toNat → DenotesPoint [c] (.ofChar c)
  | short {c x : Char} : shortEscape? c = some x → DenotesPoint ['\\', c] (.ofChar x)
  | unit {a b c d : Char} {p q r s : Nat} : Hex.value? a = some p → Hex.value? b = some q →
      Hex.value? c = some r → Hex.value? d = some s →
      DenotesPoint ['\\', 'u', a, b, c, d] (.ofNat (4096 * p + 256 * q + 16 * r + s))

inductive DenotesPoints : List Char → List CodePoint → Prop
  | nil : DenotesPoints [] []
  | cons {s t : List Char} {p : CodePoint} {ps : List CodePoint} : DenotesPoint s p →
      DenotesPoints t ps → DenotesPoints (s ++ t) (p :: ps)

def Joins (ps : List CodePoint) (t : Text) : Prop :=
  IsJoined t.points ∧ t.points.flatMap units = ps.flatMap units

inductive DenotesText : List Char → Text → Prop
  | quoted {s : List Char} {ps : List CodePoint} {t : Text} : DenotesPoints s ps → Joins ps t →
      DenotesText ('"' :: (s ++ ['"'])) t

def AreDigits (s : List Char) : Prop := s ≠ [] ∧ ∀ c ∈ s, c.isDigit

def AreWhole (s : List Char) : Prop := AreDigits s ∧ (s.head? = some '0' → s = ['0'])

inductive DenotesFraction : List Char → Option (List Char) → Prop
  | absent : DenotesFraction [] none
  | present {ds : List Char} : AreDigits ds → DenotesFraction ('.' :: ds) (some ds)

inductive DenotesSign : List Char → Bool → Prop
  | absent : DenotesSign [] false
  | plus : DenotesSign ['+'] false
  | minus : DenotesSign ['-'] true

def signed (negative : Bool) (n : Nat) : Int := if negative then -n else n

inductive DenotesExponent : List Char → Option Int → Prop
  | absent : DenotesExponent [] none
  | present {c : Char} {sign ds : List Char} {negative : Bool} : c = 'e' ∨ c = 'E' →
      DenotesSign sign negative → AreDigits ds →
      DenotesExponent (c :: (sign ++ ds)) (some (signed negative (natOfDigits ds)))

inductive IsNumber (negative : Bool) (whole : List Char) :
    Option (List Char) → Option Int → Json → Prop
  | int : whole.length ≤ digitLimit → IsNumber negative whole none none
      (.int (signed negative (natOfDigits whole)))
  | float {fraction : Option (List Char)} {exponent : Option Int} :
      fraction.isSome ∨ exponent.isSome → IsNumber negative whole fraction exponent
        (.float (FloatText.signed negative (natOfDigits (whole ++ fraction.getD []))
          (exponent.getD 0 - (fraction.getD []).length)))

inductive DenotesNumber (negative : Bool) : List Char → Json → Prop
  | mk {whole f e : List Char} {fraction : Option (List Char)} {exponent : Option Int} {v : Json} :
      AreWhole whole → DenotesFraction f fraction → DenotesExponent e exponent →
      IsNumber negative whole fraction exponent v → DenotesNumber negative (whole ++ (f ++ e)) v

inductive DenotesScalar : List Char → Json → Prop
  | literal {name : String} {v : Json} : (name, v) ∈ literals → DenotesScalar name.toList v
  | number {s : List Char} {v : Json} : DenotesNumber false s v → DenotesScalar s v
  | negative {s : List Char} {v : Json} : DenotesNumber true s v → DenotesScalar ('-' :: s) v

mutual

/-- The text denotes the value, with no more than so many containers in one another. Of members of
one name the last one counts. -/
inductive Denotes : Nat → List Char → Json → Prop
  | scalar {n : Nat} {s : List Char} {v : Json} : DenotesScalar s v → Denotes n s v
  | text {n : Nat} {s : List Char} {t : Text} : DenotesText s t → Denotes n s (.str t)
  | emptyArray {n : Nat} {b : List Char} : AreBlanks b →
      Denotes (n + 1) ('[' :: (b ++ [']'])) (.arr [])
  | array {n : Nat} {b s : List Char} {vs : List Json} : AreBlanks b → DenotesItems n s vs →
      Denotes (n + 1) ('[' :: (b ++ s)) (.arr vs)
  | emptyObject {n : Nat} {b : List Char} : AreBlanks b →
      Denotes (n + 1) ('\x7b' :: (b ++ ['\x7d'])) (.obj [])
  | object {n : Nat} {b s : List Char} {ms : List (Text × Json)} : AreBlanks b →
      DenotesMembers n s ms → Denotes (n + 1) ('\x7b' :: (b ++ s)) (.obj (Entries.ofList ms))

inductive DenotesItems : Nat → List Char → List Json → Prop
  | last {n : Nat} {s b : List Char} {v : Json} : Denotes n s v → AreBlanks b →
      DenotesItems n (s ++ (b ++ [']'])) [v]
  | cons {n : Nat} {s t b₁ b₂ : List Char} {v : Json} {vs : List Json} : Denotes n s v →
      AreBlanks b₁ → AreBlanks b₂ → DenotesItems n t vs →
      DenotesItems n (s ++ (b₁ ++ ',' :: (b₂ ++ t))) (v :: vs)

inductive DenotesMembers : Nat → List Char → List (Text × Json) → Prop
  | last {n : Nat} {q s b₁ b₂ b₃ : List Char} {name : Text} {v : Json} : DenotesText q name →
      Denotes n s v → AreBlanks b₁ → AreBlanks b₂ → AreBlanks b₃ →
      DenotesMembers n (q ++ (b₁ ++ ':' :: (b₂ ++ (s ++ (b₃ ++ ['\x7d']))))) [(name, v)]
  | cons {n : Nat} {q s t b₁ b₂ b₃ b₄ : List Char} {name : Text} {v : Json}
      {ms : List (Text × Json)} : DenotesText q name → Denotes n s v → AreBlanks b₁ →
      AreBlanks b₂ → AreBlanks b₃ → AreBlanks b₄ → DenotesMembers n t ms →
      DenotesMembers n (q ++ (b₁ ++ ':' :: (b₂ ++ (s ++ (b₃ ++ ',' :: (b₄ ++ t))))))
        ((name, v) :: ms)

end

theorem DenotesText.isJoined {s : List Char} {t : Text} (h : DenotesText s t) :
    IsJoined t.points := by
  cases h with
  | quoted _ ht => exact ht.1

theorem DenotesNumber.isNumber {negative : Bool} {s : List Char} {v : Json}
    (h : DenotesNumber negative s v) : (∃ n, v = .int n) ∨ ∃ x, v = .float x := by
  cases h with
  | mk _ _ _ hv =>
    cases hv with
    | int => exact .inl ⟨_, rfl⟩
    | float => exact .inr ⟨_, rfl⟩

theorem DenotesScalar.not_structured {s : List Char} {v : Json} (h : DenotesScalar s v) :
    (∀ t, v ≠ .str t) ∧ ∀ ms, v ≠ .obj ms := by
  cases h with
  | literal hl =>
    simp only [literals, List.mem_cons, Prod.mk.injEq, List.not_mem_nil, or_false] at hl
    rcases hl with ⟨-, rfl⟩ | ⟨-, rfl⟩ | ⟨-, rfl⟩ | ⟨-, rfl⟩ | ⟨-, rfl⟩ | ⟨-, rfl⟩
    all_goals exact ⟨fun _ => Json.noConfusion, fun _ => Json.noConfusion⟩
  | number h | negative h =>
    rcases h.isNumber with ⟨n, rfl⟩ | ⟨x, rfl⟩
    all_goals exact ⟨fun _ => Json.noConfusion, fun _ => Json.noConfusion⟩

theorem Denotes.isJoined {n : Nat} {s : List Char} {t : Text} (h : Denotes n s (.str t)) :
    IsJoined t.points := by
  cases h with
  | scalar h => exact absurd rfl (h.not_structured.1 t)
  | text h => exact h.isJoined

theorem DenotesMembers.of_mem {n : Nat} {s : List Char} {ms : List (Text × Json)}
    (h : DenotesMembers n s ms) {e : Text × Json} (he : e ∈ ms) :
    IsJoined e.1.points ∧ ∃ t, Denotes n t e.2 := by
  induction ms generalizing s with
  | nil => cases he
  | cons m ms ih =>
    cases h with
    | last hq hs =>
      obtain rfl := List.mem_singleton.mp he
      exact ⟨hq.isJoined, _, hs⟩
    | cons hq hs _ _ _ _ hmore =>
      rcases List.mem_cons.mp he with rfl | he
      · exact ⟨hq.isJoined, _, hs⟩
      · exact ih hmore he

theorem Denotes.members {n : Nat} {s : List Char} {ms : List (Text × Json)}
    (h : Denotes n s (.obj ms)) :
    (ms.map Prod.fst).Nodup ∧ ∀ e ∈ ms, IsJoined e.1.points ∧ ∃ m t, Denotes m t e.2 := by
  cases h with
  | scalar h => exact absurd rfl (h.not_structured.2 ms)
  | emptyObject => exact ⟨List.nodup_nil, fun _ h => nomatch h⟩
  | object _ h =>
    refine ⟨Entries.nodup_ofList _, fun e he => ?_⟩
    obtain ⟨hname, t, ht⟩ := h.of_mem (Entries.mem_ofList he)
    exact ⟨hname, _, t, ht⟩

def IsDocument (n : Nat) (s : List Char) (v : Json) : Prop :=
  ∃ b₁ t b₂, AreBlanks b₁ ∧ AreBlanks b₂ ∧ s = b₁ ++ (t ++ b₂) ∧ Denotes n t v

def Ends (rest : List Char) : Prop := ∀ c ∈ rest.head?, isBlank c ∨ c ∈ [',', ']', '\x7d']

end EmitBridge.Json
