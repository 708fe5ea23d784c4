import EmitBridge.Check.Basic
import EmitBridge.Number.Decimal

/-! Rules for single values. Bytes count as the text they spell. -/

namespace EmitBridge.Check

def text (v : Value) : Checked Text :=
  match v with
  | .bytes bs =>
    match Utf8.decode bs with
    | .ok cs => pure (Text.ofChars cs)
    | .error _ => refuse .unicode v
  | v =>
    match v.text? with
    | some t => pure t
    | none => refuse .string v

def characters (v : Value) : Checked String :=
  (text v).andThen fun t =>
    match t.toString? with
    | some s => pure s
    | none => refuse .unicode v

def specifier (v : Value) : Checked String :=
  (characters v).andThen fun s => if s.isEmpty then refuse .nonEmpty v else pure s

def truthWords : List (String × Bool) :=
  [("0", false), ("f", false), ("n", false), ("no", false), ("off", false), ("false", false),
    ("1", true), ("t", true), ("y", true), ("yes", true), ("on", true), ("true", true)]

def truthOfText (v : Value) (t : Text) : Checked Bool :=
  match t.toString? with
  | none => refuse .unicode v
  | some s =>
    match truthWords.lookup (s.map Char.toLower) with
    | some b => pure b
    | none => refuse .boolText v

def isSmall (n : Int) : Bool := -0x8000000000000000 ≤ n && n < 0x8000000000000000

def truthOfInt (v : Value) (n : Int) : Checked Bool :=
  if n == 0 then pure false
  else if n == 1 then pure true
  else if isSmall n then refuse .boolText v
  else refuse .boolType v

def truthOfFloat (v : Value) (x : Float) : Checked Bool :=
  if x.floor == x && x.abs < 9223372036854775808.0 then
    if x == 0.0 then pure false else if x == 1.0 then pure true else refuse .boolText v
  else refuse .boolType v

def boolean (v : Value) : Checked Bool :=
  match v with
  | .bool b => pure b
  | .int n => truthOfInt v n
  | .float x => truthOfFloat v x
  | .bytes bs =>
    match Utf8.decode bs with
    | .ok cs => truthOfText v (Text.ofChars cs)
    | .error _ => refuse .boolText v
  | v =>
    match v.text? with
    | some t => truthOfText v t
    | none => refuse .boolType v

def path (v : Value) : Checked PosixPath :=
  match v with
  | .path (.posix p) => pure p
  | v =>
    match text v with
    | .passed t => pure (PosixPath.ofString t.toString)
    | .refused _ => refuse .path v

def choice {α : Type} (read : Text → Option α) (texts : List String) (v : Value) : Checked α :=
  match text v with
  | .passed t =>
    match read t with
    | some a => pure a
    | none => refuse (.choice texts) v
  | .refused _ => refuse (.choice texts) v

def cacheSetting (v : Value) : Checked CacheSetting :=
  choice CacheSetting.ofText? (CacheSetting.all.map CacheSetting.text) v

def bundleType (v : Value) : Checked BundleType :=
  choice BundleType.ofText? (BundleType.all.map BundleType.text) v

def floatOfText (v : Value) (t : Text) : Checked Float :=
  match t.toChars? with
  | none => refuse .unicode v
  | some cs =>
    match FloatText.read? cs with
    | some x => pure x
    | none => refuse .numberText v

def float (v : Value) : Checked Float :=
  match v with
  | .float x => pure x
  | .bool b => pure (if b then 1.0 else 0.0)
  | .int n =>
    let x := FloatText.signed (n < 0) n.natAbs 0
    if x.isInf then refuse .numberType v else pure x
  | .bytes bs =>
    match Utf8.decode bs with
    | .ok cs => floatOfText v (Text.ofChars cs)
    | .error _ => refuse .numberText v
  | v =>
    match v.text? with
    | some t => floatOfText v t
    | none => refuse .numberType v

def timeout (v : Value) : Checked Float :=
  (float v).andThen fun x =>
    if !(x ≤ 600.0) then refuse .atMost600 v
    else if !(0.0 < x) then refuse .positive v
    else pure x

end EmitBridge.Check
