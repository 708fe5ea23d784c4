import EmitBridge.Engine.Basic
import EmitBridge.ImportMap.Serialized
import EmitBridge.Value.ToJson
import EmitBridge.World.Basic

/-! Engines that show how a call goes: one that emits the root module as it is, one that emits what
it is called with, and two that fail. -/

namespace EmitBridge.Engine

def missingModule (specifier : String) : Failure :=
  .emit (EmitError.load (.string specifier) none)

def sourceOf : LoadResponse → Except Failure Text
  | .module m => m.content.toText.mapError fun e => .fault (.notUtf8 e)
  | r => .error (.fault (.missingAttribute (Value.typeName (.response r)) "text"))

def words (t : Text) : Text :=
  let step (p : CodePoint) (done : List (List CodePoint)) : List (List CodePoint) :=
    if p.isBlank then [] :: done
    else match done with
      | [] => [[p]]
      | word :: more => (p :: word) :: more
  let found := (t.points.foldr step [[]]).filter (!·.isEmpty)
  ⟨List.intercalate [CodePoint.ofChar ' '] found⟩

def truthWord (b : Bool) : String := if b then "True" else "False"

def bundleOf (c : EngineCall) (shape : BundleShape) (source : Text) : Value :=
  let header :=
    "/* " ++ shape.type.text ++ " import_map=" ++ truthWord c.importMap.isSome ++ " */\n"
  let body := if shape.minify then words source else source
  let mapped := (Entries.get? c.compilerOptions (Text.ofString "sourceMap")).any Value.isTruthy
  .dict
    [(Text.ofString "code", .str (Text.ofString header ++ body)),
      (Text.ofString "map", if mapped then .string "\x7b\"version\": 3\x7d" else .null)]

def verbatim : Engine where
  name := "Engine"
  script c := .load ⟨c.root, .bool false, .null⟩ fun outcome =>
    .done do
      match ← outcome with
      | none => .error (missingModule c.root)
      | some r =>
        let source ← sourceOf r
        return match c.shape with
          | some shape => bundleOf c shape source
          | none => .dict [(Text.ofString r.specifier, .str source)]

def callText (c : EngineCall) : Except Failure Text :=
  let v : Value := .list
    [.string c.root, Value.ofOption (fun m => .dict m.toEngine) c.importMap,
      .dict c.compilerOptions]
  match v.toJson World.bare.nesting.printed with
  | .ok j => .ok (Text.ofChars j.render)
  | .error f => .error (.fault f)

def describing : Engine where
  name := "Options"
  script c := .done do
    let text ← callText c
    return match c.shape with
      | some _ => .dict [(Text.ofString "code", .str text)]
      | none => .dict [(Text.ofString c.root, .str text)]

def failing : Engine where
  name := "Failing"
  script _ := .done (.error (.emit (EmitError.plain .engine "Expected ';', got 'x'")))

def crashing : Engine where
  name := "Crashing"
  script _ := .done (.error (.fault (.raised .runtime "engine crashed")))

def samples : Plugin :=
  let half := [("bundle", Plugin.plain [])]
  let number := Plugin.plain []
  .plain
    [("Engine", .engineClass (.ok verbatim)),
      ("engine", .engine verbatim),
      ("Options", .engineClass (.ok describing)),
      ("Failing", .engineClass (.ok failing)),
      ("Crashing", .engineClass (.ok crashing)),
      ("Half", .classOf (.ok (.plain half)) half),
      ("NeedsArgs",
        .engineClass (.error (.fault (.missingArguments "NeedsArgs.__init__" ["arg"])))),
      ("not_an_engine", .plain []),
      ("number",
        .plain [("real", number), ("imag", number), ("numerator", number),
          ("denominator", number)]),
      ("ns", .plain [("engine", .engine verbatim), ("Engine", .engineClass (.ok verbatim))])]

end EmitBridge.Engine
