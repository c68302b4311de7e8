import Airwaves.Script.Codec
/-!
# Writing answers

Turns a value of the world into the JSON value an answer carries: objects are written
with their kind and fields, the values JSON cannot hold in their one-member forms, and
mapping keys as text.
-/
namespace Airwaves.Script

/-- The text a mapping key is written as in an answer. -/
def keyText (k : Value) (encodedTuple : Option String) : Act String := do
  match k with
  | .str s => return s
  | .int n => return toString n
  | .bool b => return if b then "true" else "false"
  | .none => return "null"
  | .float x => return FloatText.shortest x
  | .tuple _ => return encodedTuple.getD "[]"
  | .ref h => return "<" ++ (← deref h).kindName ++ ">"
  | v => return "<" ++ v.kindName ++ ">"

/-- The one-member form of a double JSON cannot write. -/
def floatValue (x : Double) : Value :=
  if x.isNaN then .record [("$float", .str "nan")]
  else if x.isInf then .record [("$float", .str (if x.negative then "-inf" else "inf"))]
  else .float x

/-- The written form of a value, with `depth` levels left and the objects being written
above it. -/
def encodeAt : Nat → List Nat → Value → Act Value
  | 0, _, v => do return .record [("$cycle", .str (← kindNameOf v))]
  | depth + 1, above, v => do
    match v with
    | .none | .bool _ | .int _ | .str _ => return v
    | .float x => return floatValue x
    | .bytes b => return .record [("$bytes", .str (String.join (b.map fun u => Value.hexPad 2 u.toNat)))]
    | .time t => return .record [("$datetime", .str t.isoText)]
    | .kind n => return .record [("$class", .str n)]
    | .func n _ => return .record [("$func", .str n)]
    | .list xs | .tuple xs => return .list (← xs.mapM (encodeAt depth above))
    | .set xs =>
      let items ← xs.mapM (encodeAt depth above)
      return .record [("$set", .list (items.mergeSort fun a b => sortText a ≤ sortText b))]
    | .dict es =>
      let mut out : Dict := []
      for (k, x) in es do
        let tupleText ← match k with
          | .tuple _ => do
            let e ← encodeAt depth above k
            pure (Json.write .spaced e).toOption
          | _ => pure none
        out := Dict.put out (.str (← keyText k tupleText)) (← encodeAt depth above x)
      return .dict out
    | .ref h =>
      let o ← deref h
      if above.contains h then return .record [("$cycle", .str o.kindName)]
      match o with
      | .message d => encodeAt depth above (.dict d)
      | _ =>
        let mut attrs : Dict := []
        for (name, x) in o.attributes do
          attrs := Dict.put attrs (.str name) (← encodeAt depth (h :: above) x)
        return .record [("$obj", .str o.kindName), ("attrs", .dict attrs)]


/-- The written form of a value. -/
def encode (v : Value) : Act Value := encodeAt 41 [] v

/-- The written form of a failure: its kind and message, and for API refusals its
translation key and extra values. -/
def encodeFault (f : Fault) : Act Value := do
  match f with
  | .api e =>
    return .record [("error", .str f.kindName), ("message", .str f.message),
      ("tl_key", .str e.tlKey), ("extra", ← encode (.dict e.extra))]
  | _ => return .record [("error", .str f.kindName), ("message", .str f.message)]

end Airwaves.Script
