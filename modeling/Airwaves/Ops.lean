import Airwaves.World
/-!
# Operations on values in the world

The arithmetic, conversions and container access of the data model, as actions that
fail with the data model's own failures. Service code reads rows and numbers through
these, so a missing column or a `None` operand fails the way clients see it.
-/
namespace Airwaves

/-- `row[key]` for a text key. -/
def col (row : Value) (key : String) : Act Value := itemOf row (.str key)

/-- `a + b`. -/
def plus (a b : Value) : Act Value := Act.lift (Value.add a b)

/-- `a += b`. -/
def plusIn (a b : Value) : Act Value := Act.lift (Value.addAs "+=" a b)

/-- `a - b`. -/
def minus (a b : Value) : Act Value := Act.lift (Value.sub a b)

/-- `a -= b`. -/
def minusIn (a b : Value) : Act Value := Act.lift (Value.subAs "-=" a b)

/-- `a * b`. -/
def times (a b : Value) : Act Value := Act.lift (Value.mul a b)

/-- `a / b`. -/
def divide (a b : Value) : Act Value := Act.lift (Value.div a b)

/-- `float(v)`. -/
def asFloat (v : Value) : Act Value := Act.lift (Value.toFloat v)

/-- `int(v)`. -/
def asInt (v : Value) : Act Value := Act.lift (Value.toInt v)

/-- `round(v, places)`. -/
def roundTo (v : Value) (places : Int) : Act Value := Act.lift (Value.round v places)

/-- The items a `for` loop walks: list, tuple and set items, mapping keys, or the
characters of a text. -/
def itemsOf (v : Value) : Act (List Value) := do
  match v with
  | .list xs | .tuple xs | .set xs => return xs
  | .dict es => return Dict.keyList es
  | .str s => return s.toList.map fun c => .str c.toString
  | _ => Act.raise (.typeError ("'" ++ (← kindNameOf v) ++ "' object is not iterable"))

/-- `key in container`. -/
def isIn (key container : Value) : Act Bool := do
  match container with
  | .none => Act.raise (.typeError "argument of type 'NoneType' is not iterable")
  | _ => Act.lift (Value.contains container key)

/-- Whether a mapping has a text key. -/
def hasField (d : Value) (key : String) : Bool :=
  match d with
  | .dict es => Dict.hasKey es (.str key)
  | _ => false

/-- `d.get(key, fallback)` for a mapping. -/
def fieldOr (d : Value) (key : String) (fallback : Value) : Value :=
  match d with
  | .dict es => (Dict.field? es key).getD fallback
  | _ => fallback

/-- `len(v)`. -/
def lengthOf (v : Value) : Act Nat := do
  match v with
  | .ref h =>
    match ← deref h with
    | .message d => return d.length
    | _ => Act.raise (.typeError ("object of type '" ++ (← kindNameOf v) ++ "' has no len()"))
  | _ => Act.lift (Value.len v)

/-- The value with one mapping entry set; a non-mapping becomes a mapping of one entry. -/
def withField (d : Value) (key : String) (v : Value) : Value :=
  match d with
  | .dict es => .dict (Dict.putField es key v)
  | _ => .dict [(.str key, v)]

/-- The value with one mapping entry set under any key. -/
def withEntry (d : Value) (key v : Value) : Value :=
  match d with
  | .dict es => .dict (Dict.put es key v)
  | _ => .dict [(key, v)]

/-- `a < b` in the data model's order, which orders values of every kind. -/
def isLess (a b : Value) : Act Bool := return Value.less a b

/-- `a > b` in the data model's order. -/
def isGreater (a b : Value) : Act Bool := return Value.greater a b

/-- `a >= b` in the data model's order. -/
def isAtLeast (a b : Value) : Act Bool := return Value.greaterEq a b

/-- `a <= b` in the data model's order. -/
def isAtMost (a b : Value) : Act Bool := return Value.lessEq a b

/-- `a and b` on conditions: the second is asked only when the first holds. -/
def andAlso (a b : Act Bool) : Act Bool := do if ← a then b else return false

/-- `max(a, b)`; values of kinds without an order between them are refused. -/
def larger (a b : Value) : Act Value := Act.lift (Value.max? a b)

/-- `min(a, b)`; values of kinds without an order between them are refused. -/
def smaller (a b : Value) : Act Value := Act.lift (Value.min? a b)

/-- The moment now, as a double of seconds. -/
def timestamp : Act Value := clockValue

/-- The moment now as whole seconds. -/
def timestampInt : Act Value := do return .int (← clockSeconds)

end Airwaves
