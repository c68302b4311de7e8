import Airwaves.Fault
import Airwaves.Unicode.Numeral
/-!
# Arithmetic on values

Whole numbers are unbounded and a double on either side makes a double; an operation on operands
it is not defined for fails with a type error naming both kinds.
-/
namespace Airwaves

namespace Value

/-- The failure for an operator applied to operands of the wrong kinds. -/
def operandFault (op : String) (a b : Value) : Fault :=
  match op, a with
  | "+", .str _ | "+=", .str _ => .typeError ("can only concatenate str (not \"" ++ b.kindName ++ "\") to str")
  | "+", .list _ | "+=", .list _ => .typeError ("can only concatenate list (not \"" ++ b.kindName ++ "\") to list")
  | "+", .tuple _ | "+=", .tuple _ => .typeError ("can only concatenate tuple (not \"" ++ b.kindName ++ "\") to tuple")
  | _, _ => .typeError ("unsupported operand type(s) for " ++ op ++ ": '" ++ a.kindName ++
      "' and '" ++ b.kindName ++ "'")

/-- Applies a numeric operation: `whole` when both operands are whole numbers, `real`
otherwise. -/
def numeric (op : String) (whole : Int → Int → Except Fault Value)
    (real : Double → Double → Except Fault Value) (a b : Value) : Except Fault Value :=
  match a.number?, b.number? with
  | some (.whole x), some (.whole y) => whole x y
  | some x, some y => real x.toDouble y.toDouble
  | _, _ => .error (operandFault op a b)

/-- `a + b`, its failure naming the operator as written (`+` or `+=`). -/
def addAs (op : String) (a b : Value) : Except Fault Value :=
  match a, b with
  | .str x, .str y => .ok (.str (x ++ y))
  | .list x, .list y => .ok (.list (x ++ y))
  | .tuple x, .tuple y => .ok (.tuple (x ++ y))
  | _, _ => numeric op (fun x y => .ok (.int (x + y))) (fun x y => .ok (.float (x + y))) a b

/-- `a + b`. -/
def add (a b : Value) : Except Fault Value := addAs "+" a b

/-- `a - b`, its failure naming the operator as written (`-` or `-=`). -/
def subAs (op : String) (a b : Value) : Except Fault Value :=
  numeric op (fun x y => .ok (.int (x - y))) (fun x y => .ok (.float (x - y))) a b

/-- `a - b`. -/
def sub (a b : Value) : Except Fault Value := subAs "-" a b

/-- A whole number a sequence can be repeated by: a whole number or a truth value. -/
def repeatCount? : Value → Option Int
  | .int n => some n
  | .bool b => some (if b then 1 else 0)
  | _ => Option.none

/-- A sequence repeated a number of times (none or fewer gives the empty sequence); none
for a value that is not a sequence. -/
def repeated? (seq : Value) (n : Int) : Option Value :=
  match seq with
  | .str s => some (.str (String.join (List.replicate n.toNat s)))
  | .list xs => some (.list (List.replicate n.toNat xs).flatten)
  | .tuple xs => some (.tuple (List.replicate n.toNat xs).flatten)
  | .bytes b => some (.bytes (List.replicate n.toNat b).flatten)
  | _ => Option.none

/-- `a * b`: numbers multiply; a sequence (text, list, tuple, bytes) on either side is
repeated by the other operand, which must then be a whole number. -/
def mul (a b : Value) : Except Fault Value :=
  match a.number?, b.number? with
  | some _, some _ => numeric "*" (fun x y => .ok (.int (x * y))) (fun x y => .ok (.float (x * y))) a b
  | _, _ =>
    let nonInt (v : Value) : Fault :=
      .typeError ("can't multiply sequence by non-int of type '" ++ v.kindName ++ "'")
    match repeated? a 0 with
    | some _ =>
      match repeatCount? b with
      | some n => .ok ((repeated? a n).getD a)
      | Option.none => .error (nonInt b)
    | Option.none =>
      match repeated? b 0 with
      | some _ =>
        match repeatCount? a with
        | some n => .ok ((repeated? b n).getD b)
        | Option.none => .error (nonInt a)
      | Option.none => .error (operandFault "*" a b)

/-- `a / b`: whole numbers divide rounding down, otherwise as doubles. -/
def div (a b : Value) : Except Fault Value :=
  numeric "/"
    (fun x y => if y == 0 then .error (.of .zeroDivision "integer division or modulo by zero")
      else .ok (.int (Int.fdiv x y)))
    (fun x y => if y.isZero then .error (.of .zeroDivision "float division by zero")
      else .ok (.float (x / y))) a b

/-- `a // b`. -/
def floorDiv (a b : Value) : Except Fault Value :=
  numeric "//"
    (fun x y => if y == 0 then .error (.of .zeroDivision "integer division or modulo by zero")
      else .ok (.int (Int.fdiv x y)))
    (fun x y => if y.isZero then .error (.of .zeroDivision "float divmod()")
      else .ok (.float (x / y).floor)) a b

/-- `a % b`, the remainder taking the sign of the divisor. -/
def mod (a b : Value) : Except Fault Value :=
  numeric "%"
    (fun x y => if y == 0 then .error (.of .zeroDivision "integer division or modulo by zero")
      else .ok (.int (Int.fmod x y)))
    (fun x y => if y.isZero then .error (.of .zeroDivision "float modulo")
      else .ok (.float (x - y * (x / y).floor))) a b

/-- `-a`. -/
def neg (a : Value) : Except Fault Value :=
  match a.number? with
  | some (.whole x) => .ok (.int (-x))
  | some (.real x) => .ok (.float (-x))
  | Option.none => .error (.typeError ("bad operand type for unary -: '" ++ a.kindName ++ "'"))

/-- Whether a value is a NaN double, which is neither less nor greater than anything. -/
def isNaN : Value → Bool
  | .float x => x.isNaN
  | _ => false

/-- `a < b` in the data model's order. -/
def less (a b : Value) : Bool := Value.order a b == .lt

/-- `a <= b`; never when a NaN takes part. -/
def lessEq (a b : Value) : Bool := !a.isNaN && !b.isNaN && Value.order a b != .gt

/-- `a > b`. -/
def greater (a b : Value) : Bool := Value.order a b == .gt

/-- `a >= b`; never when a NaN takes part. -/
def greaterEq (a b : Value) : Bool := !a.isNaN && !b.isNaN && Value.order a b != .lt

/-- The larger of two values (the first on a tie). -/
def max (a b : Value) : Value := if greater b a then b else a

/-- The smaller of two values (the first on a tie). -/
def min (a b : Value) : Value := if less b a then b else a

/-- The refusal to compare two values of kinds without an order between them. -/
def unordered (op : String) (a b : Value) : Fault :=
  .typeError ("'" ++ op ++ "' not supported between instances of '" ++ a.kindName ++ "' and '" ++
    b.kindName ++ "'")

mutual
/-- Compares two values for the operator `op`: numbers by value, texts by code points,
byte strings by bytes, moments by time, and lists and tuples item by item from the
first pair that differs. `none` when a NaN makes the pair unordered; values of other
kinds cannot be compared. -/
def compare? (op : String) : Value → Value → Except Fault (Option Ordering)
  | .str x, .str y => .ok (some (compare x y))
  | .bytes x, .bytes y => .ok (some (compare (x.map (·.toNat)) (y.map (·.toNat))))
  | .time x, .time y => .ok (some (compare x.micros y.micros))
  | .list xs, .list ys => compareItems op xs ys
  | .tuple xs, .tuple ys => compareItems op xs ys
  | a, b =>
    match a.number?, b.number? with
    | some x, some y => .ok (if a.isNaN || b.isNaN then Option.none else some (x.cmp y))
    | _, _ => .error (unordered op a b)
termination_by structural a => a
/-- Compares two sequences at their first differing items, or else by length. -/
def compareItems (op : String) : List Value → List Value → Except Fault (Option Ordering)
  | [], [] => .ok (some .eq)
  | [], _ :: _ => .ok (some .lt)
  | _ :: _, [] => .ok (some .gt)
  | x :: xs, y :: ys => if Value.equals x y then compareItems op xs ys else compare? op x y
termination_by structural xs => xs
end

/-- `a < b`, refusing kinds without an order. -/
def lt? (a b : Value) : Except Fault Bool := do return (← compare? "<" a b) == some .lt

/-- `a > b`, refusing kinds without an order. -/
def gt? (a b : Value) : Except Fault Bool := do return (← compare? ">" a b) == some .gt

/-- `max(a, b)`: the second only when it is greater than the first. Unlike the comparison
operators, which order values of every kind, choosing the larger of two values refuses
kinds without an order between them. -/
def max? (a b : Value) : Except Fault Value := do return if ← gt? b a then b else a

/-- `min(a, b)`: the second only when it is less than the first, refusing kinds without
an order between them. -/
def min? (a b : Value) : Except Fault Value := do return if ← lt? b a then b else a

/-- The whole part of a double, toward zero; `Option.none` for NaN and the infinities. -/
def floatToInt? (x : Double) : Option Int := x.toInt?

/-- Text with blanks removed from both ends. -/
def strip (s : String) : String := Unicode.trim s

/-- Reads a whole number from text: an optional sign and decimal digits, with blanks around
and single underscores between digits allowed. -/
def parseInt? (s : String) : Option Int := Unicode.readInt? s

/-- The exponent after the mark `e` or `E`: an optional sign and decimal digits. -/
def readExponent? (r : List Char) : Option Int :=
  let (eneg, ds) := match r with
    | '-' :: d => (true, d)
    | '+' :: d => (false, d)
    | d => (false, d)
  if ds.isEmpty || !ds.all Char.isDigit then Option.none
  else
    let n : Int := ds.foldl (fun acc c => acc * 10 + (c.toNat - '0'.toNat)) 0
    some (if eneg then -n else n)

/-- What may follow the digits of a decimal: nothing, or an exponent. -/
def exponentOf? (rest : List Char) : Option Int :=
  match rest with
  | [] => some 0
  | e :: r => if e == 'e' || e == 'E' then readExponent? r else Option.none

/-- The magnitude of a decimal without its sign: digits with an optional point and fraction
(at least one digit in all), and an optional exponent. -/
def readMagnitude? (body : List Char) : Option Double :=
  let intPart := body.takeWhile Char.isDigit
  let rest := body.drop intPart.length
  let (fracPart, rest) := match rest with
    | '.' :: r => (r.takeWhile Char.isDigit, r.drop (r.takeWhile Char.isDigit).length)
    | r => ([], r)
  if intPart.isEmpty && fracPart.isEmpty then Option.none else
  match exponentOf? rest with
  | Option.none => Option.none
  | some e =>
    let mantissa := (intPart ++ fracPart).foldl (fun acc c => acc * 10 + (c.toNat - '0'.toNat)) 0
    let exp := e - fracPart.length
    some (if exp ≥ 0 then Double.ofScientific mantissa false exp.toNat
      else Double.ofScientific mantissa true (-exp).toNat)

/-- Reads a decimal number as a double: digits with an optional point and exponent, or
`inf`, `infinity` and `nan` in any case, with an optional sign; blanks around and single
underscores between digits allowed. -/
def parseFloat? (s : String) : Option Double := do
  let chars ← Unicode.numeralChars? s
  let t ← Unicode.dropUnderscores ' ' chars
  let (neg, body) := match t with
    | '-' :: r => (true, r)
    | '+' :: r => (false, r)
    | r => (false, r)
  let word := (String.ofList body).toLower
  let sign (x : Double) := if neg then -x else x
  if word == "inf" || word == "infinity" then some (sign (Double.infinity false))
  else if word == "nan" then some Double.nan
  else sign <$> readMagnitude? body

/-- Whole-number conversion: doubles toward zero, text by its digits. -/
def toInt (v : Value) : Except Fault Value :=
  match v with
  | .int n => .ok (.int n)
  | .bool b => .ok (.int (if b then 1 else 0))
  | .float x =>
    match floatToInt? x with
    | some n => .ok (.int n)
    | Option.none =>
      if x.isNaN then .error (.of .valueError "cannot convert float NaN to integer")
      else .error (.of .overflow "cannot convert float infinity to integer")
  | .str s =>
    match parseInt? s with
    | some n => .ok (.int n)
    | Option.none =>
      .error (.of .valueError ("invalid literal for int() with base 10: " ++ String.ofList (v.quote.toList.take 200)))
  | _ => .error (.typeError ("int() argument must be a string, a bytes-like object or a real number, not '" ++
      v.kindName ++ "'"))

/-- Double conversion. -/
def toFloat (v : Value) : Except Fault Value :=
  match v.number? with
  | some n => .ok (.float n.toDouble)
  | Option.none =>
    match v with
    | .str s =>
      match parseFloat? s with
      | some x => .ok (.float x)
      | Option.none => .error (.of .valueError ("could not convert string to float: " ++ v.quote))
    | _ => .error (.typeError ("float() argument must be a string or a real number, not '" ++
        v.kindName ++ "'"))

/-- Rounds to a number of decimal places, a tie going away from zero; the result is a
double. Only numbers can be rounded. -/
def round (v : Value) (places : Int := 0) : Except Fault Value :=
  match v.number? with
  | Option.none => .error (.typeError "a float is required")
  | some n =>
    let x := n.toDouble
    match Number.decode x with
    | Option.none => .ok (.float x)
    | some b =>
      let c := Number.roundAway b places
      let mag := if places ≥ 0 then Double.ofScientific c true places.toNat
        else Double.ofScientific (c * Nat.pow 10 (-places).toNat) false 0
      .ok (.float (if b.negative then -mag else mag))

/-- `math.floor`: the largest whole double not above the number. -/
def floor (v : Value) : Except Fault Value :=
  match v.number? with
  | some n => .ok (.float n.toDouble.floor)
  | Option.none => .error (.typeError ("must be real number, not " ++ v.kindName))

/-- The whole number a double holds when it is given `n`: `n` itself below `2^53`, and
otherwise `n` rounded to 53 significant bits, a tie going to the even neighbour; none
when the rounded number is past the largest double. -/
def wholeDouble (n : Nat) : Option Nat :=
  if n < Nat.pow 2 53 then some n else
  let drop := Nat.log2 n - 52
  let q := n / Nat.pow 2 drop
  let r := n % Nat.pow 2 drop
  let half := Nat.pow 2 (drop - 1)
  let q := if half < r ∨ (r = half ∧ q % 2 = 1) then q + 1 else q
  let m := q * Nat.pow 2 drop
  if m < Nat.pow 2 1024 then some m else Option.none

/-- `int(math.floor(v))`. A whole number passes through a double on the way, so it comes
back as the nearest whole number a double holds, and one too large for a double
overflows. -/
def floorToInt (v : Value) : Except Fault Value :=
  match v.number? with
  | some (.whole n) =>
    match wholeDouble n.natAbs with
    | some m => .ok (.int (if n < 0 then -(m : Int) else m))
    | Option.none => .error (.of .overflow "cannot convert float infinity to integer")
  | _ => do toInt (← floor v)

/-- `math.ceil`: the smallest whole double not below the number. -/
def ceil (v : Value) : Except Fault Value :=
  match v.number? with
  | some n => .ok (.float n.toDouble.ceil)
  | Option.none => .error (.typeError ("must be real number, not " ++ v.kindName))

/-- The number as a double, or a type error. -/
def asFloat (v : Value) : Except Fault Double :=
  match v.number? with
  | some n => .ok n.toDouble
  | Option.none => .error (.typeError ("must be real number, not " ++ v.kindName))

/-- Length of a text or container. -/
def len (v : Value) : Except Fault Nat :=
  match v with
  | .str s => .ok s.length
  | .list xs | .tuple xs | .set xs => .ok xs.length
  | .dict es => .ok es.length
  | .bytes b => .ok b.length
  | _ => .error (.typeError ("object of type '" ++ v.kindName ++ "' has no len()"))

/-- Refuses a value that cannot be a key of a mapping or an item of a set: lists,
mappings and sets, whose contents may change. -/
def requireHashable (v : Value) : Except Fault Unit :=
  match v with
  | .list _ | .dict _ | .set _ => .error (.typeError ("unhashable type: '" ++ v.kindName ++ "'"))
  | _ => .ok ()

/-- Membership test `a in b` for containers and text: a text holds only texts, and a
mapping or a set is asked only for values that can be keys. -/
def contains (container item : Value) : Except Fault Bool :=
  match container, item with
  | .str s, .str t => .ok (t.isEmpty || (s.splitOn t).length > 1)
  | .str _, _ => .error (.typeError ("'in <string>' requires string as left operand, not " ++ item.kindName))
  | .list xs, _ | .tuple xs, _ => .ok (xs.any fun x => Value.equals x item)
  | .set xs, _ => do requireHashable item; return xs.any fun x => Value.equals x item
  | .dict es, _ => do requireHashable item; return Dict.hasKey es item
  | _, _ => .error (.typeError ("argument of type '" ++ container.kindName ++ "' is not iterable"))

end Value

end Airwaves
