/-!
# Doubles

IEEE 754 binary64 numbers by their fields. Each operation computes the exact result and rounds it
once to the nearest double, a tie going to the even significand.
-/
namespace Airwaves

/-- A double by its fields: the sign, the biased exponent (2047 for the infinities and NaN)
and the 52 bits of the fraction. -/
structure Double where
  negative : Bool
  field : Fin 2048
  fraction : Fin 4503599627370496
  deriving DecidableEq, Inhabited, Repr

namespace Double

/-- `2 ^ 52`, the weight of the hidden leading bit of a normal significand. -/
def unit : Nat := 4503599627370496

/-- A double from its fields (taken modulo their ranges). -/
def make (negative : Bool) (field fraction : Nat) : Double :=
  ⟨negative, Fin.ofNat 2048 field, Fin.ofNat 4503599627370496 fraction⟩

/-- Zero of a sign. -/
def zero (negative : Bool) : Double := make negative 0 0

/-- The infinity of a sign. -/
def infinity (negative : Bool) : Double := make negative 2047 0

/-- The quiet NaN. -/
def nan : Double := make false 2047 2251799813685248

/-- Whether a double is NaN. -/
def isNaN (x : Double) : Bool := x.field.val == 2047 && x.fraction.val != 0

/-- Whether a double is an infinity. -/
def isInf (x : Double) : Bool := x.field.val == 2047 && x.fraction.val == 0

/-- Whether a double is finite. -/
def isFinite (x : Double) : Bool := x.field.val != 2047

/-- Whether a double is a zero of either sign. -/
def isZero (x : Double) : Bool := x.field.val == 0 && x.fraction.val == 0

/-- The significand of a finite double: its fraction, below the hidden bit when it is normal. -/
def significand (x : Double) : Nat := if x.field.val == 0 then x.fraction.val else unit + x.fraction.val

/-- The exponent of the last bit of a finite double's significand: its value is
`± significand * 2 ^ exponent`. -/
def exponent (x : Double) : Int := if x.field.val == 0 then -1074 else (x.field.val : Int) - 1075

/-- The ratio `n / d` scaled by `2 ^ e`, as a numerator and a denominator. -/
def scale (n d : Nat) (e : Int) : Nat × Nat :=
  if 0 ≤ e then (n * Nat.pow 2 e.toNat, d) else (n, d * Nat.pow 2 (-e).toNat)

/-- The magnitude of a finite double as a ratio. -/
def magnitude (x : Double) : Nat × Nat := scale x.significand 1 x.exponent

/-- `n / d` rounded to the nearest whole number, a tie going to the even one. -/
def nearestEven (n d : Nat) : Nat :=
  let q := n / d
  let r := n % d
  if d < 2 * r ∨ (2 * r = d ∧ q % 2 = 1) then q + 1 else q

/-- The binary exponent `k` of a positive ratio: `2 ^ k ≤ n / d < 2 ^ (k + 1)`. -/
def binaryExponent (n d : Nat) : Int :=
  let k : Int := (n.log2 : Int) - d.log2
  -- `n / d` lies between `2 ^ (k - 1)` and `2 ^ (k + 1)`
  let (a, b) := scale d 1 k
  if n * b < a then k - 1 else k

/-- The double `± q * 2 ^ e` for a significand `q` of at most 53 bits (or exactly `2 ^ 53`) at
an exponent of at least `-1074`, where a significand below `2 ^ 52` sits at `-1074`; past the
largest double it is an infinity. -/
def pack (negative : Bool) (q : Nat) (e : Int) : Double :=
  if q < unit then make negative 0 q
  else
    -- rounding up may carry into a 54th bit
    let (q, e) := if q = 2 * unit then (unit, e + 1) else (q, e)
    if e + 1075 < 2047 then make negative (e + 1075).toNat (q - unit) else infinity negative

/-- The double nearest to `n / d` (for `d > 0`), of the given sign: a tie goes to the even
significand, a value past the largest double becomes an infinity, and zero keeps the sign. -/
def ofRatio (negative : Bool) (n d : Nat) : Double :=
  if n = 0 then zero negative
  else
    let k := binaryExponent n d
    -- 53 significant bits, but no bit below `2 ^ -1074`
    let e : Int := if k - 52 < -1074 then -1074 else k - 52
    let (a, b) := scale n d (-e)
    pack negative (nearestEven a b) e

/-- The double nearest to a whole number. -/
def ofInt (n : Int) : Double := ofRatio (n < 0) n.natAbs 1

/-- The double nearest to `m * 10 ^ e`, or to `m * 10 ^ -e` when `lower`. -/
def ofScientific (m : Nat) (lower : Bool) (e : Nat) : Double :=
  if lower then ofRatio false m (Nat.pow 10 e) else ofRatio false (m * Nat.pow 10 e) 1

instance : OfScientific Double := ⟨ofScientific⟩

/-- The same double with the other sign. -/
def neg (x : Double) : Double := { x with negative := !x.negative }

/-- Sum: exact on the finite values, then rounded; a zero sum is negative only when both
operands are. -/
def add (x y : Double) : Double :=
  if x.isNaN || y.isNaN then nan
  else if x.isInf then (if y.isInf && y.negative != x.negative then nan else x)
  else if y.isInf then y
  else
    let e := if x.exponent ≤ y.exponent then x.exponent else y.exponent
    let a := x.significand * Nat.pow 2 (x.exponent - e).toNat
    let b := y.significand * Nat.pow 2 (y.exponent - e).toNat
    if x.negative == y.negative then
      let (n, d) := scale (a + b) 1 e
      ofRatio x.negative n d
    else if a = b then zero false
    else
      let (n, d) := scale (if b < a then a - b else b - a) 1 e
      ofRatio (if b < a then x.negative else y.negative) n d

/-- Difference. -/
def sub (x y : Double) : Double := add x (neg y)

/-- Product. -/
def mul (x y : Double) : Double :=
  let negative := x.negative != y.negative
  if x.isNaN || y.isNaN then nan
  else if x.isInf || y.isInf then (if x.isZero || y.isZero then nan else infinity negative)
  else
    let (n, d) := scale (x.significand * y.significand) 1 (x.exponent + y.exponent)
    ofRatio negative n d

/-- Quotient. -/
def div (x y : Double) : Double :=
  let negative := x.negative != y.negative
  if x.isNaN || y.isNaN then nan
  else if x.isInf then (if y.isInf then nan else infinity negative)
  else if y.isInf then zero negative
  else if y.isZero then (if x.isZero then nan else infinity negative)
  else
    let (n, d) := scale x.significand y.significand (x.exponent - y.exponent)
    ofRatio negative n d

instance : Add Double := ⟨add⟩
instance : Sub Double := ⟨sub⟩
instance : Mul Double := ⟨mul⟩
instance : Div Double := ⟨div⟩
instance : Neg Double := ⟨neg⟩

/-- The value of a finite double as a whole number times `2 ^ e`, for an `e` at most its
exponent. -/
def scaledTo (x : Double) (e : Int) : Int :=
  let m : Int := x.significand * Nat.pow 2 (x.exponent - e).toNat
  if x.negative then -m else m

/-- Where a double stands among the infinities: below, between or above the finite ones. -/
def rank (x : Double) : Nat := if x.isInf then (if x.negative then 0 else 2) else 1

/-- The order of two doubles by value, the zeros being equal; none when one is NaN. -/
def compare? (x y : Double) : Option Ordering :=
  if x.isNaN || y.isNaN then none
  else if x.rank != 1 || y.rank != 1 then some (compare x.rank y.rank)
  else
    let e := if x.exponent ≤ y.exponent then x.exponent else y.exponent
    some (compare (x.scaledTo e) (y.scaledTo e))

/-- The order of a double and a whole number, by exact value; none when the double is NaN. -/
def compareInt? (x : Double) (n : Int) : Option Ordering :=
  if x.isNaN then none
  else if x.rank != 1 then some (compare x.rank 1)
  else if 0 ≤ x.exponent then some (compare (x.scaledTo 0) n)
  else some (compare (x.scaledTo x.exponent) (n * (Nat.pow 2 (-x.exponent).toNat : Int)))

/-- Equality of values: the zeros are equal, NaN equals nothing. -/
def equals (x y : Double) : Bool := x.compare? y == some .eq

/-- `x < y`. -/
def less (x y : Double) : Bool := x.compare? y == some .lt

/-- `x ≤ y`. -/
def lessEq (x y : Double) : Bool := x.compare? y == some .lt || x.compare? y == some .eq

instance : LT Double := ⟨fun x y => x.less y = true⟩
instance : LE Double := ⟨fun x y => x.lessEq y = true⟩
instance (x y : Double) : Decidable (x < y) := inferInstanceAs (Decidable (x.less y = true))
instance (x y : Double) : Decidable (x ≤ y) := inferInstanceAs (Decidable (x.lessEq y = true))

/-- The whole number a whole-valued result stands for as a double, a zero keeping the sign
of `x`. -/
def ofWhole (x : Double) (z : Int) : Double := if z = 0 then zero x.negative else ofInt z

/-- `math.floor`: the largest whole double not above `x`. -/
def floor (x : Double) : Double :=
  if !x.isFinite || x.isZero then x
  else
    let (n, d) := x.magnitude
    x.ofWhole (if x.negative then -(((n + d - 1) / d : Nat) : Int) else (n / d : Nat))

/-- `math.ceil`: the smallest whole double not below `x`. -/
def ceil (x : Double) : Double :=
  if !x.isFinite || x.isZero then x
  else
    let (n, d) := x.magnitude
    x.ofWhole (if x.negative then -((n / d : Nat) : Int) else ((n + d - 1) / d : Nat))

/-- The nearest whole double, a tie going away from zero. -/
def round (x : Double) : Double :=
  if !x.isFinite || x.isZero then x
  else
    let (n, d) := x.magnitude
    let z : Nat := (2 * n + d) / (2 * d)
    x.ofWhole (if x.negative then -(z : Int) else z)

/-- The whole part of a finite double, toward zero; none for NaN and the infinities. -/
def toInt? (x : Double) : Option Int :=
  if !x.isFinite then none
  else
    let (n, d) := x.magnitude
    some (if x.negative then -((n / d : Nat) : Int) else (n / d : Nat))

/-- The 64 bits of a double. -/
def toBits (x : Double) : UInt64 :=
  ((if x.negative then Nat.pow 2 63 else 0) + x.field.val * unit + x.fraction.val).toUInt64

/-- The double of 64 bits. -/
def ofBits (b : UInt64) : Double :=
  make (b.toNat / Nat.pow 2 63 % 2 == 1) (b.toNat / unit % 2048) (b.toNat % unit)

/-- The natural logarithm, from the host's C library. -/
def log (x : Double) : Double := ofBits (Float.log (Float.ofBits x.toBits)).toBits

/-- `x` to the power `y`, from the host's C library. -/
def pow (x y : Double) : Double :=
  ofBits (Float.pow (Float.ofBits x.toBits) (Float.ofBits y.toBits)).toBits

end Double

end Airwaves
