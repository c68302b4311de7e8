import Airwaves.Number.Double
/-!
# Exact decimal digits of doubles

The shortest digits that read back as the same double, a fixed number of significant digits, and
a fixed number of places, all computed on naturals.
-/
namespace Airwaves.Number

/-- A finite double split exactly: its value is `± mantissa * 2 ^ exponent`. -/
structure Binary where
  negative : Bool
  mantissa : Nat
  exponent : Int
  /-- The significand is a power of two with a smaller gap below it than above. -/
  narrowBelow : Bool
  deriving Repr, Inhabited

/-- Splits a double into sign, significand and exponent; `none` for NaN and the infinities. -/
def decode (x : Double) : Option Binary :=
  if x.isFinite then
    some ⟨x.negative, x.significand, x.exponent, x.fraction.val == 0 && x.field.val > 1⟩
  else none

/-- Number of decimal digits of a natural number (one for zero). -/
def digitCount (n : Nat) : Nat := (Nat.toDigits 10 n).length

/-- A nonnegative rational `numerator / denominator` with a positive denominator. -/
structure Ratio where
  numerator : Nat
  denominator : Nat
  deriving Repr, Inhabited

/-- `c * 10 ^ p` as a ratio. -/
def scaled (c : Nat) (p : Int) : Ratio :=
  if p ≥ 0 then ⟨c * Nat.pow 10 p.toNat, 1⟩ else ⟨c, Nat.pow 10 (-p).toNat⟩

/-- Compares two ratios by cross multiplication. -/
def Ratio.cmp (a b : Ratio) : Ordering :=
  compare (a.numerator * b.denominator) (b.numerator * a.denominator)

/-- `⌊r / 10 ^ p⌋` for a ratio `r`. -/
def Ratio.floorScaled (r : Ratio) (p : Int) : Nat :=
  if p ≥ 0 then r.numerator / (r.denominator * Nat.pow 10 p.toNat)
  else r.numerator * Nat.pow 10 (-p).toNat / r.denominator

/-- The decimal exponent `E` with `10 ^ E ≤ r < 10 ^ (E + 1)`, for a positive ratio. -/
def Ratio.log10 (r : Ratio) : Int :=
  let guess : Int := (digitCount r.numerator : Int) - (digitCount r.denominator : Int)
  if (scaled 1 guess).cmp r == .gt then guess - 1 else guess

/-- The magnitude of a decoded double as a ratio, scaled by four so that the ends of its
rounding interval are whole multiples of the denominator's unit. -/
def Binary.quarterScale (b : Binary) : Nat × Nat × Nat × Nat :=
  let v := 4 * b.mantissa
  let lo := if b.narrowBelow then v - 1 else v - 2
  let hi := v + 2
  let e := b.exponent - 2
  if e ≥ 0 then (v * Nat.pow 2 e.toNat, lo * Nat.pow 2 e.toNat, hi * Nat.pow 2 e.toNat, 1)
  else (v, lo, hi, Nat.pow 2 (-e).toNat)

/-- The digits of a decimal as a natural number and the power of ten of its last digit,
with trailing zeros moved into the exponent. -/
structure Digits where
  coefficient : Nat
  exponent : Int
  deriving Repr, Inhabited, BEq

/-- Moves trailing zeros of the coefficient into the exponent. -/
def Digits.trim (d : Digits) : Digits :=
  go d.coefficient d.exponent (digitCount d.coefficient)
where
  go (c : Nat) (p : Int) : Nat → Digits
    | 0 => ⟨c, p⟩
    | fuel + 1 => if c ≠ 0 ∧ c % 10 = 0 then go (c / 10) (p + 1) fuel else ⟨c, p⟩

/-- Position of the decimal point: the value is `0.d₁d₂… × 10 ^ pointPosition`. -/
def Digits.pointPosition (d : Digits) : Int := (digitCount d.coefficient : Int) + d.exponent

/-- The digit characters of the coefficient. -/
def Digits.text (d : Digits) : String := String.ofList (Nat.toDigits 10 d.coefficient)

/-- Chooses between the two grid neighbours of the value: the one inside the rounding
interval, the nearer if both are, the even one on an exact tie. -/
def pick (v lo hi : Ratio) (inclusive : Bool) (cLow : Nat) (p : Int) : Option Nat :=
  let inside (c : Nat) : Bool :=
    let q := scaled c p
    let aboveLow := match q.cmp lo with | .gt => true | .eq => inclusive | .lt => false
    let belowHigh := match q.cmp hi with | .lt => true | .eq => inclusive | .gt => false
    aboveLow && belowHigh
  let lowIn := cLow ≠ 0 && inside cLow
  let highIn := inside (cLow + 1)
  if lowIn && highIn then
    -- distances to the value, both over the common denominator
    let below := v.numerator * (scaled cLow p).denominator - (scaled cLow p).numerator * v.denominator
    let above := (scaled (cLow + 1) p).numerator * v.denominator - v.numerator * (scaled (cLow + 1) p).denominator
    let denLow := v.denominator * (scaled cLow p).denominator
    let denHigh := v.denominator * (scaled (cLow + 1) p).denominator
    match compare (below * denHigh) (above * denLow) with
    | .lt => some cLow
    | .gt => some (cLow + 1)
    | .eq => some (if cLow % 2 = 0 then cLow else cLow + 1)
  else if lowIn then some cLow
  else if highIn then some (cLow + 1)
  else none

/-- The shortest decimal that reads back as the given positive decoded double: the first
number of significant digits, from one up to seventeen, whose grid has a point inside the
rounding interval. -/
def shortest (b : Binary) : Digits :=
  let (v, lo, hi, den) := b.quarterScale
  let value : Ratio := ⟨v, den⟩
  let low : Ratio := ⟨lo, den⟩
  let high : Ratio := ⟨hi, den⟩
  let e := value.log10
  let inclusive := b.mantissa % 2 == 0
  let rec search : Nat → Nat → Digits
    | 0, _ => (⟨value.floorScaled (e - 16), e - 16⟩ : Digits).trim
    | fuel + 1, k =>
      let p := e - (k : Int) + 1
      match pick value low high inclusive (value.floorScaled p) p with
      | some c => (⟨c, p⟩ : Digits).trim
      | none => search fuel (k + 1)
  if b.mantissa = 0 then ⟨0, 0⟩ else search 17 1

/-- Rounds `numerator / denominator` to the nearest natural number, a tie going to the even one. -/
def divRoundEven (numerator denominator : Nat) : Nat :=
  let q := numerator / denominator
  let r := numerator % denominator
  match compare (2 * r) denominator with
  | .lt => q
  | .gt => q + 1
  | .eq => if q % 2 = 0 then q else q + 1

/-- Rounds `numerator / denominator` to the nearest natural number, a tie going up. -/
def divRoundUp (numerator denominator : Nat) : Nat :=
  let q := numerator / denominator
  if 2 * (numerator % denominator) ≥ denominator then q + 1 else q

/-- The magnitude of a decoded double as an exact ratio. -/
def Binary.magnitude (b : Binary) : Ratio :=
  if b.exponent ≥ 0 then ⟨b.mantissa * Nat.pow 2 b.exponent.toNat, 1⟩
  else ⟨b.mantissa, Nat.pow 2 (-b.exponent).toNat⟩

/-- The magnitude rounded to `n` significant digits (`n ≥ 1`), a tie going to the even
neighbour; the coefficient keeps exactly `n` digits unless the value is zero. -/
def significant (b : Binary) (n : Nat) : Digits :=
  let r := b.magnitude
  if r.numerator = 0 then ⟨0, 0⟩ else
  let e := r.log10
  let p := e - (n : Int) + 1
  let c :=
    if p ≥ 0 then divRoundEven r.numerator (r.denominator * Nat.pow 10 p.toNat)
    else divRoundEven (r.numerator * Nat.pow 10 (-p).toNat) r.denominator
  if c = Nat.pow 10 n then ⟨Nat.pow 10 (n - 1), p + 1⟩ else ⟨c, p⟩

/-- The magnitude times `10 ^ places`, rounded to a whole number, a tie going away from zero. -/
def roundAway (b : Binary) (places : Int) : Nat :=
  let r := b.magnitude
  if places ≥ 0 then divRoundUp (r.numerator * Nat.pow 10 places.toNat) r.denominator
  else divRoundUp r.numerator (r.denominator * Nat.pow 10 (-places).toNat)

/-- The integer part of the magnitude. -/
def Binary.wholePart (b : Binary) : Nat := b.magnitude.numerator / b.magnitude.denominator

end Airwaves.Number
