import Mathlib.Algebra.Order.Field.Rat
import Mathlib.Tactic.Positivity
import Mathlib.Tactic.Ring
import Airwaves.Number.Double
/-!
# Exact arithmetic of doubles

Rounding depends on the value of a ratio alone, so whole numbers below `2 ^ 53` are doubles
exactly and add exactly; finite doubles compare by their exact values.
-/
namespace Airwaves.Double

/-! ### Rounding depends on the value alone -/

theorem log2_mul_pow {n : Nat} (hn : n ≠ 0) (j : Nat) : (n * 2 ^ j).log2 = n.log2 + j := by
  have lo : 2 ^ n.log2 ≤ n := Nat.log2_self_le hn
  have hi : n < 2 ^ (n.log2 + 1) := Nat.lt_log2_self
  rw [Nat.log2_eq_iff (by positivity)]
  constructor
  · rw [Nat.pow_add]
    exact Nat.mul_le_mul_right _ lo
  · rw [show n.log2 + j + 1 = n.log2 + 1 + j by omega, Nat.pow_add]
    exact Nat.mul_lt_mul_of_pos_right hi (by positivity)

theorem scale_mul_left (n d c : Nat) (e : Int) :
    scale (n * c) d e = ((scale n d e).1 * c, (scale n d e).2) := by
  unfold scale
  split <;> simp [Nat.mul_right_comm]

theorem scale_mul_right (n d c : Nat) (e : Int) :
    scale n (d * c) e = ((scale n d e).1, (scale n d e).2 * c) := by
  unfold scale
  split <;> simp [Nat.mul_right_comm]

theorem nearestEven_mul (a b : Nat) {c : Nat} (hc : 0 < c) :
    nearestEven (a * c) (b * c) = nearestEven a b := by
  unfold nearestEven
  dsimp only
  rw [Nat.mul_div_mul_right _ _ hc, Nat.mul_mod_mul_right]
  have twice : 2 * (a % b * c) = 2 * (a % b) * c := by rw [Nat.mul_assoc]
  have below : b * c < 2 * (a % b) * c ↔ b < 2 * (a % b) := Nat.mul_lt_mul_right hc
  have tie : 2 * (a % b) * c = b * c ↔ 2 * (a % b) = b := Nat.mul_left_inj (by omega)
  simp only [twice, below, tie]

theorem binaryExponent_mul_pow {n d : Nat} (hn : n ≠ 0) (hd : d ≠ 0) (j : Nat) :
    binaryExponent (n * 2 ^ j) (d * 2 ^ j) = binaryExponent n d := by
  unfold binaryExponent
  have k : ((n.log2 + j : Nat) : Int) - ((d.log2 + j : Nat) : Int) = n.log2 - d.log2 := by omega
  rw [log2_mul_pow hn, log2_mul_pow hd, k]
  dsimp only
  rw [scale_mul_left]
  have shifted : ∀ a b : Nat, n * 2 ^ j * b < a * 2 ^ j ↔ n * b < a := fun a b => by
    rw [Nat.mul_right_comm]
    exact Nat.mul_lt_mul_right (by positivity)
  simp only [shifted]

theorem ofRatio_mul_pow (negative : Bool) {n d : Nat} (hd : d ≠ 0) (j : Nat) :
    ofRatio negative (n * 2 ^ j) (d * 2 ^ j) = ofRatio negative n d := by
  by_cases hn : n = 0
  · simp [ofRatio, hn]
  · have hnj : n * 2 ^ j ≠ 0 := by positivity
    unfold ofRatio
    simp only [hn, hnj, if_false, binaryExponent_mul_pow hn hd]
    rw [scale_mul_left, scale_mul_right, nearestEven_mul _ _ (by positivity)]
/-! ### Whole numbers below `2 ^ 53` -/

theorem binaryExponent_whole {m : Nat} (h0 : m ≠ 0) : binaryExponent m 1 = m.log2 := by
  have lo : 2 ^ m.log2 ≤ m := Nat.log2_self_le h0
  have one : Nat.log2 1 = 0 := by decide
  unfold binaryExponent
  simp [scale, Nat.pow_eq, one, lo]

theorem nearestEven_one (x : Nat) : nearestEven x 1 = x := by
  simp [nearestEven, Nat.mod_one]

/-- A whole number below `2 ^ 53` rounds to itself: its 53-bit significand is the number shifted
up to the hidden bit. -/
theorem ofInt_of_lt {m : Nat} (hm : m < 2 ^ 53) (h0 : m ≠ 0) :
    ofInt m = make false (m.log2 + 1023) (m * 2 ^ (52 - m.log2) - unit) := by
  have lo : 2 ^ m.log2 ≤ m := Nat.log2_self_le h0
  have hi : m < 2 ^ (m.log2 + 1) := Nat.lt_log2_self
  have k52 : m.log2 < 53 := (Nat.log2_lt h0).2 hm
  have qlo : unit ≤ m * 2 ^ (52 - m.log2) := by
    calc unit = 2 ^ m.log2 * 2 ^ (52 - m.log2) := by
          rw [← Nat.pow_add, show m.log2 + (52 - m.log2) = 52 by omega]; rfl
      _ ≤ m * 2 ^ (52 - m.log2) := Nat.mul_le_mul_right _ lo
  have qhi : m * 2 ^ (52 - m.log2) < 2 * unit := by
    calc m * 2 ^ (52 - m.log2) < 2 ^ (m.log2 + 1) * 2 ^ (52 - m.log2) :=
          Nat.mul_lt_mul_of_pos_right hi (by positivity)
      _ = 2 * unit := by
          rw [← Nat.pow_add, show m.log2 + 1 + (52 - m.log2) = 53 by omega]; rfl
  unfold ofInt ofRatio
  have notTiny : ¬ ((m.log2 : Int) - 52 < -1074) := by omega
  have shift : -((m.log2 : Int) - 52) = ((52 - m.log2 : Nat) : Int) := by omega
  have field : ((m.log2 : Int) - 52 + 1075).toNat = m.log2 + 1023 := by omega
  simp only [Int.natAbs_natCast, h0, if_false, binaryExponent_whole h0, notTiny, shift, scale,
    if_true, Int.toNat_natCast, Nat.pow_eq, nearestEven_one, Nat.cast_nonneg,
    Int.not_lt.2 (Int.natCast_nonneg m), decide_false]
  unfold pack
  simp only [Nat.not_lt.2 qlo, Nat.ne_of_lt qhi, if_false, show (m.log2 : Int) - 52 + 1075 < 2047 by omega,
    if_true, field]
/-! ### Exact values -/

/-- The value of a double counted in the smallest subnormal, `2 ^ -1074`: a whole number for
every finite double. -/
def units (x : Double) : Int := x.scaledTo (-1074)

/-- The exact value of a finite double. -/
def value (x : Double) : ℚ := (x.units : ℚ) / 2 ^ 1074

theorem exponent_ge (x : Double) : -1074 ≤ x.exponent := by
  unfold exponent
  split
  · exact le_refl _
  · next nonzero =>
    simp only [beq_iff_eq] at nonzero
    omega

/-- Scaling to the lowest exponent passes through any exponent between it and the double's own. -/
theorem units_eq_scaledTo (x : Double) {e : Int} (lo : -1074 ≤ e) (hi : e ≤ x.exponent) :
    x.units = x.scaledTo e * 2 ^ (e + 1074).toNat := by
  have split : (x.exponent - -1074).toNat = (x.exponent - e).toNat + (e + 1074).toNat := by omega
  unfold units scaledTo
  simp only [Nat.pow_eq, split, Nat.pow_add]
  split <;> push_cast <;> ring
theorem isNaN_of_finite {x : Double} (hx : x.isFinite = true) : x.isNaN = false := by
  simp_all [isFinite, isNaN]

theorem rank_of_finite {x : Double} (hx : x.isFinite = true) : x.rank = 1 := by
  simp_all [isFinite, rank, isInf]

/-- Finite doubles compare by their exact values. -/
theorem compare?_of_finite {x y : Double} (hx : x.isFinite = true) (hy : y.isFinite = true) :
    x.compare? y = some (compare x.units y.units) := by
  unfold compare?
  simp only [isNaN_of_finite hx, isNaN_of_finite hy, rank_of_finite hx, rank_of_finite hy,
    Bool.or_false, bne_self_eq_false, Bool.false_eq_true, if_false, ← min_def, Option.some.injEq]
  have low : -1074 ≤ min x.exponent y.exponent := le_min (exponent_ge x) (exponent_ge y)
  rw [units_eq_scaledTo x low (min_le_left _ _), units_eq_scaledTo y low (min_le_right _ _),
    ← cmp_eq_compare, ← cmp_eq_compare, cmp_mul_pos_right (by positivity)]
/-- A finite double compares with a whole number by exact value. -/
theorem compareInt?_of_finite {x : Double} (hx : x.isFinite = true) (n : Int) :
    x.compareInt? n = some (compare x.units (n * 2 ^ 1074)) := by
  unfold compareInt?
  simp only [isNaN_of_finite hx, rank_of_finite hx, bne_self_eq_false, Bool.false_eq_true,
    if_false, Nat.pow_eq, Nat.cast_pow, Nat.cast_ofNat]
  split
  · next nonneg =>
    rw [units_eq_scaledTo x (by omega) nonneg, show ((0 : Int) + 1074).toNat = 1074 from rfl,
      ← cmp_eq_compare, ← cmp_eq_compare, cmp_mul_pos_right (by positivity)]
  · next below =>
    have shift : (2 : Int) ^ 1074 = 2 ^ (-x.exponent).toNat * 2 ^ (x.exponent + 1074).toNat := by
      have := exponent_ge x
      rw [← pow_add]
      congr 1
      omega
    rw [units_eq_scaledTo x (exponent_ge x) le_rfl, shift, ← mul_assoc,
      ← cmp_eq_compare, ← cmp_eq_compare, cmp_mul_pos_right (by positivity)]


/-- A whole number below `2 ^ 53` is a finite double that is not negative, at an exponent of at
most zero, worth exactly the number. -/
theorem ofInt_exact {m : Nat} (hm : m < 2 ^ 53) :
    (ofInt m).isFinite = true ∧ (ofInt m).negative = false ∧ (ofInt m).exponent ≤ 0 ∧
      (ofInt m).units = m * 2 ^ 1074 := by
  by_cases h0 : m = 0
  · subst h0
    decide +kernel
  · have k52 : m.log2 < 53 := (Nat.log2_lt h0).2 hm
    have lo : 2 ^ m.log2 ≤ m := Nat.log2_self_le h0
    have qlo : unit ≤ m * 2 ^ (52 - m.log2) := by
      calc unit = 2 ^ m.log2 * 2 ^ (52 - m.log2) := by
            rw [← Nat.pow_add, show m.log2 + (52 - m.log2) = 52 by omega]; rfl
        _ ≤ m * 2 ^ (52 - m.log2) := Nat.mul_le_mul_right _ lo
    have qhi : m * 2 ^ (52 - m.log2) < 2 * unit := by
      calc m * 2 ^ (52 - m.log2) < 2 ^ (m.log2 + 1) * 2 ^ (52 - m.log2) :=
            Nat.mul_lt_mul_of_pos_right Nat.lt_log2_self (by positivity)
        _ = 2 * unit := by
            rw [← Nat.pow_add, show m.log2 + 1 + (52 - m.log2) = 53 by omega]; rfl
    have field : (Fin.ofNat 2048 (m.log2 + 1023)).val = m.log2 + 1023 := by
      simp only [Fin.val_ofNat]; omega
    have fraction : (Fin.ofNat 4503599627370496 (m * 2 ^ (52 - m.log2) - unit)).val =
        m * 2 ^ (52 - m.log2) - unit := by
      simp only [Fin.val_ofNat]; unfold unit at qlo qhi ⊢; omega
    rw [ofInt_of_lt hm h0]
    have normal : (m.log2 + 1023 == 0) = false := by simp
    have finite : (m.log2 + 1023 != 2047) = true := by simp; omega
    have hidden : unit + (m * 2 ^ (52 - m.log2) - unit) = m * 2 ^ (52 - m.log2) := by omega
    have shift : (((m.log2 + 1023 : Nat) : Int) - 1075 - -1074).toNat = m.log2 + 1022 := by omega
    simp only [make, isFinite, exponent, units, scaledTo, significand, field, fraction, normal,
      finite, hidden, shift, Bool.false_eq_true, if_false, Nat.pow_eq, true_and]
    refine ⟨by omega, ?_⟩
    simp only [Nat.cast_mul, Nat.cast_pow, Nat.cast_ofNat]
    rw [mul_assoc, ← pow_add, show 52 - m.log2 + (m.log2 + 1022) = 1074 by omega]


/-! ### Exact sums -/

theorem isInf_of_finite {x : Double} (hx : x.isFinite = true) : x.isInf = false := by
  simp_all [isFinite, isInf]

theorem scale_of_nonpos (n d : Nat) {e : Int} (he : e ≤ 0) :
    scale n d e = (n, d * 2 ^ (-e).toNat) := by
  unfold scale
  split
  · next zero =>
    have : e = 0 := by omega
    subst this
    simp
  · simp [Nat.pow_eq]

/-- A double worth a whole number, scaled to a lower exponent at or below zero, is that number
scaled the same way. -/
theorem significand_scaled {z : Double} {m : Nat} {e : Int} (hn : z.negative = false)
    (hu : z.units = m * 2 ^ 1074) (lo : -1074 ≤ e) (hi : e ≤ z.exponent) (he : e ≤ 0) :
    z.significand * 2 ^ (z.exponent - e).toNat = m * 2 ^ (-e).toNat := by
  have scaled := units_eq_scaledTo z lo hi
  have split : (2 : Int) ^ 1074 = 2 ^ (-e).toNat * 2 ^ (e + 1074).toNat := by
    rw [← pow_add]
    congr 1
    omega
  rw [hu, split, ← mul_assoc] at scaled
  unfold scaledTo at scaled
  simp only [hn, Bool.false_eq_true, if_false, Nat.pow_eq] at scaled
  have cancelled := mul_right_cancel₀ (by positivity) scaled
  exact_mod_cast cancelled.symm

/-- Below `2 ^ 53` whole numbers add exactly. -/
theorem ofInt_add_ofInt {a b : Nat} (h : a + b < 2 ^ 53) :
    ofInt a + ofInt b = ofInt (a + b : Nat) := by
  obtain ⟨fa, na, ea, ua⟩ := ofInt_exact (m := a) (by omega)
  obtain ⟨fb, nb, eb, ub⟩ := ofInt_exact (m := b) (by omega)
  have low : -1074 ≤ min (ofInt a).exponent (ofInt b).exponent :=
    le_min (exponent_ge _) (exponent_ge _)
  have nonpos : min (ofInt a).exponent (ofInt b).exponent ≤ 0 := le_trans (min_le_left _ _) ea
  show add _ _ = _
  unfold add
  simp only [isNaN_of_finite fa, isNaN_of_finite fb, isInf_of_finite fa, isInf_of_finite fb,
    na, nb, Bool.or_false, Bool.false_eq_true, if_false, beq_self_eq_true, if_true, ← min_def,
    Nat.pow_eq, significand_scaled na ua low (min_le_left _ _) nonpos,
    significand_scaled nb ub low (min_le_right _ _) nonpos, scale_of_nonpos _ _ nonpos]
  rw [← Nat.add_mul, ofRatio_mul_pow _ one_ne_zero, ofInt, Int.natAbs_natCast,
    decide_eq_false (Int.not_lt.2 (Int.natCast_nonneg _))]

end Airwaves.Double
