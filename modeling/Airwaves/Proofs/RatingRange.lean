import Mathlib.Tactic.Linarith
import Airwaves.Proofs.DoubleExact
import Airwaves.Proofs.ElectionRecord
import Airwaves.Catalog.Rating
/-!
# Ratings stay in range

Rating a tally of whole counts against any rating map whose tiers earn numbers: the points
possible are the sum of the counts, exactly below `2 ^ 53`, and the final clamp keeps the points
earned between zero and them whatever the tiers earned, so one plus four times the share earned
lies in `(1, 5]`.
-/
namespace Airwaves.Rating

open Double

/-- From a world, an action succeeds with a result that meets `Q` and leaves the world as it was. -/
def Settles {α : Type} (x : Act α) (w : World) (Q : α → Prop) : Prop :=
  ∃ a, x.run w = .ok a w ∧ Q a

namespace Settles

variable {α β γ : Type} {w : World}

theorem pure {a : α} {Q : α → Prop} (ha : Q a) : Settles (Pure.pure a : Act α) w Q :=
  ⟨a, rfl, ha⟩

theorem bind {x : Act α} {f : α → Act β} (R : α → Prop) {Q : β → Prop} (hx : Settles x w R)
    (hf : ∀ a, R a → Settles (f a) w Q) : Settles (x >>= f) w Q := by
  obtain ⟨a, run, ha⟩ := hx
  obtain ⟨b, rest, hb⟩ := hf a ha
  exact ⟨b, by rw [run_bind_ok run]; exact rest, hb⟩

theorem bind_ok {x : Act α} {f : α → Act β} {a : α} {Q : β → Prop} (run : x.run w = .ok a w)
    (hf : Settles (f a) w Q) : Settles (x >>= f) w Q :=
  bind (· = a) ⟨a, run, rfl⟩ fun _ same => same ▸ hf

/-- A loop that never breaks, whose every pass keeps an invariant of the items done so far and
leaves the world alone, finishes with the invariant of all its items. -/
theorem loop {xs : List γ} {f : γ → β → Act (ForInStep β)} (P : List γ → β → Prop)
    (step : ∀ pre x b, pre ++ [x] <+: xs → P pre b →
      Settles (f x b) w fun r => ∃ b', r = .yield b' ∧ P (pre ++ [x]) b')
    {b : β} (start : P [] b) : Settles (forIn xs b f) w (P xs) := by
  -- the loop over the items left once a prefix is done
  suffices left : ∀ rest pre b, pre ++ rest = xs → P pre b → Settles (forIn rest b f) w (P xs) from
    left xs [] b rfl start
  intro rest
  induction rest with
  | nil =>
    intro pre b done hb
    rw [List.append_nil] at done
    exact ⟨b, rfl, done ▸ hb⟩
  | cons x rest ih =>
    intro pre b split hb
    have isPrefix : pre ++ [x] <+: xs := ⟨rest, by rw [← split, List.append_assoc]; rfl⟩
    rw [List.forIn_cons]
    refine bind _ (step pre x b isPrefix hb) ?_
    rintro _ ⟨b', rfl, hb'⟩
    exact ih (pre ++ [x]) b' (by rw [← split, List.append_assoc]; rfl) hb'

/-- The same for an invariant of the loop state alone. -/
theorem loop_of_mem {xs : List γ} {f : γ → β → Act (ForInStep β)} (P : β → Prop)
    (step : ∀ x ∈ xs, ∀ b, P b → Settles (f x b) w fun r => ∃ b', r = .yield b' ∧ P b')
    {b : β} (start : P b) : Settles (forIn xs b f) w P :=
  loop (fun _ b => P b)
    (fun _ x b pre hb => step x (pre.subset (List.mem_append_right _ (List.mem_singleton_self x))) b hb)
    start

end Settles

/-! ### Reading a tally -/

/-- A row of a rating tally as the database gives it: a rating and how many listeners gave it. -/
def tallyRow (row : Value × Nat) : Value :=
  .dict (Dict.ofStrings [("rating", row.1), ("count", .int row.2)])

/-- A tier of the configured rating map: the rating it starts at and the points it earns for
each rating that reaches it. -/
def ratingTier (tier : Value × Value) : Value :=
  .dict (Dict.ofStrings [("threshold", tier.1), ("points", tier.2)])

theorem config_get_run {w : World} {key : String} {v : Value}
    (h : Dict.field? w.config.opts key = some v) : (Config.get key).run w = .ok v w := by
  simp only [Dict.field?] at h
  simp [Config.get, Config.option, Config.require, Config.has, Config.current, Dict.hasKey, h,
    EStateM.run_bind, run_map, EStateM.run_get]

theorem plusIn_float_run (x : Double) {v : Value} {n : Value.Number} (hv : v.number? = some n)
    (w : World) : (plusIn (.float x) v).run w = .ok (.float (x + n.toDouble)) w := by
  cases v <;> simp only [Value.number?, reduceCtorEq, Option.some.injEq] at hv <;> subst hv <;> rfl

theorem times_number {a b : Value} (ha : a.isNumber = true) (hb : b.isNumber = true) (w : World) :
    ∃ v, (times a b).run w = .ok v w ∧ v.isNumber = true := by
  obtain ⟨m, hm⟩ := Option.isSome_iff_exists.1 ha
  obtain ⟨n, hn⟩ := Option.isSome_iff_exists.1 hb
  cases m <;> cases n <;> simp only [times, Value.mul, Value.numeric, hm, hn] <;> exact ⟨_, rfl, rfl⟩

/-! ### The clamp -/

theorem larger_zero_run (x : Double) (w : World) :
    (larger (.int 0) (.float x)).run w =
      .ok (if x.isNaN = false ∧ x.compareInt? 0 = some .gt then .float x else .int 0) w := by
  cases nan : x.isNaN <;> cases c : x.compareInt? 0 <;>
    simp [larger, Value.max?, Value.gt?, Value.compare?, Value.isNaN, Value.number?,
      Value.Number.cmp, nan, c, Act.lift]

theorem smaller_zero_run (q : Double) (w : World) :
    (smaller (.float q) (.int 0)).run w =
      .ok (if q.isNaN = false ∧ q.compareInt? 0 = some .gt then .int 0 else .float q) w := by
  cases nan : q.isNaN <;> cases c : q.compareInt? 0 <;>
    simp [smaller, Value.min?, Value.lt?, Value.compare?, Value.isNaN, Value.number?,
      Value.Number.cmp, nan, c, Act.lift]

theorem smaller_float_run (q x : Double) (w : World) :
    (smaller (.float q) (.float x)).run w =
      .ok (if x.isNaN = false ∧ q.isNaN = false ∧ x.compare? q = some .lt then .float x
        else .float q) w := by
  cases nan : x.isNaN <;> cases qnan : q.isNaN <;> cases c : x.compare? q <;>
    simp [smaller, Value.min?, Value.lt?, Value.compare?, Value.isNaN, Value.number?,
      Value.Number.cmp, nan, qnan, c, Act.lift]

/-- The exact value of a number: a whole number, a truth value or a finite double. -/
def rational? : Value → Option ℚ
  | .bool b => some (if b then 1 else 0)
  | .int n => some n
  | .float x => if x.isFinite then some x.value else none
  | _ => none

/-- Points earned, as a number between zero and the points possible. -/
def InRange (points : Value) (possible : Nat) : Prop :=
  ∃ P, rational? points = some P ∧ 0 ≤ P ∧ P ≤ possible

theorem rational_ofInt {S : Nat} (hS : S < 2 ^ 53) : rational? (.float (ofInt S)) = some (S : ℚ) := by
  obtain ⟨finite, -, -, units⟩ := ofInt_exact hS
  simp only [rational?, finite, if_true, value, units, Int.cast_mul, Int.cast_natCast, Int.cast_pow,
    Int.cast_ofNat]
  rw [mul_div_cancel_right₀ _ (by positivity)]

theorem inRange_zero (S : Nat) : InRange (.int 0) S :=
  ⟨0, rfl, le_refl _, Nat.cast_nonneg _⟩

theorem inRange_possible {S : Nat} (hS : S < 2 ^ 53) : InRange (.float (ofInt S)) S :=
  ⟨S, rational_ofInt hS, Nat.cast_nonneg _, le_refl _⟩

/-- A double above zero and below a finite double is finite: the infinity above zero is above
every finite double. -/
theorem isFinite_between {x q : Double} (hq : q.isFinite = true)
    (above : x.compareInt? 0 = some .gt) (below : x.compare? q = some .lt) : x.isFinite = true := by
  have notNaN : x.isNaN = false := by
    cases nan : x.isNaN
    · rfl
    · simp [compareInt?, nan] at above
  by_contra infinite
  have inf : x.isInf = true := by
    simp only [isFinite, isNaN, isInf, bne_iff_ne, ne_eq, bne_eq_false_iff_eq,
      Bool.and_eq_false_iff] at infinite notNaN ⊢
    simp_all
  simp only [compareInt?, notNaN, rank, inf, if_true] at above
  simp only [compare?, notNaN, isNaN_of_finite hq, rank, inf, if_true, isInf_of_finite hq] at below
  cases neg : x.negative <;> simp_all

theorem inRange_between {x : Double} {S : Nat} (hS : S < 2 ^ 53)
    (above : x.compareInt? 0 = some .gt) (below : x.compare? (ofInt S) = some .lt) :
    InRange (.float x) S := by
  obtain ⟨finiteS, -, -, unitsS⟩ := ofInt_exact hS
  have finite := isFinite_between finiteS above below
  rw [compareInt?_of_finite finite, Option.some.injEq, compare_gt_iff_gt] at above
  rw [compare?_of_finite finite finiteS, Option.some.injEq, compare_lt_iff_lt, unitsS] at below
  refine ⟨x.value, by simp [rational?, finite], ?_, ?_⟩
  · unfold value
    rw [zero_mul] at above
    have : (0 : ℚ) < x.units := by exact_mod_cast above
    positivity
  · unfold value
    have cast : (x.units : ℚ) < ((S * 2 ^ 1074 : ℤ) : ℚ) := Int.cast_lt.2 below
    rw [Int.cast_mul, Int.cast_natCast, Int.cast_pow, Int.cast_ofNat] at cast
    rw [div_le_iff₀ (pow_pos two_pos 1074)]
    exact cast.le


/-- Clamping any double of points earned between zero and `S` points possible gives a number
between zero and `S`: the points earned when they lie strictly between, otherwise zero or the
points possible. -/
theorem clamp_settles {β : Type} (x : Double) {S : Nat} (hS : S < 2 ^ 53) {w : World}
    {k : Value → Act β} {Q : β → Prop} (hk : ∀ p, InRange p S → Settles (k p) w Q) :
    Settles (larger (.int 0) (.float x) >>= fun r => smaller (.float (ofInt S)) r >>= k) w Q := by
  refine Settles.bind_ok (larger_zero_run x w) ?_
  split
  · next above =>
    refine Settles.bind_ok (smaller_float_run _ _ w) (hk _ ?_)
    split
    · next below => exact inRange_between hS above.2 below.2.2
    · exact inRange_possible hS
  · refine Settles.bind_ok (smaller_zero_run _ w) (hk _ ?_)
    split
    · exact inRange_zero S
    · exact inRange_possible hS

/-! ### The tally -/

theorem zero_eq_ofInt : (0.0 : Double) = ofInt 0 := by decide

theorem isAtLeast_run (a b : Value) (w : World) :
    (isAtLeast a b).run w = .ok (Value.greaterEq a b) w := rfl

theorem plusIn_ofInt_run {s c : Nat} (h : s + c < 2 ^ 53) (w : World) :
    (plusIn (.float (ofInt s)) (.int c)).run w = .ok (.float (ofInt (s + c : Nat))) w := by
  rw [plusIn_float_run _ rfl, Value.Number.toDouble, ofInt_add_ofInt h]

/-- The counts of a tally's rows, added up. -/
def totalCount (rows : List (Value × Nat)) : Nat := (rows.map Prod.snd).sum

@[simp] theorem counted_nil : totalCount [] = 0 := rfl

@[simp] theorem counted_append (xs ys : List (Value × Nat)) :
    totalCount (xs ++ ys) = totalCount xs + totalCount ys := by
  simp [totalCount]

@[simp] theorem counted_singleton (row : Value × Nat) : totalCount [row] = row.2 := by
  simp [totalCount]

theorem calculate_settles {w : World} {tiers : List (Value × Value)} (rows : List (Value × Nat))
    (ratingMap : Dict.field? w.config.opts "rating_map" = some (.list (tiers.map ratingTier)))
    (earnNumbers : ∀ t ∈ tiers, t.2.isNumber = true) (small : totalCount rows < 2 ^ 53) :
    Settles (calculate (.list (rows.map tallyRow))) w
      fun result => ∃ points, result = .tuple [points, .float (ofInt (totalCount rows))] ∧
        InRange points (totalCount rows) := by
  unfold calculate
  refine Settles.bind_ok (config_get_run ratingMap) ?_
  refine Settles.bind_ok (itemsOf_list_run _ w) ?_
  rw [List.forIn_map]
  refine Settles.bind (fun s => ∃ x, s = (.float x, .float (ofInt (totalCount rows))))
    (Settles.loop (fun (pre : List (Value × Nat)) (s : Value × Value) =>
      ∃ x, s = (.float x, .float (ofInt (totalCount pre)))) ?_ ?_) ?_
  -- one row: its count goes into the points possible, exactly, and the tiers it reaches into the
  -- points earned, as some double
  · rintro pre ⟨rating, count⟩ _ ⟨rest, split⟩ ⟨x, rfl⟩
    have bound : totalCount pre + count < 2 ^ 53 := by
      rw [← split] at small
      simp only [counted_append, counted_singleton] at small
      omega
    refine Settles.bind_ok (col_dict_run rfl w) ?_
    refine Settles.bind_ok (plusIn_ofInt_run bound w) ?_
    refine Settles.bind_ok (itemsOf_list_run _ w) ?_
    refine Settles.bind (·.isNumber = true) (Settles.loop_of_mem _ ?_ rfl) ?_
    -- a tier either keeps the row's points or sets them to a count times the tier's points
    · simp only [List.mem_map]
      rintro _ ⟨tier, member, rfl⟩ earned numeric
      refine Settles.bind_ok (col_dict_run rfl w) ?_
      refine Settles.bind_ok (col_dict_run rfl w) ?_
      refine Settles.bind_ok (isAtLeast_run _ _ w) ?_
      split
      · refine Settles.bind_ok (col_dict_run rfl w) ?_
        refine Settles.bind_ok (col_dict_run rfl w) ?_
        obtain ⟨v, run, number⟩ := times_number (a := .int count) rfl (earnNumbers tier member) w
        exact Settles.bind_ok run (.pure ⟨v, rfl, number⟩)
      · exact .pure ⟨_, rfl, numeric⟩
    · intro earned numeric
      obtain ⟨n, hn⟩ := Option.isSome_iff_exists.1 numeric
      exact Settles.bind_ok (plusIn_float_run x hn w) (.pure ⟨_, rfl, x + n.toDouble, by simp⟩)
  · exact ⟨0.0, by rw [zero_eq_ofInt]; rfl⟩
  · rintro _ ⟨x, rfl⟩
    exact clamp_settles x small fun p inRange => .pure ⟨p, rfl, inRange⟩


/-- Rows of a tally whose whole counts add up to less than `2 ^ 53`, rated against any rating map
whose tiers earn numbers: the points possible are exactly the sum of the counts and the points
earned lie between zero and them, so one plus four times the share earned, once anything is
earned, lies above one and at most five. -/
theorem rating_within_bounds {w : World} {tiers : List (Value × Value)} (rows : List (Value × Nat))
    (ratingMap : Dict.field? w.config.opts "rating_map" = some (.list (tiers.map ratingTier)))
    (earnNumbers : ∀ t ∈ tiers, t.2.isNumber = true) (small : totalCount rows < 2 ^ 53) :
    ∃ points potential : Value, ∃ P : ℚ,
      (calculate (.list (rows.map tallyRow))).run w = .ok (.tuple [points, potential]) w ∧
      rational? potential = some (totalCount rows : ℚ) ∧ rational? points = some P ∧
      0 ≤ P ∧ P ≤ totalCount rows ∧
      (0 < P → 1 < P / totalCount rows * 4 + 1 ∧ P / totalCount rows * 4 + 1 ≤ 5) := by
  obtain ⟨_, run, points, rfl, P, exact, nonneg, atMost⟩ :=
    calculate_settles rows ratingMap earnNumbers small
  refine ⟨points, _, P, run, rational_ofInt small, exact, nonneg, atMost, fun earned => ?_⟩
  have possible : (0 : ℚ) < totalCount rows := lt_of_lt_of_le earned atMost
  have share : P / totalCount rows ≤ 1 := (div_le_one possible).2 atMost
  have positive : 0 < P / totalCount rows := div_pos earned possible
  constructor <;> linarith

/-- The reference configuration's rating map: its lowest tier takes points away and its highest
earns more than a point. -/
def referenceTiers : List (Value × Value) :=
  [(.int 0, .float (-0.2)), (.float 1.5, .float 0.0), (.float 2.0, .float 0.1),
    (.float 2.5, .float 0.2), (.float 3.0, .float 0.5), (.float 3.5, .float 0.75),
    (.float 4.0, .float 0.9), (.float 4.5, .float 1.0), (.float 5.0, .float 1.1)]

/-- A world configured with the reference rating map. -/
def referenceWorld : World :=
  { config := { opts := [(.str "rating_map", .list (referenceTiers.map ratingTier))] },
    rng := { words := #[], index := 0 } }

/-- Three listeners rated a song one star and two rated it five. -/
def splitVotes : List (Value × Nat) := [(.float 1.0, 3), (.float 5.0, 2)]

theorem splitVotes_in_bounds :
    (∀ t ∈ referenceTiers, t.2.isNumber = true) ∧ totalCount splitVotes < 2 ^ 53 ∧
      ∃ points potential : Value, ∃ P : ℚ,
        (calculate (.list (splitVotes.map tallyRow))).run referenceWorld =
          .ok (.tuple [points, potential]) referenceWorld ∧
        rational? potential = some (totalCount splitVotes : ℚ) ∧ rational? points = some P ∧
        0 ≤ P ∧ P ≤ totalCount splitVotes ∧
        (0 < P → 1 < P / totalCount splitVotes * 4 + 1 ∧ P / totalCount splitVotes * 4 + 1 ≤ 5) :=
  ⟨by decide, by decide, rating_within_bounds splitVotes rfl (by decide) (by decide)⟩

end Airwaves.Rating
