import Airwaves.Locale.Basic
import Mathlib.Data.Nat.Find
/-!
# Suffixes of numbers

A number's suffix is looked up by its endings from the whole text down to two digits; the last
digit alone is never looked up.
-/

namespace Airwaves.Locale

variable (l : Locale)

/-! ### The search over endings -/

/-- The search for a suffix, read as the first position with an entry. The model looks the
positions up in order with `List.find?`; `Nat.find` names the least one. -/
theorem suffixed_eq_first (v : Value) :
    l.suffixed v =
      if h : ∃ i < (numberText v).length - 1, l.hasSuffix (ending (numberText v) i) then
        l.withSuffix (numberText v) (ending (numberText v) (Nat.find h))
      else .ok (numberText v) := by
  unfold suffixed
  dsimp only
  cases found : (List.range ((numberText v).length - 1)).find?
      (fun i => l.hasSuffix (ending (numberText v) i)) with
  | some i =>
    obtain ⟨has, j, bound, at_j, before⟩ := List.find?_eq_some_iff_getElem.mp found
    simp only [List.getElem_range] at at_j
    subst at_j
    simp only [List.length_range] at bound
    have first : ∃ i < (numberText v).length - 1, l.hasSuffix (ending (numberText v) i) :=
      ⟨j, bound, has⟩
    -- the position `find?` stops at is the least one with an entry
    rw [dif_pos first, Nat.find_eq_iff first |>.mpr]
    refine ⟨⟨bound, has⟩, fun k lt ⟨_, hk⟩ => ?_⟩
    simpa [hk] using before k lt
  | none =>
    rw [dif_neg]
    rintro ⟨i, lt, has⟩
    simpa [has] using List.find?_eq_none.mp found i (List.mem_range.mpr lt)

/-- A text of at most one character has no position to look up, whatever the locale holds. -/
theorem suffixed_of_short {v : Value} (short : (numberText v).length ≤ 1) :
    l.suffixed v = .ok (numberText v) := by
  rw [suffixed_eq_first, dif_neg]
  rintro ⟨i, lt, -⟩
  omega

theorem toString_length_of_lt_ten {n : ℕ} (small : n < 10) : (toString n).length = 1 := by
  simp [Nat.toString_eq_repr, Nat.repr, Nat.toDigits_of_lt_base small]

/-! ### The placeholder in a phrase -/

theorem fillNumber_marked {line name s : String} {v : Value} (suffix : l.suffixed v = .ok s)
    (marked : (findFrom line ("#(" ++ name ++ ")") 0).isSome) :
    l.fillNumber line name v = .ok (replaceAll line ("#(" ++ name ++ ")") s) := by
  simp [fillNumber, marked, suffix, Functor.map, Except.map]

/-- Translating with a whole number puts the suffixed number in place of `#(name)`, once the
number's display text has filled any `%(name)`; a plural placeholder for the same name would be
read afterwards, so the filled line must hold none. -/
theorem translate_fills_number {key name p s : String} {n : Int}
    (phrase : l.phrase? key = some (.str p)) (suffix : l.suffixed (.int n) = .ok s)
    (marked : (findFrom (fillValue p name (.int n)) ("#(" ++ name ++ ")") 0).isSome)
    (noPlural : findFrom (replaceAll (fillValue p name (.int n)) ("#(" ++ name ++ ")") s)
      ("&(" ++ name ++ ":") 0 = none) :
    l.translate key [(name, .int n)] =
      .ok (replaceAll (fillValue p name (.int n)) ("#(" ++ name ++ ")") s) := by
  simp [translate, phrase, translate.go, applyArgument, fillNumber_marked l suffix marked, bind,
    Except.bind, noPlural]

/-! ### Whole numbers -/

/-- For every locale and every whole number `n` that is not negative: the suffix is that of the
longest ending of `toString n`, of two characters or more, that has an entry; a number below ten
is never suffixed; and a `#(name)` placeholder for `n` is filled with that suffixed number. -/
theorem suffixedNumber_stops_at_two_digits (n : ℕ) :
    (l.suffixed (.int n) =
      if h : ∃ i < (toString n).length - 1, l.hasSuffix (ending (toString n) i) then
        l.withSuffix (toString n) (ending (toString n) (Nat.find h))
      else .ok (toString n)) ∧
    (n < 10 → l.suffixed (.int n) = .ok (toString n)) ∧
    ∀ key name p s : String, l.phrase? key = some (.str p) → l.suffixed (.int n) = .ok s →
      (findFrom (fillValue p name (.int n)) ("#(" ++ name ++ ")") 0).isSome →
      findFrom (replaceAll (fillValue p name (.int n)) ("#(" ++ name ++ ")") s)
        ("&(" ++ name ++ ":") 0 = none →
      l.translate key [(name, .int n)] =
        .ok (replaceAll (fillValue p name (.int n)) ("#(" ++ name ++ ")") s) := by
  -- the text of a whole number is its decimal digits
  have text : numberText (.int n) = toString n := rfl
  refine ⟨?_, fun small => ?_, fun key name p s phrase suffix marked noPlural =>
    translate_fills_number l phrase suffix marked noPlural⟩
  · rw [suffixed_eq_first, text]
  · rw [suffixed_of_short l (by rw [text, toString_length_of_lt_ten small]), text]

/-- A locale with ordinal suffixes for one and for thirteen. -/
def ordinals : Locale :=
  { code := .str "en_CA", missing := [],
    dict := [(.str "suffix_1", .str "st"), (.str "suffix_13", .str "th")] }

/-- `suffix_13` gives `13th`, but neither `1` nor `21` ever reaches `suffix_1`. -/
theorem ones_go_unsuffixed :
    ordinals.suffixed (.int 13) = .ok "13th" ∧ ordinals.suffixed (.int 1) = .ok "1" ∧
      ordinals.suffixed (.int 21) = .ok "21" := by
  decide

end Airwaves.Locale
