import Airwaves.Locale.Catalog
import Airwaves.Proofs.Actions
/-!
# How a phrase is filled

Named arguments fill a phrase one after another, each in the line the earlier ones left
(`translate_fills_arguments_in_turn`).
-/

namespace Airwaves.Locale

/-! ### Replacing a pattern -/

theorem replaceChars_self {p : List Char} (r : List Char) (nonempty : p ≠ []) : replaceChars p r p = r := by
  cases p with
  | nil => contradiction
  | cons c rest =>
    rw [replaceChars]
    simp [List.isPrefixOf_iff_prefix, replaceChars]

theorem replaceAll_self {p : String} (r : String) (nonempty : p ≠ "") : replaceAll p p r = r := by
  have chars : p.toList ≠ [] := by simpa using nonempty
  simp [replaceAll, replaceChars_self _ chars]

/-- A placeholder alone is filled with the text given for it. -/
theorem fillValue_placeholder (name t : String) : fillValue ("%(" ++ name ++ ")") name (.str t) = t := by
  have marked : ("%(" ++ name ++ ")").contains '%' = true := by simp [String.contains_char_eq]
  rw [fillValue, if_pos marked]
  exact replaceAll_self _ (by simp [← String.toList_inj])

/-! ### Finding a pattern -/

/-- A pattern holding a character the text lacks is nowhere in it. -/
theorem findFrom_eq_none {s pattern : String} {c : Char} (inPattern : c ∈ pattern.toList)
    (missing : c ∉ s.toList) (start : Nat) : findFrom s pattern start = none := by
  unfold findFrom
  refine List.find?_eq_none.mpr fun i _ => ?_
  simp only [Bool.and_eq_true, beq_iff_eq, not_and]
  intro _ same
  exact missing (List.mem_of_mem_drop (List.mem_of_mem_take (same ▸ inPattern)))

/-! ### Translating -/

variable (l : Locale)

/-- The line that texts leave, each filling its `%(name)` in the line the earlier ones left. -/
def fillTexts (line : String) (args : List (String × String)) : String :=
  args.foldl (fun line arg => fillValue line arg.1 (.str arg.2)) line

/-- Texts never stop a translation: each fills the line the earlier ones left. -/
theorem go_texts_fill (args : List (String × String)) (line : String) :
    translate.go l line (args.map fun arg => (arg.1, .str arg.2)) = .ok (fillTexts line args) := by
  induction args generalizing line with
  | nil => rfl
  | cons arg rest ih => exact ih (fillValue line arg.1 (.str arg.2))

theorem translate_missing {key : String} (absent : l.phrase? key = none) (args : List (String × Value)) :
    l.translate key args = .ok ("[[ " ++ key ++ " ]]") := by
  simp [translate, absent]

theorem translate_texts_fill {key p : String} (phrase : l.phrase? key = some (.str p)) (args : List (String × String)) :
    l.translate key (args.map fun arg => (arg.1, .str arg.2)) = .ok (fillTexts p args) := by
  rw [translate, phrase]
  exact go_texts_fill l args p

/-- A number given for a phrase whose plural placeholder has no closing parenthesis fails. -/
theorem translate_unclosed_plural {key p name : String} (phrase : l.phrase? key = some (.str p))
    (noValue : '%' ∉ p.toList) (noNumber : '#' ∉ p.toList) (unclosed : ')' ∉ p.toList)
    (plural : (findFrom p ("&(" ++ name ++ ":") 0).isSome) (n : Int) :
    l.translate key [(name, .int n)] = .error .unclosedPlural := by
  obtain ⟨found, at_found⟩ := Option.isSome_iff_exists.mp plural
  have kept : fillValue p name (.int n) = p := by simp [fillValue, String.contains_char_eq, noValue]
  have unnumbered : findFrom p ("#(" ++ name ++ ")") 0 = none := findFrom_eq_none (by simp) noNumber 0
  have unfinished : findFrom p ")" found = none := findFrom_eq_none (by simp) unclosed found
  simp [translate, phrase, translate.go, applyArgument, kept, fillNumber, unnumbered, bind, Except.bind,
    at_found, unfinished]

/-- Failing to translate raises the failure of an index read past the end. -/
theorem translateWith_unclosed_plural {key p name : String} (phrase : l.phrase? key = some (.str p))
    (noValue : '%' ∉ p.toList) (noNumber : '#' ∉ p.toList) (unclosed : ')' ∉ p.toList)
    (plural : (findFrom p ("&(" ++ name ++ ":") 0).isSome) (n : Int) {h : Nat} {w : World}
    (stored : w.store[h]? = some (.locale l)) :
    (translateWith (.ref h) (.str key) [(name, .int n)]).run w = .error Fault.indexOut w := by
  simp [translateWith, localeAt, deref, stored,
    translate_unclosed_plural l phrase noValue noNumber unclosed plural n, TranslateFault.toFault]

/-- **How a phrase is filled.** A key the locale lacks translates to `[[ key ]]`. Texts fill the
phrase in the order given, each its own `%(name)` in the line the earlier ones left, so a text put
in for one name is filled again when it holds the placeholder of a later one. A number given for a
phrase whose plural placeholder has no closing parenthesis makes translating fail with an index
read past the end, not with a marker. -/
theorem translate_fills_arguments_in_turn (key : String) :
    (l.phrase? key = none → ∀ args, l.translate key args = .ok ("[[ " ++ key ++ " ]]")) ∧
    (∀ p, l.phrase? key = some (.str p) → ∀ args : List (String × String),
      l.translate key (args.map fun arg => (arg.1, .str arg.2)) = .ok (fillTexts p args)) ∧
    (∀ a b t, l.phrase? key = some (.str ("%(" ++ a ++ ")")) →
      l.translate key [(a, .str ("%(" ++ b ++ ")")), (b, .str t)] = .ok t) ∧
    ∀ p name, l.phrase? key = some (.str p) → '%' ∉ p.toList → '#' ∉ p.toList → ')' ∉ p.toList →
      (findFrom p ("&(" ++ name ++ ":") 0).isSome → ∀ (n : Int) (h : Nat) (w : World),
      w.store[h]? = some (.locale l) →
      (translateWith (.ref h) (.str key) [(name, .int n)]).run w = .error Fault.indexOut w := by
  refine ⟨fun absent => translate_missing l absent, fun p phrase => translate_texts_fill l phrase,
    fun a b t phrase => ?_, fun p name phrase noValue noNumber unclosed plural n h w stored =>
      translateWith_unclosed_plural l phrase noValue noNumber unclosed plural n stored⟩
  -- the text for `a` is the placeholder of `b`, which the text for `b` then fills
  have refilled : fillTexts ("%(" ++ a ++ ")") [(a, "%(" ++ b ++ ")"), (b, t)] = t := by
    simp [fillTexts, fillValue_placeholder]
  have filled := translate_texts_fill l phrase [(a, "%(" ++ b ++ ")"), (b, t)]
  rw [refilled] at filled
  exact filled

/-- A locale whose one phrase is the placeholder of `a`. -/
def placeholderOnly : Locale :=
  { code := .str "xx_XX", dict := [(.str "k", .str ("%(" ++ "a" ++ ")"))], missing := [] }

/-- Given the placeholder of `b` for `a` and `X` for `b`, the phrase becomes `X`, not `%(b)`. -/
theorem placeholderOnly_refilled :
    placeholderOnly.translate "k" [("a", .str ("%(" ++ "b" ++ ")")), ("b", .str "X")] = .ok "X" :=
  (translate_fills_arguments_in_turn placeholderOnly "k").2.2.1 "a" "b" "X" rfl

end Airwaves.Locale
