import Airwaves.Api.Fields
/-!
# Lists of whole numbers

The reader of a list argument accepts exactly runs of ASCII digits divided by single commas (and
one final line end), so the decimal text of any non-empty list reads back as that list.
-/
namespace Airwaves.Fields

/-- The number a run of decimal digits spells. -/
def runValue (r : List Char) : Nat := r.foldl (fun n c => 10 * n + (c.toNat - 48)) 0

/-- Text made of digit runs: `runs` are at least one non-empty run of ASCII digits, and the
text is them divided by single commas, with at most one line end after the last. -/
structure CommaRuns (cs : List Char) (runs : List (List Char)) : Prop where
  ne_nil : runs ≠ []
  run_ne_nil : ∀ r ∈ runs, r ≠ []
  digits : ∀ r ∈ runs, ∀ c ∈ r, c.isDigit
  text : cs = [','].intercalate runs ∨ cs = [','].intercalate runs ++ ['\n']

theorem isDigit_eq (c : Char) : isDigit c = c.isDigit := rfl

theorem toNat_of_isDigit {c : Char} (digit : c.isDigit) : 48 ≤ c.toNat ∧ c.toNat ≤ 57 :=
  Char.isDigit_iff_toNat.1 digit

theorem ne_of_isDigit {c d : Char} (digit : c.isDigit) (other : ¬ d.isDigit) : c ≠ d :=
  fun same => other (same ▸ digit)

/-! ### Reading one run -/

theorem isAsciiSpace_of_isDigit {c : Char} (digit : c.isDigit) : Unicode.isAsciiSpace c = false := by
  have range := toNat_of_isDigit digit
  have notBlank : c ≠ ' ' := fun blank => by rw [blank] at range; exact absurd range (by decide)
  simp only [Unicode.isAsciiSpace, Bool.or_eq_false_iff, beq_eq_false_iff_ne, ne_eq, notBlank,
    not_false_eq_true, Bool.and_eq_false_iff, decide_eq_false_iff_not, true_and]
  omega

theorem dropWhile_space_of_head {c : Char} {rest : List Char} (digit : c.isDigit) :
    (c :: rest).dropWhile Unicode.isAsciiSpace = c :: rest :=
  List.dropWhile_cons_of_neg (by simp [isAsciiSpace_of_isDigit digit])

theorem mapM_eq_some_self {f : Char → Option Char} {cs : List Char}
    (fixed : ∀ c ∈ cs, f c = some c) : cs.mapM f = some cs := by
  induction cs with
  | nil => rfl
  | cons c rest ih =>
    simp [List.mapM_cons, fixed c (by simp), ih fun d mem => fixed d (by simp [mem])]

/-- A run of digits with at most a line end after it is read without the line end. -/
theorem numeralChars?_run {r t : List Char} (ne : r ≠ []) (digits : ∀ c ∈ r, c.isDigit)
    (blank : t = [] ∨ t = ['\n']) : Unicode.numeralChars? (String.ofList (r ++ t)) = some r := by
  have ascii : ∀ c ∈ r ++ t, c.toNat < 127 := by
    intro c mem
    rcases List.mem_append.1 mem with inRun | inEnd
    · have := toNat_of_isDigit (digits c inRun); omega
    · rcases blank with rfl | rfl <;> simp_all
  obtain ⟨c, rest, rfl⟩ := List.exists_cons_of_ne_nil ne
  have lastDigits : ∀ d ∈ (c :: rest).reverse, d.isDigit := fun d mem => digits d (List.mem_reverse.1 mem)
  obtain ⟨d, back, reversed⟩ := List.exists_cons_of_ne_nil (List.reverse_ne_nil_iff.2 ne)
  have blanks : ∀ e ∈ t.reverse, Unicode.isAsciiSpace e = true := by
    rcases blank with rfl | rfl <;> simp [Unicode.isAsciiSpace]
  simp only [Unicode.numeralChars?, String.toList_ofList]
  rw [mapM_eq_some_self fun e mem => by simp [ascii e mem]]
  simp only [Option.bind_eq_bind, Option.bind_some, Option.pure_def, Option.some.injEq]
  rw [List.cons_append, dropWhile_space_of_head (digits c (by simp)), ← List.cons_append,
    List.reverse_append, List.dropWhile_append_of_pos blanks, reversed,
    dropWhile_space_of_head (lastDigits d (by simp [reversed])), ← reversed, List.reverse_reverse]

theorem dropUnderscores_digits {cs : List Char} (digits : ∀ c ∈ cs, c.isDigit) (prev : Char) :
    Unicode.dropUnderscores prev cs = some cs := by
  induction cs generalizing prev with
  | nil => rfl
  | cons c rest ih =>
    have notUnderscore : c ≠ '_' := ne_of_isDigit (digits c (by simp)) (by decide)
    unfold Unicode.dropUnderscores
    split
    · rename_i same; cases same
    · rename_i same; exact absurd (List.cons.inj same).1 notUnderscore
    · rename_i same; obtain ⟨rfl, rfl⟩ := List.cons.inj same
      rw [ih fun d mem => digits d (by simp [mem])]
      rfl

/-- Horner's reading of the digits agrees in whole numbers and in natural numbers. -/
theorem foldl_digits_int (r : List Char) (a : Nat) :
    r.foldl (fun (acc : Int) c => acc * 10 + ((c.toNat - 48 : Nat) : Int)) (a : Int) =
      ((r.foldl (fun n c => 10 * n + (c.toNat - 48)) a : Nat) : Int) := by
  induction r generalizing a with
  | nil => rfl
  | cons c rest ih =>
    simp only [List.foldl_cons]
    rw [← ih]
    congr 1
    omega

/-- A run of digits, with at most a line end after it, reads as its value. -/
theorem parseInt?_run {r t : List Char} (ne : r ≠ []) (digits : ∀ c ∈ r, c.isDigit)
    (blank : t = [] ∨ t = ['\n']) : Value.parseInt? (String.ofList (r ++ t)) = some (runValue r) := by
  obtain ⟨c, rest, rfl⟩ := List.exists_cons_of_ne_nil ne
  have digit : c.isDigit := digits c (by simp)
  simp only [Value.parseInt?, Unicode.readInt?, numeralChars?_run ne digits blank, Option.bind_eq_bind,
    Option.bind_some]
  -- the first digit is no sign
  split
  · rename_i same; exact absurd (List.cons.inj same).1 (ne_of_isDigit digit (by decide))
  · rename_i same; exact absurd (List.cons.inj same).1 (ne_of_isDigit digit (by decide))
  · rw [dropUnderscores_digits digits]
    have allDigits : (c :: rest).all Char.isDigit = true := List.all_eq_true.2 digits
    simp only [Option.bind_some, List.isEmpty_cons, allDigits, Bool.not_true, Bool.or_false,
      Bool.false_eq_true, if_false, Option.pure_def]
    rw [show (0 : Int) = ((0 : Nat) : Int) from rfl, foldl_digits_int]
    rfl

/-! ### The decimal text of a number -/

theorem runValue_toDigits (n : Nat) : runValue (Nat.toDigits 10 n) = n := by
  induction n using Nat.strongRecOn with
  | _ n ih =>
    rw [Nat.toDigits_eq_if (by decide)]
    split
    · simp [runValue, Nat.toNat_digitChar_of_lt_ten ‹n < 10›]
    · rename_i large
      have last := Nat.toNat_digitChar_of_lt_ten (Nat.mod_lt n (show 10 > 0 by decide))
      rw [runValue, List.foldl_append, ← runValue, ih (n / 10) (by omega)]
      simp only [List.foldl_cons, List.foldl_nil, last]
      omega

theorem isDigit_of_mem_toDigits {n : Nat} {c : Char} (mem : c ∈ Nat.toDigits 10 n) : c.isDigit := by
  induction n using Nat.strongRecOn generalizing c with
  | _ n ih =>
    rw [Nat.toDigits_eq_if (by decide)] at mem
    split at mem
    · rw [List.mem_singleton.1 mem, Nat.isDigit_digitChar]
      simpa
    · rcases List.mem_append.1 mem with front | last
      · exact ih (n / 10) (by omega) front
      · rw [List.mem_singleton.1 last, Nat.isDigit_digitChar]
        simpa using Nat.mod_lt n (show 10 > 0 by decide)

theorem intText_toList (n : Nat) : (Value.intText n).toList = Nat.toDigits 10 n := by
  simp [Value.intText, Int.toString_eq_repr, Int.repr_eq_if, Nat.repr_eq_ofList_toDigits]

/-! ### Splitting at the commas -/

theorem comma_not_mem {r : List Char} (digits : ∀ c ∈ r, c.isDigit) : ',' ∉ r :=
  fun mem => absurd (digits ',' mem) (by decide)

theorem mem_intercalate_comma :
    ∀ {runs : List (List Char)}, (∀ r ∈ runs, ∀ c ∈ r, c.isDigit) →
      ∀ c ∈ [','].intercalate runs, c = ',' ∨ c.isDigit
  | [], _, c, mem => by simp at mem
  | [r], digits, c, mem => .inr (digits r (by simp) c (by simpa using mem))
  | r :: r' :: rest, digits, c, mem => by
    rw [List.intercalate_cons_cons] at mem
    rcases List.mem_append.1 mem with front | back
    · rcases List.mem_append.1 front with inRun | comma
      · exact .inr (digits r (by simp) c inRun)
      · exact .inl (List.mem_singleton.1 comma)
    · exact mem_intercalate_comma (fun s mem => digits s (List.mem_cons_of_mem r mem)) c back

theorem intercalate_concat {α : Type} (sep : List α) (init : List (List α)) (last t : List α) :
    sep.intercalate (init ++ [last]) ++ t = sep.intercalate (init ++ [last ++ t]) := by
  induction init with
  | nil => simp [List.intercalate_singleton]
  | cons r rest ih =>
    simp only [List.cons_append]
    rw [List.intercalate_cons_of_ne_nil (by simp), List.intercalate_cons_of_ne_nil (by simp),
      List.append_assoc, ih]

theorem body_concat_newline (cs : List Char) : body (cs ++ ['\n']) = cs := by
  simp [body]

theorem body_intercalate {runs : List (List Char)} (digits : ∀ r ∈ runs, ∀ c ∈ r, c.isDigit) :
    body ([','].intercalate runs) = [','].intercalate runs := by
  have noNewline : ([','].intercalate runs).getLast? ≠ some '\n' := fun last => by
    rcases mem_intercalate_comma digits _ (List.mem_of_getLast? last) with comma | digit
    · exact absurd comma (by decide)
    · exact absurd digit (by decide)
  simp [body, noNewline]

theorem body_cases (cs : List Char) : cs = body cs ∨ cs = body cs ++ ['\n'] := by
  unfold body
  split
  · rename_i last
    obtain ⟨front, rfl⟩ := List.getLast?_eq_some_iff.1 (by simpa using last)
    simp
  · exact .inl rfl

/-- The list pattern accepts a text exactly when it is made of digit runs. -/
theorem isIntegerListText_iff {s : String} :
    isIntegerListText s = true ↔ ∃ runs, CommaRuns s.toList runs := by
  constructor
  · intro accepted
    simp only [isIntegerListText, List.all_eq_true, Bool.and_eq_true, Bool.not_eq_true',
      List.isEmpty_eq_false_iff, isDigit_eq] at accepted
    refine ⟨(body s.toList).splitOn ',', ⟨List.splitOn_ne_nil _ _, fun r mem => (accepted r mem).1,
      fun r mem => (accepted r mem).2, ?_⟩⟩
    rw [List.intercalate_splitOn]
    exact body_cases s.toList
  · rintro ⟨runs, ne, runNe, digits, text⟩
    have bodyEq : body s.toList = [','].intercalate runs := by
      rcases text with same | newline
      · rw [same]; exact body_intercalate digits
      · rw [newline]; exact body_concat_newline _
    simp only [isIntegerListText, bodyEq,
      List.splitOn_intercalate ',' (fun r mem => comma_not_mem (digits r mem)) ne,
      List.all_eq_true, Bool.and_eq_true, Bool.not_eq_true', List.isEmpty_eq_false_iff, isDigit_eq]
    exact fun r mem => ⟨runNe r mem, digits r mem⟩

/-- Runs of digits, each read alone, read as their values. -/
theorem map_read_runs {rs : List (List Char)} (ne : ∀ r ∈ rs, r ≠ [])
    (digits : ∀ r ∈ rs, ∀ c ∈ r, c.isDigit) :
    rs.map (fun p => Value.int ((Value.parseInt? (String.ofList p)).getD 0)) =
      rs.map fun r => .int (runValue r) :=
  List.map_congr_left fun r mem => by
    have read := parseInt?_run (t := []) (ne r mem) (digits r mem) (.inl rfl)
    rw [List.append_nil] at read
    rw [read]
    rfl

/-- The pieces between the commas of a text of digit runs read as the values of the runs. -/
theorem splitOn_values {cs : List Char} {runs : List (List Char)} (h : CommaRuns cs runs) :
    (cs.splitOn ',').map (fun p => Value.int ((Value.parseInt? (String.ofList p)).getD 0)) =
      runs.map fun r => .int (runValue r) := by
  have commas : ∀ r ∈ runs, ',' ∉ r := fun r mem => comma_not_mem (h.digits r mem)
  rcases h.text with same | newline
  · rw [same, List.splitOn_intercalate ',' commas h.ne_nil]
    exact map_read_runs h.run_ne_nil h.digits
  · -- the line end stays on the last piece, whose reading drops it
    obtain ⟨init, last, rfl⟩ : ∃ init last, runs = init ++ [last] :=
      ⟨_, _, (List.dropLast_concat_getLast h.ne_nil).symm⟩
    have lastRun : last ∈ init ++ [last] := by simp
    have lastCommas : ∀ r ∈ init ++ [last ++ ['\n']], ',' ∉ r := by
      intro r mem
      rcases List.mem_append.1 mem with front | back
      · exact commas r (List.mem_append_left _ front)
      · rw [List.mem_singleton.1 back]
        simpa using commas last lastRun
    rw [newline, intercalate_concat, List.splitOn_intercalate ',' lastCommas (by simp),
      List.map_append, List.map_append,
      map_read_runs (fun r mem => h.run_ne_nil r (List.mem_append_left _ mem))
        (fun r mem => h.digits r (List.mem_append_left _ mem)),
      List.map_singleton, List.map_singleton,
      parseInt?_run (h.run_ne_nil last lastRun) (h.digits last lastRun) (.inr rfl)]
    rfl

theorem isEmpty_eq_false {s : String} {runs : List (List Char)} (h : CommaRuns s.toList runs) :
    s.isEmpty = false := by
  cases empty : s.isEmpty
  · rfl
  · have accepted := isIntegerListText_iff.2 ⟨runs, h⟩
    rw [String.isEmpty_iff.1 empty] at accepted
    exact absurd accepted (by decide)

/-- Text of digit runs reads as the list of their values. -/
theorem integerList_str_of_commaRuns {s : String} {runs : List (List Char)}
    (h : CommaRuns s.toList runs) :
    integerList (.str s) = .ok (.list (runs.map fun r => .int (runValue r))) := by
  simp only [integerList, Value.truthy, isEmpty_eq_false h, Bool.not_false, Bool.not_true,
    isIntegerListText_iff.2 ⟨runs, h⟩, Bool.false_eq_true, if_true, if_false]
  rw [splitOn_values h]

/-- Any other text reads as nothing. -/
theorem integerList_str_of_not_commaRuns {s : String} (none : ∀ runs, ¬ CommaRuns s.toList runs) :
    integerList (.str s) = .ok .none := by
  have refused : isIntegerListText s = false := by
    cases accepted : isIntegerListText s
    · rfl
    · obtain ⟨runs, h⟩ := isIntegerListText_iff.1 accepted
      exact absurd h (none runs)
  cases empty : s.isEmpty <;> simp [integerList, Value.truthy, empty, refused]

/-- The decimal texts of a non-empty list of numbers, joined by commas, are digit runs. -/
theorem commaRuns_decimals {l : List Nat} (nonempty : l ≠ []) :
    CommaRuns (String.intercalate "," (l.map fun n : Nat => Value.intText n)).toList
      (l.map fun n => Nat.toDigits 10 n) := by
  refine ⟨by simpa using nonempty, fun r mem => ?_, fun r mem c cmem => ?_, .inl ?_⟩
  · obtain ⟨n, -, rfl⟩ := List.mem_map.1 mem
    exact Nat.toDigits_ne_nil
  · obtain ⟨n, -, rfl⟩ := List.mem_map.1 mem
    exact isDigit_of_mem_toDigits cmem
  · simp [String.toList_intercalate, List.map_map, Function.comp_def, intText_toList]

theorem integerList_str_eq_list_iff (s : String) (xs : List Value) :
    integerList (.str s) = .ok (.list xs) ↔
      ∃ runs, CommaRuns s.toList runs ∧ xs = runs.map fun r => .int (runValue r) := by
  constructor
  · intro read
    by_cases listed : ∃ runs, CommaRuns s.toList runs
    · obtain ⟨runs, h⟩ := listed
      rw [integerList_str_of_commaRuns h] at read
      exact ⟨runs, h, by simpa using read.symm⟩
    · rw [integerList_str_of_not_commaRuns fun runs h => listed ⟨runs, h⟩] at read
      simp at read
  · rintro ⟨runs, h, rfl⟩
    exact integerList_str_of_commaRuns h

theorem integerList_list_iff (xs : List Value) :
    integerList (.list xs) = .ok (.list xs) ↔ ∀ x ∈ xs, isInteger x = true := by
  have reads : integerList (.list xs) = .ok (if xs.all isInteger then .list xs else .none) := rfl
  rw [reads, ← List.all_eq_true]
  cases xs.all isInteger <;> simp

end Airwaves.Fields
