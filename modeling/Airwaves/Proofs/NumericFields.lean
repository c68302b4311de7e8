import Airwaves.Proofs.StreamPath
/-!
# Numeric fields

The numeric pattern takes any character between its two runs of digits, which the number readers
then refuse with a `ValueError`.
-/

namespace Airwaves.Unicode

/-- What a character becomes when a number is read from text: ASCII as it is, a blank of
another script as a space, and a decimal digit of another script as its ASCII digit; anything
else spoils the number. -/
def numeralChar? (c : Char) : Option Char :=
  if c.toNat < 127 then some c
  else if isSpace c then some ' '
  else (decimalValue? c).map fun d => Char.ofNat (48 + d)

/-- Blanks stripped from both ends of a list of characters. -/
def stripBlanks (cs : List Char) : List Char :=
  ((cs.dropWhile isAsciiSpace).reverse.dropWhile isAsciiSpace).reverse

theorem numeralChars?_eq (s : String) :
    numeralChars? s = (s.toList.mapM numeralChar?).map stripBlanks := by
  show (s.toList.mapM numeralChar? >>= fun cs => pure (stripBlanks cs)) = _
  cases s.toList.mapM numeralChar? <;> rfl

theorem mapM_numeralChar?_ascii {cs : List Char} (ascii : ∀ c ∈ cs, c.toNat < 127) :
    cs.mapM numeralChar? = some cs := by
  induction cs with
  | nil => rfl
  | cons c rest ih =>
    simp [numeralChar?, ascii c List.mem_cons_self,
      ih fun c' mem => ascii c' (List.mem_cons_of_mem _ mem)]

theorem stripBlanks_of_ends {cs ends : List Char} {a b : Char} (first : cs.head? = some a)
    (last : cs.getLast? = some b) (a_solid : isAsciiSpace a = false)
    (b_solid : isAsciiSpace b = false)
    (blank : ∀ c ∈ ends, isAsciiSpace c) : stripBlanks (cs ++ ends) = cs := by
  obtain ⟨rest, rfl⟩ := List.head?_eq_some_iff.mp first
  obtain ⟨init, split⟩ := List.getLast?_eq_some_iff.mp last
  unfold stripBlanks
  rw [List.cons_append, List.dropWhile_cons_of_neg (by simp [a_solid]), ← List.cons_append, split,
    List.reverse_append, List.dropWhile_append_of_pos (by simpa using blank)]
  simp [b_solid]

theorem not_underscore_of_digit {c : Char} (digit : c.isDigit = true) : c ≠ '_' := by
  rintro rfl
  simp at digit

/-- An underscore between two digits is dropped. -/
theorem dropUnderscores_between {prev : Char} {ws ds : List Char} (nonempty : ws ≠ [])
    (whole : ∀ c ∈ ws, c.isDigit) (more : ds ≠ []) (after : ∀ c ∈ ds, c.isDigit) :
    dropUnderscores prev (ws ++ '_' :: ds) = some (ws ++ ds) := by
  induction ws generalizing prev with
  | nil => exact absurd rfl nonempty
  | cons w rest ih =>
    have w_digit := whole w List.mem_cons_self
    rw [List.cons_append, dropUnderscores.eq_4 prev w _ (not_underscore_of_digit w_digit)]
    cases rest with
    | nil =>
      obtain ⟨d, ds', rfl⟩ := List.exists_cons_of_ne_nil more
      have no_underscore : '_' ∉ d :: ds' := fun mem => not_underscore_of_digit (after _ mem) rfl
      simp [dropUnderscores, w_digit, after d List.mem_cons_self,
        dropUnderscores_of_no_underscore '_' _ no_underscore]
    | cons r rs =>
      rw [ih (List.cons_ne_nil r rs) fun c mem => whole c (List.mem_cons_of_mem _ mem)]
      rfl

end Airwaves.Unicode

namespace Airwaves.Value

/-! ### Doubles

A double is read from its digits, an optional point and fraction, and an optional exponent.
-/

open Unicode

theorem takeWhile_digits_append {ws : List Char} (digits : ∀ x ∈ ws, x.isDigit) (d : Char)
    (ds : List Char) (other : d.isDigit = false) :
    (ws ++ d :: ds).takeWhile Char.isDigit = ws := by
  rw [List.takeWhile_append_of_pos digits, List.takeWhile_cons_of_neg (by simp [other]),
    List.append_nil]

/-- Digits read as an exponent. -/
theorem readExponent?_digits {ds : List Char} (more : ds ≠ [])
    (digits : ∀ x ∈ ds, x.isDigit) :
    (readExponent? ds).isSome := by
  obtain ⟨d, rest, rfl⟩ := List.exists_cons_of_ne_nil more
  have head := digits d List.mem_cons_self
  have all : (d :: rest).all Char.isDigit := List.all_eq_true.mpr digits
  unfold readExponent?
  split
  rename_i eneg r signed
  -- a digit first is no sign
  split at signed
  · rename_i r' same
    rw [(List.cons.inj same).1] at head
    simp at head
  · rename_i r' same
    rw [(List.cons.inj same).1] at head
    simp at head
  · cases signed
    simp [all]

/-- Digits alone read as a magnitude. -/
theorem readMagnitude?_digits {ws : List Char} (nonempty : ws ≠ [])
    (digits : ∀ x ∈ ws, x.isDigit) :
    (readMagnitude? ws).isSome := by
  simp [readMagnitude?, List.takeWhile_eq_self_iff.mpr digits, nonempty, exponentOf?]

/-- Digits, one separator and more digits read as a magnitude exactly when the separator is a
point, an exponent mark or a digit. -/
theorem readMagnitude?_separated {ws ds : List Char} (nonempty : ws ≠ [])
    (whole : ∀ x ∈ ws, x.isDigit) (more : ds ≠ []) (after : ∀ x ∈ ds, x.isDigit)
    (d : Char) :
    (readMagnitude? (ws ++ d :: ds)).isSome =
      (d == '.' || d == 'e' || d == 'E' || d.isDigit) := by
  cases digit : d.isDigit
  · unfold readMagnitude?
    simp only [takeWhile_digits_append whole d ds digit, List.drop_left]
    split
    · -- a point: the digits after it are the fraction, and nothing is left
      rename_i r dot
      obtain ⟨rfl, rfl⟩ := List.cons.inj dot
      simp [List.takeWhile_eq_self_iff.mpr after, nonempty, exponentOf?]
    · -- anything else is left for the exponent, which needs a mark
      rename_i r not_dot
      have d_ne : d ≠ '.' := fun same => not_dot ds (by rw [same])
      by_cases mark : (d == 'e' || d == 'E') = true
      · obtain ⟨e, exponent⟩ := Option.isSome_iff_exists.mp (readExponent?_digits more after)
        simp only [Bool.or_eq_true, beq_iff_eq] at mark
        simp only [exponentOf?, exponent]
        rcases mark with rfl | rfl <;> simp [nonempty]
      · simp_all [exponentOf?]
  · have all : ∀ x ∈ ws ++ d :: ds, x.isDigit := by
      intro x mem
      simp only [List.mem_append, List.mem_cons] at mem
      rcases mem with w | rfl | tail
      · exact whole x w
      · exact digit
      · exact after x tail
    simp [readMagnitude?_digits (by simp) all]

/-- A text that starts with a digit names no infinity and no NaN. -/
theorem word_of_digit {body : List Char} {w : Char} (first : body.head? = some w)
    (digit : w.isDigit) :
    (((String.ofList body).toLower == "inf" || (String.ofList body).toLower == "infinity") =
      false) ∧ ((String.ofList body).toLower == "nan") = false := by
  obtain ⟨rest, rfl⟩ := List.head?_eq_some_iff.mp first
  have lower : w.toLower = w := by
    have bounds := digit_bounds digit
    unfold Char.toLower
    rw [dif_neg]
    rintro ⟨upper, -⟩
    have ge := UInt32.le_iff_toNat_le.mp upper
    have big : ('A' : Char).val.toNat = 65 := rfl
    simp only [Char.toNat] at bounds
    omega
  -- the lower-case text still starts with the digit, and none of the three words does
  have text : ∀ word : String, (word.toList.head?.all fun c => !c.isDigit) →
      ((String.ofList (w :: rest)).toLower == word) = false := by
    intro word other
    rw [beq_eq_false_iff_ne]
    intro same
    have starts : (String.ofList (w :: rest)).toLower.toList.head? = some w := by
      show ((String.ofList (w :: rest)).map Char.toLower).toList.head? = some w
      rw [String.toList_map, String.toList_ofList, List.map_cons, lower, List.head?_cons]
    rw [← same, starts] at other
    simp [digit] at other
  rw [text "inf" (by decide), text "infinity" (by decide), text "nan" (by decide)]
  exact ⟨rfl, rfl⟩

/-- Past its sign, a text that starts with a digit reads as a double exactly when it reads as a
magnitude. -/
theorem signed_magnitude_isSome {body : List Char} {w : Char} (first : body.head? = some w)
    (digit : w.isDigit) (neg : Bool) :
    (if (String.ofList body).toLower == "inf" || (String.ofList body).toLower == "infinity" then
        some (if neg then -(1.0 / 0.0) else 1.0 / 0.0)
      else if (String.ofList body).toLower == "nan" then some (0.0 / 0.0)
      else (fun x => if neg then -x else x) <$> readMagnitude? body).isSome =
      (readMagnitude? body).isSome := by
  rw [(word_of_digit first digit).1, (word_of_digit first digit).2]
  simp only [Bool.false_eq_true, ite_false, Option.map_eq_map, Option.isSome_map]

end Airwaves.Value

namespace Airwaves.Fields

/-- A text of the shape the numeric pattern accepts: an optional minus sign, digits, an optional
separator (anything but a line end) followed by more digits, and an optional final line end. -/
structure NumericText where
  negative : Bool
  whole : List Char
  fraction : Option (Char × List Char)
  lineEnd : Bool
  whole_digits : whole ≠ [] ∧ ∀ c ∈ whole, isDigit c
  fraction_digits : ∀ p ∈ fraction, p.1 ≠ '\n' ∧ p.2 ≠ [] ∧ ∀ c ∈ p.2, isDigit c

namespace NumericText

variable (t : NumericText)

/-- The minus sign, when there is one. -/
def sign : List Char := if t.negative then ['-'] else []

/-- The separator and the digits after it, when there are. -/
def tail : List Char := match t.fraction with
  | none => []
  | some (c, ds) => c :: ds

/-- The text without its final line end. -/
def core : List Char := t.sign ++ t.whole ++ t.tail

def text : String := String.ofList (t.core ++ if t.lineEnd then ['\n'] else [])

theorem fraction_parts {c : Char} {ds : List Char} (frac : t.fraction = some (c, ds)) :
    c ≠ '\n' ∧ ds ≠ [] ∧ ∀ x ∈ ds, isDigit x :=
  t.fraction_digits (c, ds) (by simp [frac])

theorem whole_isDigit : ∀ x ∈ t.whole, x.isDigit := fun x mem => by
  rw [← isDigit_eq_char_isDigit]; exact t.whole_digits.2 x mem

theorem fraction_isDigit {c : Char} {ds : List Char} (frac : t.fraction = some (c, ds)) :
    ∀ x ∈ ds, x.isDigit := fun x mem => by
  rw [← isDigit_eq_char_isDigit]; exact (t.fraction_parts frac).2.2 x mem

theorem exists_getLast?_digit {ds : List Char} (nonempty : ds ≠ [])
    (digits : ∀ c ∈ ds, isDigit c) : ∃ d, ds.getLast? = some d ∧ isDigit d :=
  ⟨ds.getLast nonempty, List.getLast?_eq_some_getLast nonempty,
    digits _ (List.getLast_mem nonempty)⟩

theorem core_getLast?_digit : ∃ d, t.core.getLast? = some d ∧ isDigit d := by
  unfold core tail
  split
  · obtain ⟨d, last, digit⟩ := exists_getLast?_digit t.whole_digits.1 t.whole_digits.2
    exact ⟨d, by simp [List.getLast?_append, last], digit⟩
  · rename_i c ds same
    obtain ⟨-, nonempty, digits⟩ := t.fraction_parts same
    obtain ⟨d, last, digit⟩ := exists_getLast?_digit nonempty digits
    exact ⟨d, by simp [List.getLast?_append, List.getLast?_cons, last], digit⟩

theorem body_text : body t.text.toList = t.core := by
  obtain ⟨d, last, digit⟩ := t.core_getLast?_digit
  have not_end : d ≠ '\n' := fun h => by subst h; simp [isDigit] at digit
  simp only [text, String.toList_ofList, body]
  split
  · simp [List.getLast?_append, last]
  · simp [last, not_end]

theorem head_whole : ∃ w ws, t.whole = w :: ws ∧ isDigit w ∧ w ≠ '-' := by
  obtain ⟨w, ws, same⟩ := List.exists_cons_of_ne_nil t.whole_digits.1
  have digit := t.whole_digits.2 w (by simp [same])
  exact ⟨w, ws, same, digit, fun h => by subst h; simp [isDigit] at digit⟩

/-! The sign: a minus sign is read off, and a number never starts with a plus sign. -/

theorem minus_split {tl r : List Char} (signed : t.sign ++ t.whole ++ tl = '-' :: r) :
    r = t.whole ++ tl := by
  obtain ⟨w, ws, same, -, not_minus⟩ := t.head_whole
  unfold sign at signed
  cases negative : t.negative
  · simp only [negative, same, Bool.false_eq_true, ite_false, List.nil_append, List.cons_append,
      List.cons.injEq] at signed
    exact absurd signed.1 not_minus
  · simpa [negative] using signed.symm

theorem plus_split {tl r : List Char} (signed : t.sign ++ t.whole ++ tl = '+' :: r) : False := by
  obtain ⟨w, ws, same, digit, -⟩ := t.head_whole
  unfold sign at signed
  cases negative : t.negative
  · simp only [negative, same, Bool.false_eq_true, ite_false, List.nil_append, List.cons_append,
      List.cons.injEq] at signed
    rw [signed.1] at digit
    simp [isDigit] at digit
  · simp [negative] at signed

theorem unsigned_split {tl : List Char}
    (unsigned : ∀ r, t.sign ++ t.whole ++ tl = '-' :: r → False) :
    t.sign ++ t.whole ++ tl = t.whole ++ tl := by
  unfold sign at unsigned ⊢
  cases negative : t.negative
  · rfl
  · exact (unsigned (t.whole ++ tl) (by simp [negative])).elim

/-- After the sign, the pattern asks for digits, then nothing or one character other than a line
end followed by digits. -/
theorem digits_accepted : (!((t.whole ++ t.tail).takeWhile isDigit).isEmpty &&
    match (t.whole ++ t.tail).drop ((t.whole ++ t.tail).takeWhile isDigit).length with
    | [] => true
    | c :: tail => c != '\n' && !tail.isEmpty && tail.all isDigit) = true := by
  rw [List.takeWhile_append_of_pos t.whole_digits.2]
  unfold tail
  split
  · simp [t.whole_digits.1]
  · rename_i c ds same
    obtain ⟨not_end, more, digits⟩ := t.fraction_parts same
    by_cases digit : isDigit c
    · have all : ∀ x ∈ c :: ds, isDigit x := by simpa [digit] using digits
      rw [List.takeWhile_eq_self_iff.mpr all]
      simp [t.whole_digits.1]
    · simpa [digit, t.whole_digits.1, not_end, more, List.all_eq_true] using digits

end NumericText

theorem isNumericText_text (t : NumericText) : isNumericText t.text = true := by
  unfold isNumericText
  dsimp only
  rw [t.body_text]
  -- the sign match: a minus sign is dropped, and the text after it starts with a digit
  split
  · rename_i r signed
    rw [t.minus_split signed]
    exact t.digits_accepted
  · rename_i r unsigned
    rw [NumericText.core, t.unsigned_split unsigned]
    exact t.digits_accepted

/-- A text is what `body` leaves of it, and the line end `body` took. -/
theorem body_append_lineEnd (cs : List Char) :
    body cs ++ (if cs.getLast? == some '\n' then ['\n'] else []) = cs := by
  unfold body
  split
  · rename_i ends
    obtain ⟨ys, rfl⟩ := List.getLast?_eq_some_iff.mp (by simpa using ends)
    simp
  · simp

/-- The pattern's reading of the text after the sign, as a whole part and a fraction. -/
theorem exists_digits_split {rest : List Char} (accepted : (!(rest.takeWhile isDigit).isEmpty &&
    match rest.drop (rest.takeWhile isDigit).length with
    | [] => true
    | c :: tail => c != '\n' && !tail.isEmpty && tail.all isDigit) = true) :
    ∃ (whole : List Char) (fraction : Option (Char × List Char)),
      (whole ≠ [] ∧ ∀ c ∈ whole, isDigit c) ∧
      (∀ p ∈ fraction, p.1 ≠ '\n' ∧ p.2 ≠ [] ∧ ∀ c ∈ p.2, isDigit c) ∧
      rest = whole ++ (match fraction with
        | none => []
        | some (c, ds) => c :: ds) := by
  have parts : rest = rest.takeWhile isDigit ++ rest.drop (rest.takeWhile isDigit).length := by
    conv_lhs => rw [← List.take_append_drop (rest.takeWhile isDigit).length rest]
    rw [← List.prefix_iff_eq_take.mp (List.takeWhile_prefix _)]
  have digits : ∀ c ∈ rest.takeWhile isDigit, isDigit c := fun c mem =>
    List.mem_takeWhile_imp mem
  simp only [Bool.and_eq_true, Bool.not_eq_true', List.isEmpty_eq_false_iff] at accepted
  obtain ⟨nonempty, after⟩ := accepted
  revert after parts
  cases rest.drop (rest.takeWhile isDigit).length with
  | nil => exact fun parts _ => ⟨_, none, ⟨nonempty, digits⟩, by simp, parts⟩
  | cons c ds =>
    intro parts after
    dsimp only at after
    simp only [Bool.and_eq_true, bne_iff_ne, ne_eq, Bool.not_eq_true', List.isEmpty_eq_false_iff,
      List.all_eq_true] at after
    exact ⟨_, some (c, ds), ⟨nonempty, digits⟩, by simpa [and_assoc] using after, parts⟩

theorem exists_of_isNumericText {s : String} (accepted : isNumericText s = true) :
    ∃ t : NumericText, t.text = s := by
  have whole_text := body_append_lineEnd s.toList
  unfold isNumericText at accepted
  dsimp only at accepted
  split at accepted
  · rename_i r signed
    obtain ⟨whole, fraction, wd, fd, rest⟩ := exists_digits_split accepted
    refine ⟨⟨true, whole, fraction, s.toList.getLast? == some '\n', wd, fd⟩, ?_⟩
    conv_rhs => rw [← String.ofList_toList (s := s), ← whole_text, signed, rest]
    rfl
  · rename_i r unsigned
    obtain ⟨whole, fraction, wd, fd, rest⟩ := exists_digits_split accepted
    refine ⟨⟨false, whole, fraction, s.toList.getLast? == some '\n', wd, fd⟩, ?_⟩
    conv_rhs => rw [← String.ofList_toList (s := s), ← whole_text, rest]
    rfl

namespace NumericText

open Unicode

variable (t : NumericText)

theorem ascii_of_digit {c : Char} (digit : isDigit c) : c.toNat < 127 := by
  have := digit_bounds (by rwa [← isDigit_eq_char_isDigit])
  omega

/-- The separator as a number is read, followed by the digits after it; nothing without a
separator, and `none` when the separator spoils the number. -/
def readTail : Option (List Char) := match t.fraction with
  | none => some []
  | some (c, ds) => (numeralChar? c).map (· :: ds)

theorem mapM_tail : t.tail.mapM numeralChar? = t.readTail := by
  unfold tail readTail
  split
  · rfl
  · rename_i c ds same
    obtain ⟨-, -, digits⟩ := t.fraction_parts same
    rw [List.mapM_cons, mapM_numeralChar?_ascii fun x mem => ascii_of_digit (digits x mem)]
    cases numeralChar? c <;> rfl

/-- A tail that reads ends the number in a digit. -/
theorem getLast?_readTail {tl : List Char} (reads : t.readTail = some tl) :
    ∃ b, (t.whole ++ tl).getLast? = some b ∧ isDigit b := by
  unfold readTail at reads
  split at reads
  · cases reads
    obtain ⟨b, last, digit⟩ := exists_getLast?_digit t.whole_digits.1 t.whole_digits.2
    exact ⟨b, by simpa using last, digit⟩
  · rename_i c ds same
    obtain ⟨-, more, digits⟩ := t.fraction_parts same
    obtain ⟨c', -, rfl⟩ := Option.map_eq_some_iff.mp reads
    obtain ⟨b, last, digit⟩ := exists_getLast?_digit more digits
    exact ⟨b, by simp [List.getLast?_append, List.getLast?_cons, last], digit⟩

/-- A number starts with its sign or a digit, never a blank. -/
theorem head?_signed : ∃ a, (t.sign ++ t.whole).head? = some a ∧ isAsciiSpace a = false := by
  obtain ⟨w, ws, same, digit, -⟩ := t.head_whole
  unfold sign
  cases t.negative
  · exact ⟨w, by simp [same], not_space_of_digit (by rwa [← isDigit_eq_char_isDigit])⟩
  · exact ⟨'-', rfl, by decide⟩

theorem numeralChars?_text : numeralChars? t.text = t.readTail.map (t.sign ++ t.whole ++ ·) := by
  have signed_ascii : ∀ c ∈ t.sign ++ t.whole, c.toNat < 127 := by
    intro c mem
    rcases List.mem_append.mp mem with sign | whole
    · unfold NumericText.sign at sign
      split at sign <;> simp_all
    · exact ascii_of_digit (t.whole_digits.2 c whole)
  have end_ascii : ∀ c ∈ (if t.lineEnd then ['\n'] else []), c.toNat < 127 := by
    intro c mem
    split at mem <;> simp_all
  rw [numeralChars?_eq, text, String.toList_ofList, core, List.append_assoc, List.mapM_append,
    mapM_numeralChar?_ascii signed_ascii, List.mapM_append, mapM_tail,
    mapM_numeralChar?_ascii end_ascii]
  cases reads : t.readTail with
  | none => rfl
  | some tl =>
    obtain ⟨a, first, a_solid⟩ := t.head?_signed
    obtain ⟨b, last, digit⟩ := t.getLast?_readTail reads
    simp only [Option.pure_def, Option.bind_eq_bind, Option.bind_some, Option.map_some]
    rw [← List.append_assoc, stripBlanks_of_ends (a := a) (b := b)]
    · rw [List.head?_append, first]
      rfl
    · rw [List.append_assoc, List.getLast?_append, last]
      rfl
    · exact a_solid
    · exact not_space_of_digit (by rwa [← isDigit_eq_char_isDigit])
    · intro c mem
      split at mem <;> simp_all [isAsciiSpace]

/-- Whether a whole number is read across a separator: an underscore between digits, or a digit
of any script. -/
def intSeparator (c : Char) : Bool :=
  match numeralChar? c with
  | some d => d == '_' || d.isDigit
  | none => false

/-- Whether the text reads as a whole number: it has no separator, or one a whole number is read
across. -/
def intReads : Bool := t.fraction.all fun p => intSeparator p.1

theorem not_underscore_of_isDigit {c : Char} (digit : isDigit c) : c ≠ '_' :=
  not_underscore_of_digit (by rwa [← isDigit_eq_char_isDigit])

theorem erase_separator {c d : Char} {ds : List Char} (frac : t.fraction = some (c, ds))
    (other : d ≠ '_') : (d :: ds).erase '_' = d :: ds := by
  rw [List.erase_cons_tail (by simpa using other), List.erase_of_not_mem fun mem =>
    not_underscore_of_isDigit ((t.fraction_parts frac).2.2 _ mem) rfl]

/-- Past the sign, the underscore a number may hold as its separator is dropped. -/
theorem dropUnderscores_readTail {tl : List Char} (reads : t.readTail = some tl) (prev : Char) :
    dropUnderscores prev (t.whole ++ tl) = some (t.whole ++ tl.erase '_') := by
  unfold readTail at reads
  split at reads
  · cases reads
    exact dropUnderscores_of_no_underscore prev _
      fun mem => not_underscore_of_isDigit (t.whole_digits.2 _ (by simpa using mem)) rfl
  · rename_i c ds frac
    obtain ⟨d, -, rfl⟩ := Option.map_eq_some_iff.mp reads
    obtain ⟨-, more, digits⟩ := t.fraction_parts frac
    by_cases underscore : d = '_'
    · -- an underscore between digits
      subst underscore
      rw [List.erase_cons_head]
      exact dropUnderscores_between t.whole_digits.1 t.whole_isDigit more (t.fraction_isDigit frac)
    · rw [t.erase_separator frac underscore]
      refine dropUnderscores_of_no_underscore prev _ fun mem => ?_
      rcases List.mem_append.mp mem with whole | rest
      · exact not_underscore_of_isDigit (t.whole_digits.2 _ whole) rfl
      · rcases List.mem_cons.mp rest with head | tail
        · exact underscore head.symm
        · exact not_underscore_of_isDigit (digits _ tail) rfl

theorem whole_append_isEmpty (xs : List Char) : (t.whole ++ xs).isEmpty = false := by
  simp [t.whole_digits.1]

/-- Once the underscore is dropped, digits alone are left exactly when the text reads as a whole
number. -/
theorem all_isDigit_readTail {tl : List Char} (reads : t.readTail = some tl) :
    (t.whole ++ tl.erase '_').all Char.isDigit = t.intReads := by
  unfold intReads
  unfold readTail at reads
  split at reads
  · rename_i none_frac
    cases reads
    rw [none_frac, List.erase_nil, List.append_nil, List.all_eq_true.mpr t.whole_isDigit]
    rfl
  · rename_i c ds frac
    obtain ⟨d, read, rfl⟩ := Option.map_eq_some_iff.mp reads
    rw [frac, Option.all_some, List.all_append, List.all_eq_true.mpr t.whole_isDigit,
      Bool.true_and]
    simp only [intSeparator, read]
    by_cases underscore : d = '_'
    · subst underscore
      rw [List.erase_cons_head, List.all_eq_true.mpr (t.fraction_isDigit frac)]
      rfl
    · rw [t.erase_separator frac underscore, List.all_cons,
        List.all_eq_true.mpr (t.fraction_isDigit frac), beq_eq_false_iff_ne.mpr underscore]
      simp

/-- After the sign, a whole number is read when the underscores are dropped and digits alone
are left. -/
theorem intDigits_isSome {tl : List Char} (reads : t.readTail = some tl) (prev : Char)
    (k : List Char → Int) :
    ((dropUnderscores prev (t.whole ++ tl)).bind fun digits =>
      if (digits.isEmpty || !digits.all Char.isDigit) = true then none
      else some (k digits)).isSome = t.intReads := by
  rw [t.dropUnderscores_readTail reads prev, Option.bind_some, t.whole_append_isEmpty,
    t.all_isDigit_readTail reads]
  cases t.intReads <;> rfl

/-- A tail that does not read has a separator that spoils the number. -/
theorem spoiled_of_readTail (reads : t.readTail = none) :
    ∃ c ds, t.fraction = some (c, ds) ∧ numeralChar? c = none := by
  unfold readTail at reads
  split at reads
  · cases reads
  · rename_i c ds frac
    exact ⟨c, ds, frac, Option.map_eq_none_iff.mp reads⟩

theorem intReads_of_readTail (reads : t.readTail = none) : t.intReads = false := by
  obtain ⟨c, ds, frac, spoiled⟩ := t.spoiled_of_readTail reads
  simp [intReads, frac, intSeparator, spoiled]

theorem readInt?_text : (readInt? t.text).isSome = t.intReads := by
  unfold readInt?
  rw [numeralChars?_text]
  cases reads : t.readTail with
  | none => rw [t.intReads_of_readTail reads]; rfl
  | some tl =>
    simp only [Option.map_some, Option.bind_eq_bind, Option.bind_some]
    split
    · rename_i r signed
      rw [t.minus_split signed]
      exact t.intDigits_isSome reads ' ' _
    · rename_i r signed
      exact (t.plus_split signed).elim
    · rename_i r unsigned _
      rw [t.unsigned_split unsigned]
      exact t.intDigits_isSome reads ' ' _

/-- A minus sign is kept as the underscores are dropped. -/
theorem dropUnderscores_signed {tl : List Char} (reads : t.readTail = some tl) :
    dropUnderscores ' ' (t.sign ++ t.whole ++ tl) = some (t.sign ++ t.whole ++ tl.erase '_') := by
  unfold sign
  cases t.negative
  · simpa using t.dropUnderscores_readTail reads ' '
  · simp [dropUnderscores, t.dropUnderscores_readTail reads '-']

/-- Whether a double is read across a separator: an underscore between digits, a point, an
exponent mark, or a digit of any script. -/
def floatSeparator (c : Char) : Bool :=
  match numeralChar? c with
  | some d => d == '_' || d == '.' || d == 'e' || d == 'E' || d.isDigit
  | none => false

/-- Whether the text reads as a double: it has no separator, or one a double is read across. -/
def floatReads : Bool := t.fraction.all fun p => floatSeparator p.1

theorem floatReads_of_readTail (reads : t.readTail = none) : t.floatReads = false := by
  obtain ⟨c, ds, frac, spoiled⟩ := t.spoiled_of_readTail reads
  simp [floatReads, frac, floatSeparator, spoiled]

theorem readMagnitude?_readTail {tl : List Char} (reads : t.readTail = some tl) :
    (Value.readMagnitude? (t.whole ++ tl.erase '_')).isSome = t.floatReads := by
  unfold floatReads
  unfold readTail at reads
  split at reads
  · rename_i none_frac
    cases reads
    rw [none_frac, List.erase_nil, List.append_nil,
      Value.readMagnitude?_digits t.whole_digits.1 t.whole_isDigit]
    rfl
  · rename_i c ds frac
    obtain ⟨d, read, rfl⟩ := Option.map_eq_some_iff.mp reads
    have more := (t.fraction_parts frac).2.1
    have ds_digits := t.fraction_isDigit frac
    rw [frac, Option.all_some]
    simp only [floatSeparator, read]
    by_cases underscore : d = '_'
    · -- the underscore goes, and digits alone are left
      have all : ∀ x ∈ t.whole ++ ds, x.isDigit := fun x mem =>
        (List.mem_append.mp mem).elim (t.whole_isDigit x) (ds_digits x)
      subst underscore
      rw [List.erase_cons_head, Value.readMagnitude?_digits (by simp [t.whole_digits.1]) all]
      rfl
    · rw [t.erase_separator frac underscore,
        Value.readMagnitude?_separated t.whole_digits.1 t.whole_isDigit more ds_digits d]
      rw [beq_eq_false_iff_ne.mpr underscore, Bool.false_or]

theorem parseFloat?_text : (Value.parseFloat? t.text).isSome = t.floatReads := by
  unfold Value.parseFloat?
  rw [numeralChars?_text]
  cases reads : t.readTail with
  | none => rw [t.floatReads_of_readTail reads]; rfl
  | some tl =>
    simp only [Option.map_some, Option.bind_eq_bind, Option.bind_some]
    rw [t.dropUnderscores_signed reads, Option.bind_some]
    obtain ⟨w, ws, same, digit, -⟩ := t.head_whole
    have first : (t.whole ++ tl.erase '_').head? = some w := by simp [same]
    have w_digit : w.isDigit := by rwa [← isDigit_eq_char_isDigit]
    -- the sign is read off, and the rest starts with a digit, so it is no infinity or NaN
    have magnitude (neg : Bool) := (Value.signed_magnitude_isSome first w_digit neg).trans
      (t.readMagnitude?_readTail reads)
    split
    · rename_i r signed
      rw [t.minus_split signed]
      exact magnitude true
    · rename_i r signed
      exact (t.plus_split signed).elim
    · rename_i r unsigned _
      rw [t.unsigned_split unsigned]
      exact magnitude false

end NumericText

/-! ### The numeric fields -/

theorem nonempty_of_isNumericText {s : String} (accepted : isNumericText s = true) :
    s.isEmpty = false := by
  rw [String.isEmpty_eq_false_iff]
  rintro rfl
  exact absurd accepted (by decide)

/-- The pattern accepts exactly the texts of numeric shape. -/
theorem isNumericText_iff (s : String) :
    isNumericText s = true ↔ ∃ t : NumericText, t.text = s :=
  ⟨exists_of_isNumericText, fun ⟨t, same⟩ => same ▸ isNumericText_text t⟩

theorem numeric_str (s : String) :
    numeric (.str s) = if isNumericText s then .str s else .none := by
  unfold numeric
  by_cases accepted : isNumericText s
  · simp [isNumber, accepted, nonempty_of_isNumericText accepted]
  · simp [isNumber, accepted]

/-- Text passes as a number exactly when the pattern accepts it. -/
theorem truthy_numeric_str (s : String) : (numeric (.str s)).truthy = isNumericText s := by
  rw [numeric_str]
  split
  · rename_i accepted
    simp [Value.truthy, nonempty_of_isNumericText accepted, accepted]
  · rename_i refused
    simp [Value.truthy, refused]

theorem floatNum_str (s : String) :
    floatNum (.str s) = if isNumericText s then Value.toFloat (.str s) else .ok .none := by
  simp only [floatNum, truthy_numeric_str]
  cases isNumericText s <;> rfl

/-- `longNum` reads the text `numeric` gave back, which is the text itself once accepted. -/
theorem longNum_str (s : String) :
    longNum (.str s) = if isNumericText s then Value.toInt (.str s) else .ok .none := by
  simp only [longNum, truthy_numeric_str]
  cases accepted : isNumericText s
  · rfl
  · simp [numeric_str, accepted]

theorem number?_of_isNumber {v : Value} (number : isNumber v = true) :
    ∃ n, v.number? = some n := by
  cases v <;> simp_all [isNumber, Value.number?]

/-- Whatever is not text is the number it is, or no number at all. -/
theorem numeric_of_not_str {v : Value} (notText : ∀ s, v ≠ .str s) :
    numeric v = if isNumber v then v else .none := by
  unfold numeric
  split
  · rfl
  · cases v
    case str => exact absurd rfl (notText _)
    all_goals rfl

/-- Only text can fail to read as a double: a number converts, and anything else is no number. -/
theorem floatNum_of_not_str {v : Value} (notText : ∀ s, v ≠ .str s) :
    ∃ r, floatNum v = .ok r := by
  unfold floatNum
  rw [numeric_of_not_str notText]
  by_cases number : isNumber v
  · obtain ⟨n, is⟩ := number?_of_isNumber number
    rw [if_pos number]
    dsimp only
    split
    · exact ⟨_, rfl⟩
    · simp [Value.toFloat, is]
  · rw [if_neg number]
    exact ⟨_, rfl⟩

/-- Besides text, only a double can fail to read as a whole number. -/
theorem longNum_of_not_str {v : Value} (notText : ∀ s, v ≠ .str s)
    (notDouble : ∀ x, v ≠ .float x) :
    ∃ r, longNum v = .ok r := by
  unfold longNum
  rw [numeric_of_not_str notText]
  by_cases number : isNumber v
  · rw [if_pos number]
    dsimp only
    split
    · exact ⟨_, rfl⟩
    · cases v
      case float => exact absurd rfl (notDouble _)
      all_goals simp_all [isNumber, Value.toInt]
  · rw [if_neg number]
    exact ⟨_, rfl⟩

theorem floatNum_eq_error_iff (v : Value) (f : Fault) :
    floatNum v = .error f ↔ ∃ t : NumericText, v = .str t.text ∧ t.floatReads = false ∧
      f = .of .valueError ("could not convert string to float: " ++ (Value.str t.text).quote) := by
  constructor
  · intro fails
    by_cases text : ∃ s, v = .str s
    · obtain ⟨s, rfl⟩ := text
      rw [floatNum_str] at fails
      split at fails
      · rename_i accepted
        obtain ⟨t, rfl⟩ := exists_of_isNumericText accepted
        cases reads : Value.parseFloat? t.text with
        | some x => simp [Value.toFloat, Value.number?, reads] at fails
        | none =>
          refine ⟨t, rfl, by rw [← t.parseFloat?_text, reads]; rfl, ?_⟩
          simp only [Value.toFloat, Value.number?, reads, Except.error.injEq] at fails
          exact fails.symm
      · cases fails
    · obtain ⟨r, ok⟩ := floatNum_of_not_str fun s same => text ⟨s, same⟩
      rw [ok] at fails
      cases fails
  · rintro ⟨t, rfl, unread, rfl⟩
    have reads : Value.parseFloat? t.text = none := by
      rw [← Option.not_isSome_iff_eq_none, t.parseFloat?_text, unread]
      simp
    rw [floatNum_str, if_pos (isNumericText_text t)]
    simp [Value.toFloat, Value.number?, reads]

theorem longNum_str_eq_error_iff (s : String) (f : Fault) :
    longNum (.str s) = .error f ↔ ∃ t : NumericText, t.text = s ∧ t.intReads = false ∧
      f = .of .valueError ("invalid literal for int() with base 10: " ++
        String.ofList ((Value.str s).quote.toList.take 200)) := by
  constructor
  · intro fails
    rw [longNum_str] at fails
    split at fails
    · rename_i accepted
      obtain ⟨t, rfl⟩ := exists_of_isNumericText accepted
      cases reads : Unicode.readInt? t.text with
      | some n => simp [Value.toInt, Value.parseInt?, reads] at fails
      | none =>
        refine ⟨t, rfl, by rw [← t.readInt?_text, reads]; rfl, ?_⟩
        simp only [Value.toInt, Value.parseInt?, reads, Except.error.injEq] at fails
        exact fails.symm
    · cases fails
  · rintro ⟨t, rfl, unread, rfl⟩
    have reads : Unicode.readInt? t.text = none := by
      rw [← Option.not_isSome_iff_eq_none, t.readInt?_text, unread]
      simp
    rw [longNum_str, if_pos (isNumericText_text t)]
    simp [Value.toInt, Value.parseInt?, reads]

theorem rating_of_floatNum_error {v : Value} {f : Fault} (fails : floatNum v = .error f) :
    rating v = .error f := by
  simp [rating, fails, bind, Except.bind]

theorem rating_ok {v r : Value} (ok : rating v = .ok r) : r = .none ∨ floatNum v = .ok r := by
  unfold rating at ok
  cases read : floatNum v with
  | error f => simp [read, bind, Except.bind] at ok
  | ok x =>
    simp only [read, bind, Except.bind, pure, Except.pure] at ok
    -- each check that fails gives nothing, and the last one passed gives the double itself
    split at ok
    · exact .inl (Except.ok.inj ok).symm
    split at ok
    · exact .inl (Except.ok.inj ok).symm
    split at ok
    · cases ok
    split at ok
    · cases ok
    split at ok
    · exact .inl (Except.ok.inj ok).symm
    · exact .inr (by rw [Except.ok.inj ok])

theorem numeric_str_ne_none_iff (s : String) :
    numeric (.str s) ≠ .none ↔ ∃ t : NumericText, t.text = s := by
  rw [numeric_str, ← isNumericText_iff]
  split
  · rename_i accepted
    simp [accepted]
  · rename_i refused
    simp [refused]

/-- A single digit, as the digits of a whole part or of a fraction. -/
theorem digit_singleton {d : Char} (digit : isDigit d) : [d] ≠ [] ∧ ∀ c ∈ [d], isDigit c :=
  ⟨List.cons_ne_nil _ _, fun c mem => by rwa [List.mem_singleton.mp mem]⟩

end Airwaves.Fields
