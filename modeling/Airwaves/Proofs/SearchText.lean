import Mathlib
import Airwaves.Catalog.Searchable
/-!
# Folded search text

For a `unidecode` that spells in ASCII and leaves ASCII as it is, folding gives lower-case
letters, digits and blanks, folding twice is folding once, and a search pattern holds no
wildcard but its two `%`.
-/
namespace Airwaves.Searchable

/-- What the service assumes of its `unidecode` library: every text is spelled in ASCII, and
ASCII text is left as it is. -/
structure Transliteration (unidecode : String → String) : Prop where
  spellsAscii : ∀ s, ∀ c ∈ (unidecode s).toList, c.toNat < 0x80
  keepsAscii : ∀ s : String, (∀ c ∈ s.toList, c.toNat < 0x80) → unidecode s = s

/-- A character of folded text: a lower-case ASCII letter, a digit or the blank. -/
def IsFolded (c : Char) : Prop := c.isLower ∨ c.isDigit ∨ c = ' '

theorem isFolded_iff_toNat {c : Char} :
    IsFolded c ↔ (97 ≤ c.toNat ∧ c.toNat ≤ 122) ∨ (48 ≤ c.toNat ∧ c.toNat ≤ 57) ∨ c.toNat = 32 := by
  simp [IsFolded, Char.isLower, Char.isDigit, UInt32.le_iff_toNat_le, ← Char.toNat_val,
    ← Char.toNat_inj]

/-- Of ASCII, a search keeps the letters, the digits and the blank. -/
theorem isKept_iff_toNat {c : Char} (ascii : c.toNat < 0x80) :
    isKept c = true ↔ (65 ≤ c.toNat ∧ c.toNat ≤ 90) ∨ (97 ≤ c.toNat ∧ c.toNat ≤ 122) ∨
      (48 ≤ c.toNat ∧ c.toNat ≤ 57) ∨ c.toNat = 32 := by
  have alnum : Unicode.isAlnum c = c.isAlphanum := by rw [Unicode.isAlnum, if_pos ascii]
  simp [isKept, alnum, Char.isAlphanum, Char.isAlpha, Char.isUpper, Char.isLower, Char.isDigit,
    UInt32.le_iff_toNat_le, ← Char.toNat_val, ← Char.toNat_inj, or_assoc]

/-- Lower case moves the ASCII capitals `A` to `Z` up by 32 and keeps every other character. -/
theorem toNat_toLower (c : Char) :
    c.toLower.toNat = if 65 ≤ c.toNat ∧ c.toNat ≤ 90 then c.toNat + 32 else c.toNat := by
  simp only [Char.toLower, UInt32.le_iff_toNat_le, ← Char.toNat_val]
  split <;> grind [UInt32.toNat_add, Char.toNat_val]

theorem toNat_toLower_lt {c : Char} (ascii : c.toNat < 0x80) : c.toLower.toNat < 0x80 := by
  rw [toNat_toLower]
  split <;> omega

/-- On ASCII, the lower case of the character database is `Char.toLower`: neither special case
(`İ`, the capital sigma) is ASCII. -/
theorem lowerFrom_ascii (before : List Char) {cs : List Char} (ascii : ∀ c ∈ cs, c.toNat < 0x80) :
    Unicode.lowerFrom before cs = cs.map Char.toLower := by
  induction cs generalizing before with
  | nil => rfl
  | cons c rest ih =>
    have small : c.toNat < 0x80 := ascii c List.mem_cons_self
    have notDotted : (c.toNat == 0x130) = false := by simp only [beq_eq_false_iff_ne]; omega
    have notSigma : (c.toNat == 0x3A3) = false := by simp only [beq_eq_false_iff_ne]; omega
    have lowered : Unicode.lowerChar c = c.toLower := by simp [Unicode.lowerChar, small]
    simp only [Unicode.lowerFrom, notDotted, notSigma, lowered, Bool.false_eq_true, if_false,
      List.map_cons, List.singleton_append, ih _ fun d mem => ascii d (List.mem_cons_of_mem c mem)]

theorem lower_ascii {s : String} (ascii : ∀ c ∈ s.toList, c.toNat < 0x80) :
    (Unicode.lower s).toList = s.toList.map Char.toLower := by
  rw [Unicode.lower, String.toList_ofList, lowerFrom_ascii [] ascii]

/-- What a search keeps of a lower-cased ASCII character is folded text. -/
theorem isFolded_toLower {c : Char} (ascii : c.toNat < 0x80) (kept : isKept c.toLower = true) :
    IsFolded c.toLower := by
  rw [isKept_iff_toNat (toNat_toLower_lt ascii), toNat_toLower] at kept
  rw [isFolded_iff_toNat, toNat_toLower]
  by_cases upper : 65 ≤ c.toNat ∧ c.toNat ≤ 90
  · rw [if_pos upper] at kept ⊢; omega
  · rw [if_neg upper] at kept ⊢; omega

section

variable {unidecode : String → String} (lib : Transliteration unidecode)
include lib

theorem isFolded_of_mem_fold {v : Value} {c : Char} (mem : c ∈ (fold unidecode v).toList) :
    IsFolded c := by
  simp only [fold, String.toList_ofList, lower_ascii (lib.spellsAscii _), List.mem_filter,
    List.mem_map] at mem
  obtain ⟨⟨d, spelled, rfl⟩, kept⟩ := mem
  exact isFolded_toLower (lib.spellsAscii _ d spelled) kept

end

namespace IsFolded

variable {c : Char} (folded : IsFolded c)
include folded

theorem toNat_lt : c.toNat < 0x80 := by
  rcases isFolded_iff_toNat.1 folded with range | range | blank <;> omega

theorem toLower_eq : c.toLower = c := by
  have range := isFolded_iff_toNat.1 folded
  apply Char.toNat_inj.1
  rw [toNat_toLower]
  split <;> omega

theorem isKept_eq : isKept c = true := by
  have range := isFolded_iff_toNat.1 folded
  rw [isKept_iff_toNat folded.toNat_lt]
  omega

theorem ne_wildcard : c ≠ '%' ∧ c ≠ '_' := by
  have range := isFolded_iff_toNat.1 folded
  constructor <;> rintro rfl <;> revert range <;> decide

end IsFolded

section

variable {unidecode : String → String} (lib : Transliteration unidecode)
include lib

/-- Folded text folds to itself: it is ASCII, so `unidecode` leaves it, and it is already in
lower case and holds only what a search keeps. -/
theorem fold_str_of_folded {s : String} (folded : ∀ c ∈ s.toList, IsFolded c) :
    fold unidecode (.str s) = s := by
  have ascii : ∀ c ∈ s.toList, c.toNat < 0x80 := fun c mem => (folded c mem).toNat_lt
  have lowerSelf : s.toList.map Char.toLower = s.toList :=
    (List.map_congr_left fun c mem => (folded c mem).toLower_eq).trans (List.map_id' _)
  have keptAll : s.toList.filter isKept = s.toList :=
    List.filter_eq_self.2 fun c mem => (folded c mem).isKept_eq
  simp only [fold, text, lib.keepsAscii s ascii, lower_ascii ascii, lowerSelf, keptAll,
    String.ofList_toList]

/-- The texts that folding leaves as they are are exactly the folded ones. -/
theorem fold_str_eq_self_iff {s : String} :
    fold unidecode (.str s) = s ↔ ∀ c ∈ s.toList, IsFolded c :=
  ⟨fun same c mem => isFolded_of_mem_fold lib (v := .str s) (by rw [same]; exact mem),
    fold_str_of_folded lib⟩

end

/-- A `unidecode` that drops every character outside ASCII. -/
def keepAscii (s : String) : String := String.ofList (s.toList.filter fun c => decide (c.toNat < 0x80))

theorem keepAscii_transliteration : Transliteration keepAscii where
  spellsAscii s c mem := by
    simp only [keepAscii, String.toList_ofList, List.mem_filter, decide_eq_true_eq] at mem
    exact mem.2
  keepsAscii s ascii := by
    rw [keepAscii, List.filter_eq_self.2 fun c mem => decide_eq_true (ascii c mem),
      String.ofList_toList]

end Airwaves.Searchable
