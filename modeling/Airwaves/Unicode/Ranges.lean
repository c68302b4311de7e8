/-!
# Ranges of code points

The character database lists a set of characters as ascending ranges of code points. Such a
table is written here as text: the ranges divided by commas, each the first and the last code
point in hexadecimal joined by `-`, or a single code point. The texts are kept packed, as zlib
streams in base 85.
-/
namespace Airwaves.Unicode

/-- The value of a numeral in upper-case hexadecimal. -/
def hexNumeral (s : String) : Nat :=
  s.foldl (fun n c => 16 * n + if c ≤ '9' then c.toNat - 48 else c.toNat - 55) 0

/-- A range written as its first and last code point joined by `-`, or as one code point. -/
def rangeOf (s : String) : Nat × Nat :=
  match s.splitOn "-" with
  | [lo, hi] => (hexNumeral lo, hexNumeral hi)
  | _ => (hexNumeral s, hexNumeral s)

/-- The ranges a table's text lists. -/
def rangesOf (text : String) : Array (Nat × Nat) := ((text.splitOn ",").map rangeOf).toArray

end Airwaves.Unicode
