/-!
# Digits

Which characters are digits and what they are worth, by the Unicode character database
(version 14.0). Decimal digits come in runs of ten, zero to nine, and are what numbers are
read from; the other digits (superscripts, subscripts, circled and parenthesised digits,
...) have a value but are not read as part of a number.
-/
namespace Airwaves.Unicode

/-- The first character (the zero) of each run of ten decimal digits. -/
def decimalZeros : List Nat := [
  0x30, 0x660, 0x6F0, 0x7C0, 0x966, 0x9E6, 0xA66, 0xAE6, 0xB66, 0xBE6, 0xC66, 0xCE6, 0xD66,
  0xDE6, 0xE50, 0xED0, 0xF20, 0x1040, 0x1090, 0x17E0, 0x1810, 0x1946, 0x19D0, 0x1A80, 0x1A90,
  0x1B50, 0x1BB0, 0x1C40, 0x1C50, 0xA620, 0xA8D0, 0xA900, 0xA9D0, 0xA9F0, 0xAA50, 0xABF0,
  0xFF10, 0x104A0, 0x10D30, 0x11066, 0x110F0, 0x11136, 0x111D0, 0x112F0, 0x11450, 0x114D0,
  0x11650, 0x116C0, 0x11730, 0x118E0, 0x11950, 0x11C50, 0x11D50, 0x11DA0, 0x16A60, 0x16AC0,
  0x16B50, 0x1D7CE, 0x1D7D8, 0x1D7E2, 0x1D7EC, 0x1D7F6, 0x1E140, 0x1E2F0, 0x1E950, 0x1FBF0
  ]

/-- Runs of digits that are not decimal digits: the first and last character of the run
and the value of the first, the values rising by one along the run. -/
def digitRuns : List (Nat × Nat × Nat) := [
  (0xB2, 0xB3, 2), (0xB9, 0xB9, 1), (0x1369, 0x1371, 1), (0x19DA, 0x19DA, 1),
  (0x2070, 0x2070, 0), (0x2074, 0x2079, 4), (0x2080, 0x2089, 0), (0x2460, 0x2468, 1),
  (0x2474, 0x247C, 1), (0x2488, 0x2490, 1), (0x24EA, 0x24EA, 0), (0x24F5, 0x24FD, 1),
  (0x24FF, 0x24FF, 0), (0x2776, 0x277E, 1), (0x2780, 0x2788, 1), (0x278A, 0x2792, 1),
  (0x10A40, 0x10A43, 1), (0x10E60, 0x10E68, 1), (0x11052, 0x1105A, 1), (0x1F100, 0x1F100, 0),
  (0x1F101, 0x1F10A, 0)
  ]

/-- The value of a decimal digit. -/
def decimalValue? (c : Char) : Option Nat :=
  let n := c.toNat
  (decimalZeros.find? fun z => z ≤ n && n < z + 10).map (n - ·)

/-- Whether a character is a digit, decimal or not. -/
def isDigit (c : Char) : Bool :=
  (decimalValue? c).isSome || digitRuns.any fun (lo, hi, _) => lo ≤ c.toNat && c.toNat ≤ hi

/-- Whether a text is a nonempty run of digits. -/
def isDigits (s : String) : Bool := !s.isEmpty && s.toList.all isDigit

/-- The number a run of decimal digits spells; none when a character is not a decimal digit. -/
def decimalNumber? (cs : List Char) : Option Nat :=
  cs.foldlM (fun acc c => (decimalValue? c).map (acc * 10 + ·)) 0

end Airwaves.Unicode
