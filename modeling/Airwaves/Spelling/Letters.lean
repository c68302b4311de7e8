import Airwaves.Spelling.Alphabets
import Airwaves.Spelling.Symbols
import Airwaves.Spelling.EastAsian
import Airwaves.Spelling.Readings
/-!
# The spelling of a character

`Spelling.latin c` spells a character in Latin letters, keeping only what a search keeps; an
ASCII character is itself. `Spelling.spell` is the `unidecode` of `Protocol.runLibraries`.
-/
namespace Airwaves.Spelling

/-- The tables of the blocks that are spelled entry by entry. -/
def tables : List Table :=
  [latinOne, latinExtended, phonetic, greek, cyrillic, armenianHebrew, arabic,
   devanagariBengali, gurmukhi, gujarati, oriya, tamil, telugu, kannada, malayalam, thaiLao,
   myanmarGeorgian, jamo, oghamRunic, phoneticExtensions, latinAdditional, greekExtended,
   punctuation, letterlike, enclosed, kana, bopomofo, presentation, fullwidth, mathematical]

/-- The spelling of a character in Latin letters. -/
def latin (c : Char) : String :=
  let n := c.toNat
  if n < 0x80 then c.toString
  else if 0x4E00 ≤ n && n < 0xA000 then reading (n - 0x4E00)
  else if 0xAC00 ≤ n && n < 0xD7A4 then hangul (n - 0xAC00)
  else (tables.findSome? (·.get? n)).getD ""

/-- A text spelled in Latin letters, character by character. -/
def spell (s : String) : String := String.join (s.toList.map latin)

end Airwaves.Spelling
