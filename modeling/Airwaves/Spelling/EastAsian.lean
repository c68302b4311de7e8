import Airwaves.Spelling.Table
/-!
# Spellings of East Asian scripts

Kana are spelled by their syllables, Bopomofo by their sounds, and Hangul letters by
their Revised Romanization. A Hangul syllable is a leading consonant, a vowel and an
optional trailing consonant, numbered in that order from U+AC00, so its spelling is the
spellings of the three letters in a row.
-/
namespace Airwaves.Spelling

/-- The rows of the tables below, in order, packed as `packedRows` reads them. -/
def eastAsianRows : Array (List String) := packedRows <|
  "Lo[=ICG=QF)9V[(gEUL;rNIX?8l4>J%inkljOtAzS$gnu]oinZ<:WeM1jOM9nJ1mYKJFS7*0^6WUVK!yjVl*KW5nSW(4m:!gAw<_2?nZ>vr1KoaC+AFA7Td!HlooyJpxzw.4Y4h_d$ngZ=i%d*P$ky" ++
  "S6U%~KL|vuF^q^Z*uZNb0K8y+!w7hgvRRBI=@oH~W^bG7X=+nucIz3jo^W5ON1rz:Da6GVJ2QHGhRbSV^CLN27Dk3DiWC=.,*[<$A>%Pdp3]D<6]D_+=y7oy@[AVomX1QF6YSH+qcfF[hP$W3LA2%%" ++
  "_c+NDaI?&r1Z&gS7>tzdvM|MH1LK.MK![,lW$e]FW:t*0[O,qQ1_c&[Qq(<sJqSgq<&i|C47xfoFTLQ7.tNfpOz|+@Ia2hdHtMa_Gvt=Dd.xN69<UhGeazKL]hW&@Y!+=d%Q1xgB=I@]w<nO)9cJQa" ++
  "1Y>u4*x?@co]wofccP3<C=,po+_tufsy&nChSV8vceJXqtAj0z3V,!qeMCh|Q~yE8pWibB%4JrdKY"

/-- Spellings of U+1100 to U+11FF: Hangul leading consonants, vowels and trailing consonants. -/
def jamo : Table := .ofRows 0x1100 (eastAsianRows.getD 0 [])

/-- Spellings of U+3000 to U+30FF: ideographic punctuation, hiragana and katakana. -/
def kana : Table := .ofRows 0x3000 (eastAsianRows.getD 1 [])

/-- Spellings of U+3100 to U+318F: Bopomofo and Hangul compatibility letters. -/
def bopomofo : Table := .ofRows 0x3100 (eastAsianRows.getD 2 [])

/-- Spellings of the leading consonants of Hangul syllables. -/
def leads : Array String := #["g", "gg", "n", "d", "dd", "r", "m", "b", "bb", "s", "ss", "", "j", "jj", "c", "k", "t", "p", "h"]

/-- Spellings of the vowels of Hangul syllables. -/
def vowels : Array String := #["a", "ae", "ya", "yae", "eo", "e", "yeo", "ye", "o", "wa", "wae", "oe", "yo", "u", "weo", "we", "wi", "yu", "eu", "yi", "i"]

/-- Spellings of the trailing consonants of Hangul syllables, the first for none. -/
def tails : Array String := #["", "g", "gg", "gs", "n", "nj", "nh", "d", "l", "lg", "lm", "lb", "ls", "lt", "lp", "lh", "m", "b", "bs", "s", "ss", "ng", "j", "c", "k", "t", "p", "h"]

/-- The spelling of the Hangul syllable numbered `k` from U+AC00: its leading consonant,
vowel and trailing consonant, of 19, 21 and 28 choices. -/
def hangul (k : Nat) : String :=
  leads.getD (k / 588) "" ++ vowels.getD (k % 588 / 28) "" ++ tails.getD (k % 28) ""

end Airwaves.Spelling
