import Airwaves.Unicode.Digits
import Airwaves.Unicode.Space
/-!
# Numbers written in text

Whole and decimal numbers are read from text the same way. A blank outside ASCII counts
as a space and a decimal digit outside ASCII as its ASCII digit; any other character
outside ASCII spoils the number. Spaces around the number are ignored, and an underscore
may stand between two digits.
-/
namespace Airwaves.Unicode

/-- The ASCII characters a number is read from, without the spaces around them; none when
a character outside ASCII is neither blank nor a decimal digit. -/
def numeralChars? (s : String) : Option (List Char) := do
  let cs ← s.toList.mapM fun c =>
    if c.toNat < 127 then some c
    else if isSpace c then some ' '
    else (decimalValue? c).map fun d => Char.ofNat (48 + d)
  return ((cs.dropWhile isAsciiSpace).reverse.dropWhile isAsciiSpace).reverse

/-- The characters without their underscores, when every underscore follows a digit and
precedes one; `prev` is the character before. -/
def dropUnderscores : Char → List Char → Option (List Char)
  | _, [] => some []
  | prev, '_' :: rest =>
    match rest with
    | c :: _ => if prev.isDigit && c.isDigit then dropUnderscores '_' rest else none
    | [] => none
  | _, c :: rest => (c :: ·) <$> dropUnderscores c rest

/-- Reads a whole number: an optional sign and decimal digits. -/
def readInt? (s : String) : Option Int := do
  let cs ← numeralChars? s
  let (neg, body) := match cs with
    | '-' :: r => (true, r)
    | '+' :: r => (false, r)
    | r => (false, r)
  let digits ← dropUnderscores ' ' body
  if digits.isEmpty || !digits.all Char.isDigit then none
  let n : Int := digits.foldl (fun acc c => acc * 10 + (c.toNat - 48 : Nat)) 0
  return if neg then -n else n

end Airwaves.Unicode
