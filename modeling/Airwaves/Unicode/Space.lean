/-!
# Blank characters

The blank characters of the Unicode character database (version 14.0), for trimming text and,
more strictly, for reading numbers.
-/
namespace Airwaves.Unicode

/-- Whether a character is blank. -/
def isSpace (c : Char) : Bool :=
  let n := c.toNat
  n == 0x20 || (9 ≤ n && n ≤ 13) || (0x1C ≤ n && n ≤ 0x1F) || n == 0x85 || n == 0xA0 ||
    n == 0x1680 || (0x2000 ≤ n && n ≤ 0x200A) || n == 0x2028 || n == 0x2029 || n == 0x202F ||
    n == 0x205F || n == 0x3000

/-- Whether an ASCII character is blank where numbers are read: the space, tab, line feed,
vertical tab, form feed and carriage return. -/
def isAsciiSpace (c : Char) : Bool :=
  c == ' ' || (9 ≤ c.toNat && c.toNat ≤ 13)

/-- Text with blanks removed from both ends. -/
def trim (s : String) : String :=
  String.ofList ((s.toList.dropWhile isSpace).reverse.dropWhile isSpace).reverse

end Airwaves.Unicode
