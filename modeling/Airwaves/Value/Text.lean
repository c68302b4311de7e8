import Airwaves.Value.Basic
import Airwaves.Number.Decimal
import Airwaves.Clock.Civil
import Airwaves.Unicode.Printable
/-!
# Text of values

The display text of a value used in messages, and the quoted form used for members of
containers and keys.
-/
namespace Airwaves

namespace FloatText

/-- Positional or exponent layout of digits `d` with the point after `point` digits. -/
def layout (digits : String) (point : Int) (positional : Bool) (keepPoint : Bool) : String :=
  let len : Int := digits.length
  if positional then
    if point ≤ 0 then "0." ++ String.ofList (List.replicate (-point).toNat '0') ++ digits
    else if point ≥ len then
      digits ++ String.ofList (List.replicate (point - len).toNat '0') ++ (if keepPoint then ".0" else "")
    else
      String.ofList (digits.toList.take point.toNat) ++ "." ++ String.ofList (digits.toList.drop point.toNat)
  else
    let e := point - 1
    let first := String.ofList (digits.toList.take 1)
    let rest := String.ofList (digits.toList.drop 1)
    let mant := if rest.isEmpty then first else first ++ "." ++ rest
    let expDigits := toString e.natAbs
    let expText := if expDigits.length < 2 then "0" ++ expDigits else expDigits
    mant ++ "e" ++ (if e < 0 then "-" else "+") ++ expText

/-- The shortest text that reads back as the double: positional for decimal exponents from
-4 to 15, with `.0` after a whole number. -/
def shortest (x : Double) : String :=
  match Number.decode x with
  | none => if x.isNaN then "nan" else if x.negative then "-inf" else "inf"
  | some b =>
    let sign := if b.negative then "-" else ""
    if b.mantissa = 0 then sign ++ "0.0" else
    let d := Number.shortest b
    let point := d.pointPosition
    sign ++ layout d.text point (-3 ≤ point ∧ point ≤ 16) true

/-- Twelve significant digits without trailing zeros, positional for decimal exponents from
-4 to 11, with `.0` added when neither a point nor an exponent is written. -/
def display (x : Double) : String :=
  match Number.decode x with
  | none => if x.isNaN then "nan" else if x.negative then "-inf" else "inf"
  | some b =>
    let sign := if b.negative then "-" else ""
    if b.mantissa = 0 then sign ++ "0.0" else
    let raw := Number.significant b 12
    let e := raw.pointPosition - 1
    let d := raw.trim
    let positional := -4 ≤ e ∧ e < 12
    let text := layout d.text (e + 1) positional false
    let text := if positional && !(text.contains '.') then text ++ ".0" else text
    sign ++ text

end FloatText

namespace Value

/-- Hexadecimal digits of a number, lowercase, padded to a width. -/
def hexPad (width : Nat) (n : Nat) : String :=
  let s := String.ofList (Nat.toDigits 16 n)
  String.ofList (List.replicate (width - s.length) '0') ++ s

/-- Whether a character is written as itself inside quotes. -/
def printable (c : Char) : Bool := Unicode.isPrintable c

/-- The quoted form of a text: single quotes unless the text holds a single quote and no
double quote, with backslash escapes for the quote, the backslash and unprintable
characters. -/
def quoteText (s : String) : String :=
  let q := if s.contains '\'' && !s.contains '"' then '"' else '\''
  let body := s.toList.foldl (fun acc c =>
    if c == q || c == '\\' then acc ++ "\\" ++ c.toString
    else if c == '\t' then acc ++ "\\t"
    else if c == '\n' then acc ++ "\\n"
    else if c == '\r' then acc ++ "\\r"
    else if printable c then acc.push c
    else if c.toNat < 0x100 then acc ++ "\\x" ++ hexPad 2 c.toNat
    else if c.toNat < 0x10000 then acc ++ "\\u" ++ hexPad 4 c.toNat
    else acc ++ "\\U" ++ hexPad 8 c.toNat) ""
  q.toString ++ body ++ q.toString

/-- Joins texts with a separator. -/
def joinWith (sep : String) (xs : List String) : String := sep.intercalate xs

/-- Text of an integer. -/
def intText (n : Int) : String := toString n

mutual
/-- The quoted form of a value, used inside containers. -/
def quote : Value → String
  | .none => "None"
  | .bool b => if b then "True" else "False"
  | .int n => intText n
  | .float x => FloatText.shortest x
  | .str s => quoteText s
  | .bytes b => "b" ++ quoteText (String.ofList (b.map fun u => Char.ofNat u.toNat))
  | .list xs => "[" ++ quoteList xs ++ "]"
  | .tuple [x] => "(" ++ quote x ++ ",)"
  | .tuple xs => "(" ++ quoteList xs ++ ")"
  | .dict es => "\x7b" ++ quoteEntries es ++ "\x7d"
  | .set xs => "\x7b" ++ quoteList xs ++ "\x7d"
  | .time t =>
    let c := t.toCivil
    "datetime.datetime(" ++ toString c.year ++ ", " ++ toString c.month ++ ", " ++ toString c.day ++
      ", " ++ toString c.hour ++ ", " ++ toString c.minute ++
      (if c.second = 0 ∧ c.micro = 0 then "" else ", " ++ toString c.second) ++
      (if c.micro = 0 then "" else ", " ++ toString c.micro) ++ ")"
  | .ref _ => "<object>"
  | .kind n => "<class '" ++ n ++ "'>"
  | .func n _ => "<function " ++ n ++ ">"
/-- Quoted forms of a sequence, comma separated. -/
def quoteList : List Value → String
  | [] => ""
  | [x] => quote x
  | x :: rest => quote x ++ ", " ++ quoteList rest
/-- Quoted forms of mapping entries. -/
def quoteEntries : Dict → String
  | [] => ""
  | [(k, v)] => quote k ++ ": " ++ quote v
  | (k, v) :: rest => quote k ++ ": " ++ quote v ++ ", " ++ quoteEntries rest
end

/-- The display form of a value: text as itself, doubles to twelve digits, and containers
in their quoted form. -/
def display : Value → String
  | .str s => s
  | .float x => FloatText.display x
  | .time t => t.isoText " "
  | v => v.quote

end Value

end Airwaves
