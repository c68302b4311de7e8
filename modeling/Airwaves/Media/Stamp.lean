import Airwaves.Unicode.Numeral
/-!
# Timestamps

A tag timestamp `yyyy-MM-dd HH:mm:ss`, or a prefix of it, read field by field and written with
each field's width.
-/
namespace Airwaves.Media

/-- Whether a character separates the fields of a timestamp by itself. -/
def isStampSeparator (c : Char) : Bool :=
  c == '-' || c == 'T' || c == ':' || c == '/' || c == '.'

/-- Splits a timestamp into its fields: a separator ends a field, and so does a run of
blanks; `afterBlank` says whether the character before was a blank. -/
def stampFieldsFrom : List Char → List Char → Bool → List String
  | [], acc, _ => [String.ofList acc.reverse]
  | c :: rest, acc, afterBlank =>
    if isStampSeparator c then String.ofList acc.reverse :: stampFieldsFrom rest [] false
    else if Unicode.isSpace c then
      if afterBlank then stampFieldsFrom rest acc true
      else String.ofList acc.reverse :: stampFieldsFrom rest [] true
    else stampFieldsFrom rest (c :: acc) false

/-- The fields of a timestamp. -/
def stampFields (s : String) : List String := stampFieldsFrom s.toList [] false

/-- A whole number written with at least a width of characters, zeros after the sign. -/
def padded (width : Nat) (n : Int) : String :=
  let digits := toString n.natAbs
  let room := if n < 0 then width - 1 else width
  let body := String.ofList (List.replicate (room - digits.length) '0') ++ digits
  if n < 0 then "-" ++ body else body

/-- A timestamp in its normal form. -/
def normalStamp (s : String) : String :=
  let fields := (stampFields (s ++ ":::::")).take 6
  let widths := [4, 2, 2, 2, 2, 2]
  let numbers := (fields.map Unicode.readInt?).takeWhile Option.isSome
  let parts := (numbers.zip widths).filterMap fun (n, w) => n.map (padded w)
  match parts with
  | [] => ""
  | year :: rest =>
    let seps := ["-", "-", " ", ":", ":"]
    year ++ String.join ((seps.zip rest).map fun (sep, p) => sep ++ p)

end Airwaves.Media
