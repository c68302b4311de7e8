import Airwaves.Value.Basic
/-!
# Reading JSON text

JSON text as a value, or the first fault met with its place.
-/
namespace Airwaves.Json

/-- The kinds of fault a JSON text can have. -/
inductive Fault where
  | expectingValue
  | expectingName
  | expectingColon
  | expectingComma
  | unterminatedString
  | controlCharacter
  | badEscape
  | badUnicodeEscape
  | extraData
  | byteOrderMark
  deriving Repr, BEq

/-- A fault and the character index where it stands. -/
structure ReadError where
  fault : Fault
  position : Nat
  deriving Repr

/-- What a fault says. -/
def Fault.text : Fault → String
  | .expectingValue => "Expecting value"
  | .expectingName => "Expecting property name enclosed in double quotes"
  | .expectingColon => "Expecting ':' delimiter"
  | .expectingComma => "Expecting ',' delimiter"
  | .unterminatedString => "Unterminated string starting at"
  | .controlCharacter => "Invalid control character at"
  | .badEscape => "Invalid \\escape"
  | .badUnicodeEscape => "Invalid \\uXXXX escape"
  | .extraData => "Extra data"
  | .byteOrderMark => "Unexpected UTF-8 BOM (decode using utf-8-sig)"

/-- The message for a fault in a source text: its text, then line, column and index. -/
def ReadError.message (e : ReadError) (source : String) : String :=
  let before := source.toList.take e.position
  let line := (before.filter (· == '\n')).length + 1
  let column := (before.reverse.takeWhile (· != '\n')).length + 1
  e.fault.text ++ ": line " ++ toString line ++ " column " ++ toString column ++
    " (char " ++ toString e.position ++ ")"

/-- A position in the text: the characters left and how many were consumed. -/
structure Cursor where
  rest : List Char
  pos : Nat

namespace Cursor

/-- Skips blanks: space, tab, line feed and carriage return. -/
def skipBlank (c : Cursor) : Cursor :=
  let blank := c.rest.takeWhile fun ch => ch == ' ' || ch == '\t' || ch == '\n' || ch == '\r'
  ⟨c.rest.drop blank.length, c.pos + blank.length⟩

/-- Moves forward by `n` characters. -/
def advance (c : Cursor) (n : Nat) : Cursor := ⟨c.rest.drop n, c.pos + n⟩

/-- The next character. -/
def peek (c : Cursor) : Option Char := c.rest.head?

end Cursor

/-- Value of a hexadecimal digit. -/
def hexValue (c : Char) : Option Nat :=
  if '0' ≤ c && c ≤ '9' then some (c.toNat - '0'.toNat)
  else if 'a' ≤ c && c ≤ 'f' then some (c.toNat - 'a'.toNat + 10)
  else if 'A' ≤ c && c ≤ 'F' then some (c.toNat - 'A'.toNat + 10)
  else none

/-- Reads four hexadecimal digits. -/
def hex4 (cs : List Char) : Option Nat :=
  match cs with
  | [a, b, c, d] => do
    return (← hexValue a) * 4096 + (← hexValue b) * 256 + (← hexValue c) * 16 + (← hexValue d)
  | _ => none

/-- Reads the body of a string after its opening quote, which stands at `start`. -/
def readString (start : Nat) (c : Cursor) : Except ReadError (String × Cursor) :=
  go c.rest c.pos "" (c.rest.length + 1)
where
  go (cs : List Char) (pos : Nat) (acc : String) : Nat → Except ReadError (String × Cursor)
    | 0 => .error ⟨.unterminatedString, start⟩
    | fuel + 1 =>
      match cs with
      | [] => .error ⟨.unterminatedString, start⟩
      | '"' :: rest => .ok (acc, ⟨rest, pos + 1⟩)
      | '\\' :: rest =>
        match rest with
        | [] => .error ⟨.unterminatedString, start⟩
        | 'u' :: more =>
          match hex4 (more.take 4), more.drop 4 with
          | none, _ | _, [] => .error ⟨.badUnicodeEscape, pos + 1⟩
          | some n, after =>
            if 0xd800 ≤ n && n ≤ 0xdbff && (after.take 7).length == 7 then
              match after with
              | '\\' :: 'u' :: more2 =>
                match hex4 (more2.take 4) with
                | some m =>
                  if 0xdc00 ≤ m && m ≤ 0xdfff then
                    let code := 0x10000 + (n - 0xd800) * 0x400 + (m - 0xdc00)
                    go (more2.drop 4) (pos + 12) (acc.push (Char.ofNat code)) fuel
                  else go after (pos + 6) (acc.push (Char.ofNat n)) fuel
                | none => go after (pos + 6) (acc.push (Char.ofNat n)) fuel
              | _ => go after (pos + 6) (acc.push (Char.ofNat n)) fuel
            else go after (pos + 6) (acc.push (Char.ofNat n)) fuel
        | e :: more =>
          let plain : Option Char :=
            match e with
            | '"' => some '"' | '\\' => some '\\' | '/' => some '/'
            | 'b' => some (Char.ofNat 8) | 'f' => some (Char.ofNat 12)
            | 'n' => some '\n' | 'r' => some '\r' | 't' => some '\t'
            | _ => none
          match plain with
          | some ch => go more (pos + 2) (acc.push ch) fuel
          | none => .error ⟨.badEscape, pos⟩
      | ch :: rest =>
        if ch.toNat < 0x20 then .error ⟨.controlCharacter, pos⟩
        else go rest (pos + 1) (acc.push ch) fuel

/-- Reads a number at the cursor: an optional minus, digits without a leading zero, an
optional fraction and an optional exponent. -/
def readNumber (c : Cursor) : Option (Value × Cursor) :=
  let isDigit (ch : Char) := ch.isDigit
  let (neg, cs) := match c.rest with
    | '-' :: rest => (true, rest)
    | rest => (false, rest)
  let intDigits := match cs with
    | '0' :: _ => ['0']
    | _ => cs.takeWhile isDigit
  if intDigits.isEmpty then none else
  let afterInt := cs.drop intDigits.length
  let fracDigits := match afterInt with
    | '.' :: rest => rest.takeWhile isDigit
    | _ => []
  let afterFrac := if fracDigits.isEmpty then afterInt else afterInt.drop (fracDigits.length + 1)
  let (expNeg, expDigits, expLen) := match afterFrac with
    | e :: rest =>
      if e == 'e' || e == 'E' then
        let (sgn, body, signLen) := match rest with
          | '-' :: r => (true, r, 1)
          | '+' :: r => (false, r, 1)
          | r => (false, r, 0)
        let ds := body.takeWhile isDigit
        if ds.isEmpty then (false, [], 0) else (sgn, ds, 1 + signLen + ds.length)
      else (false, [], 0)
    | [] => (false, [], 0)
  let digitValue (ds : List Char) : Nat := ds.foldl (fun n ch => n * 10 + (ch.toNat - '0'.toNat)) 0
  let consumed := (if neg then 1 else 0) + intDigits.length +
    (if fracDigits.isEmpty then 0 else fracDigits.length + 1) + expLen
  let next := c.advance consumed
  if fracDigits.isEmpty && expDigits.isEmpty then
    let n : Int := digitValue intDigits
    some (.int (if neg then -n else n), next)
  else
    let mantissa := digitValue (intDigits ++ fracDigits)
    let e : Int := (if expNeg then -(digitValue expDigits : Int) else digitValue expDigits) - fracDigits.length
    let magnitude := if e ≥ 0 then Double.ofScientific mantissa false e.toNat
      else Double.ofScientific mantissa true (-e).toNat
    some (.float (if neg then -magnitude else magnitude), next)

/-- Whether the text at the cursor starts with a word. -/
def startsWith (c : Cursor) (word : String) : Bool := c.rest.take word.length == word.toList

mutual
/-- Reads one value at the cursor (blanks before it already skipped). -/
def readValue (c : Cursor) : Nat → Except ReadError (Value × Cursor)
  | 0 => .error ⟨.expectingValue, c.pos⟩
  | fuel + 1 =>
    match c.peek with
    | some '"' => do
      let (s, next) ← readString c.pos (c.advance 1)
      return (.str s, next)
    | some '{' => readObject (c.advance 1) fuel
    | some '[' => readArray (c.advance 1) fuel
    | _ =>
      if startsWith c "null" then .ok (.none, c.advance 4)
      else if startsWith c "true" then .ok (.bool true, c.advance 4)
      else if startsWith c "false" then .ok (.bool false, c.advance 5)
      else if startsWith c "NaN" then .ok (.float (0.0 / 0.0), c.advance 3)
      else if startsWith c "Infinity" then .ok (.float (1.0 / 0.0), c.advance 8)
      else if startsWith c "-Infinity" then .ok (.float (-1.0 / 0.0), c.advance 9)
      else match readNumber c with
        | some r => .ok r
        | none => .error ⟨.expectingValue, c.pos⟩
/-- Reads the members of an object after its opening brace. -/
def readObject (c : Cursor) : Nat → Except ReadError (Value × Cursor)
  | 0 => .error ⟨.expectingValue, c.pos⟩
  | fuel + 1 =>
    let c := c.skipBlank
    match c.peek with
    | some '}' => .ok (.dict [], c.advance 1)
    | some '"' => readMembers (c.advance 1) [] fuel
    | _ => .error ⟨.expectingName, c.pos⟩
/-- Reads members from the one whose name's opening quote was just consumed. -/
def readMembers (c : Cursor) (acc : Dict) : Nat → Except ReadError (Value × Cursor)
  | 0 => .error ⟨.expectingValue, c.pos⟩
  | fuel + 1 => do
    let (key, c) ← readString (c.pos - 1) c
    let c := c.skipBlank
    if c.peek != some ':' then throw ⟨.expectingColon, c.pos⟩
    let c := (c.advance 1).skipBlank
    let (value, c) ← readValue c fuel
    let acc := Dict.put acc (.str key) value
    let c := c.skipBlank
    match c.peek with
    | some '}' => return (.dict acc, c.advance 1)
    | some ',' =>
      let c := (c.advance 1).skipBlank
      if c.peek != some '"' then throw ⟨.expectingName, c.pos⟩
      readMembers (c.advance 1) acc fuel
    | _ => throw ⟨.expectingComma, c.pos⟩
/-- Reads the items of an array after its opening bracket. -/
def readArray (c : Cursor) : Nat → Except ReadError (Value × Cursor)
  | 0 => .error ⟨.expectingValue, c.pos⟩
  | fuel + 1 =>
    let c := c.skipBlank
    match c.peek with
    | some ']' => .ok (.list [], c.advance 1)
    | _ => readItems c [] fuel
/-- Reads items from the cursor until the closing bracket. -/
def readItems (c : Cursor) (acc : List Value) : Nat → Except ReadError (Value × Cursor)
  | 0 => .error ⟨.expectingValue, c.pos⟩
  | fuel + 1 => do
    let (value, c) ← readValue c fuel
    let c := c.skipBlank
    match c.peek with
    | some ']' => return (.list (acc ++ [value]), c.advance 1)
    | some ',' => readItems (c.advance 1).skipBlank (acc ++ [value]) fuel
    | _ => throw ⟨.expectingComma, c.pos⟩
end

/-- Reads a whole JSON text: one value with blanks around it. -/
def read (source : String) : Except ReadError Value := do
  let cs := source.toList
  if cs.head? == some '\uFEFF' then throw ⟨.byteOrderMark, 0⟩
  let c := (Cursor.mk cs 0).skipBlank
  let (v, c) ← readValue c (4 * cs.length + 4)
  let c := c.skipBlank
  if c.rest.isEmpty then return v else throw ⟨.extraData, c.pos⟩

end Airwaves.Json
