import Airwaves.Media.Bytes
/-!
# Encoded text in frames

Latin-1, UTF-16 and UTF-8 texts up to their terminators, decoded strictly, with the second
chances a spoiled text gets.
-/
namespace Airwaves.Media

/-- The encodings of frame text. -/
inductive TextEncoding where
  | latin1
  | utf16
  | utf16be
  | utf8
  deriving Inhabited, BEq, DecidableEq, Repr

namespace TextEncoding

/-- The encoding an encoding byte names. -/
def ofByte? : Nat → Option TextEncoding
  | 0 => some .latin1
  | 1 => some .utf16
  | 2 => some .utf16be
  | 3 => some .utf8
  | _ => none

/-- The length of the terminator in bytes. -/
def terminatorLength : TextEncoding → Nat
  | .utf16 | .utf16be => 2
  | _ => 1

end TextEncoding

/-- A code unit of two bytes in a byte order. -/
def codeUnit (little : Bool) (a b : UInt8) : Nat :=
  if little then b.toNat * 256 + a.toNat else a.toNat * 256 + b.toNat

/-- Whether a code unit is a high (leading) surrogate. -/
def isHighSurrogate (u : Nat) : Bool := 0xD800 ≤ u && u < 0xDC00

/-- Whether a code unit is a low (trailing) surrogate. -/
def isLowSurrogate (u : Nat) : Bool := 0xDC00 ≤ u && u < 0xE000

/-- The character a surrogate pair stands for. -/
def combineSurrogates (hi lo : Nat) : Char :=
  Char.ofNat (0x10000 + (hi - 0xD800) * 0x400 + (lo - 0xDC00))

/-- Decodes UTF-16 code units up to a zero unit: the characters before it and the bytes
after it (none when no zero unit ends the text); none when the units are not UTF-16: a
low surrogate first, a high surrogate not followed by a low one, or an odd byte at the
end. -/
def utf16Units (little : Bool) : List UInt8 → Option (List Char × Option (List UInt8))
  | [] => some ([], none)
  | [_] => none
  | a :: b :: rest =>
    let u := codeUnit little a b
    if u == 0 then some ([], some rest)
    else if isLowSurrogate u then none
    else if isHighSurrogate u then
      match rest with
      | c :: d :: more =>
        let v := codeUnit little c d
        if isLowSurrogate v then
          (fun (cs, after) => (combineSurrogates u v :: cs, after)) <$> utf16Units little more
        else none
      | _ => none
    else (fun (cs, after) => (Char.ofNat u :: cs, after)) <$> utf16Units little rest

/-- Splits bytes at their first zero byte: the bytes before it and those after it, none
when there is no zero byte. -/
def splitAtZero (bs : List UInt8) : List UInt8 × Option (List UInt8) :=
  let body := bs.takeWhile (· != 0)
  (body, if body.length < bs.length then some (bs.drop (body.length + 1)) else none)

/-- Decodes a text up to its terminator: the text and the bytes after the terminator
(none when there is none); none when the bytes do not decode. -/
def decodeTerminated (enc : TextEncoding) (bs : List UInt8) : Option (String × Option (List UInt8)) :=
  match enc with
  | .latin1 =>
    let (body, after) := splitAtZero bs
    some (latin1 body, after)
  | .utf8 =>
    let (body, after) := splitAtZero bs
    (String.fromUTF8? ⟨body.toArray⟩).map (·, after)
  | .utf16 =>
    let decoded := match bs with
      | 0xFF :: 0xFE :: rest => utf16Units true rest
      | 0xFE :: 0xFF :: rest => utf16Units false rest
      | _ => utf16Units true bs
    decoded.map fun (cs, after) => (String.ofList cs, after)
  | .utf16be => (utf16Units false bs).map fun (cs, after) => (String.ofList cs, after)

/-- Reads one text and the bytes after it; none when the text is spoiled beyond both
second chances. -/
def readText (enc : TextEncoding) (bs : List UInt8) : Option (String × List UInt8) :=
  match decodeTerminated enc bs with
  | some (s, after) => some (s, after.getD [])
  | none =>
    if (bs.take enc.terminatorLength).all (· == 0) then some ("", bs.drop enc.terminatorLength)
    else
      match decodeTerminated enc (bs ++ [0]) with
      | some (s, some after) => some (s, after)
      | _ => none

/-- Reads texts one after another until the bytes run out; `fuel` bounds the number of
texts. -/
def readTextsFrom (enc : TextEncoding) : Nat → List UInt8 → Option (List String)
  | 0, _ => some []
  | fuel + 1, bs =>
    if bs.isEmpty then some []
    else do
      let (s, rest) ← readText enc bs
      let more ← readTextsFrom enc fuel rest
      return s :: more

/-- Reads the texts that fill the bytes. Every text takes at least one byte, so there are
no more texts than bytes. -/
def readTexts (enc : TextEncoding) (bs : List UInt8) : Option (List String) :=
  readTextsFrom enc bs.length bs

/-- A list of texts without its trailing empty texts; none when no text is left. -/
def trimTexts (vs : List String) : Option (List String) :=
  let kept := (vs.reverse.dropWhile String.isEmpty).reverse
  if kept.isEmpty then none else some kept

end Airwaves.Media
