/-!
# Bytes of a media file

Hexadecimal text, big-endian and synchsafe integers, the text encodings a tag frame may name,
and base 85 for bytes written out in the library itself.
-/
namespace Airwaves.Media

/-- The value of a hexadecimal digit. -/
def hexDigit? (c : Char) : Option Nat :=
  if '0' ≤ c ∧ c ≤ '9' then some (c.toNat - '0'.toNat)
  else if 'a' ≤ c ∧ c ≤ 'f' then some (c.toNat - 'a'.toNat + 10)
  else if 'A' ≤ c ∧ c ≤ 'F' then some (c.toNat - 'A'.toNat + 10)
  else none

/-- The bytes a hexadecimal text spells, two digits a byte. -/
def ofHex? : List Char → Option (List UInt8)
  | [] => some []
  | a :: b :: rest => do
    let hi ← hexDigit? a
    let lo ← hexDigit? b
    let tail ← ofHex? rest
    return (hi * 16 + lo).toUInt8 :: tail
  | [_] => none

/-- The bytes of a hexadecimal text; a malformed text gives none. -/
def bytesOfHex (s : String) : List UInt8 := (ofHex? s.toList).getD []

/-- A big-endian unsigned integer. -/
def bigEndian (bs : List UInt8) : Nat := bs.foldl (fun acc b => acc * 256 + b.toNat) 0

/-- A synchsafe integer: seven bits from each byte, most significant first. -/
def synchsafe (bs : List UInt8) : Nat := bs.foldl (fun acc b => acc * 128 + (b.toNat % 128)) 0

/-- Whether every byte of a synchsafe integer has its top bit clear. -/
def isSynchsafe (bs : List UInt8) : Bool := bs.all fun b => b.toNat < 128

/-- A number as big-endian bytes of a width. -/
def toBigEndian : Nat → Nat → List UInt8
  | 0, _ => []
  | w + 1, n => toBigEndian w (n / 256) ++ [(n % 256).toUInt8]

/-- A number as synchsafe bytes of a width. -/
def toSynchsafe : Nat → Nat → List UInt8
  | 0, _ => []
  | w + 1, n => toSynchsafe w (n / 128) ++ [(n % 128).toUInt8]

/-- The digits of base 85, from zero: the printable characters other than quotes, `#`, `-`, `/`,
the backslash and braces. -/
def base85Digits : List Char :=
  "!$%&()*+,.0123456789:;<=>?@ABCDEFGHIJKLMNOPQRSTUVWXYZ[]^_abcdefghijklmnopqrstuvwxyz|~".toList

/-- The four bytes five digits of base 85 write, the most significant digit first. -/
def base85Group (digits : List Char) : List UInt8 :=
  toBigEndian 4 (digits.foldl (fun n d => n * 85 + base85Digits.idxOf d) 0)

/-- The bytes of base-85 digits: five digits make four bytes, and a last group of two to four
digits, filled up with the highest digit, makes one byte fewer than it has digits. -/
def ofBase85 : List Char → List UInt8
  | a :: b :: c :: d :: e :: rest => base85Group [a, b, c, d, e] ++ ofBase85 rest
  | last => (base85Group (last ++ List.replicate (5 - last.length) '~')).take (last.length - 1)

/-- The bytes of a base-85 text. -/
def bytesOfBase85 (s : String) : List UInt8 := ofBase85 s.toList

/-- Text whose characters are the bytes' values. -/
def latin1 (bs : List UInt8) : String := String.ofList (bs.map fun b => Char.ofNat b.toNat)

/-- The UTF-8 bytes of a text. -/
def utf8 (s : String) : List UInt8 := s.toUTF8.toList

/-- UTF-8 bytes as text; bytes that are not UTF-8 are read as Latin-1. -/
def ofUtf8 (bs : List UInt8) : String :=
  match String.fromUTF8? ⟨bs.toArray⟩ with
  | some s => s
  | none => latin1 bs

/-- The UTF-16 code units of a character. -/
def units16 (c : Char) : List Nat :=
  let n := c.toNat
  if n < 0x10000 then [n]
  else
    let m := n - 0x10000
    [0xD800 + m / 0x400, 0xDC00 + m % 0x400]

/-- Text as little-endian UTF-16 after a byte-order mark. -/
def utf16 (s : String) : List UInt8 :=
  [0xFF, 0xFE] ++ s.toList.flatMap fun c =>
    (units16 c).flatMap fun u => [(u % 256).toUInt8, (u / 256).toUInt8]

/-- Pairs of bytes as code units, little- or big-endian. -/
def codeUnits (little : Bool) : List UInt8 → List Nat
  | a :: b :: rest =>
    (if little then b.toNat * 256 + a.toNat else a.toNat * 256 + b.toNat) :: codeUnits little rest
  | _ => []

/-- Code units as characters, joining surrogate pairs; a lone surrogate is dropped. -/
def ofUnits : List Nat → List Char
  | hi :: lo :: rest =>
    if 0xD800 ≤ hi ∧ hi < 0xDC00 ∧ 0xDC00 ≤ lo ∧ lo < 0xE000 then
      Char.ofNat (0x10000 + (hi - 0xD800) * 0x400 + (lo - 0xDC00)) :: ofUnits rest
    else if 0xD800 ≤ hi ∧ hi < 0xE000 then ofUnits (lo :: rest)
    else Char.ofNat hi :: ofUnits (lo :: rest)
  | [u] => if 0xD800 ≤ u ∧ u < 0xE000 then [] else [Char.ofNat u]
  | [] => []

/-- UTF-16 bytes as text: a byte-order mark picks the order, else big-endian. -/
def ofUtf16 (bs : List UInt8) : String :=
  match bs with
  | 0xFF :: 0xFE :: rest => String.ofList (ofUnits (codeUnits true rest))
  | 0xFE :: 0xFF :: rest => String.ofList (ofUnits (codeUnits false rest))
  | _ => String.ofList (ofUnits (codeUnits false bs))

/-- The first position of a byte pattern in a list. -/
def indexOf? (pattern : List UInt8) (bs : List UInt8) : Option Nat :=
  go bs 0
where
  /-- Looks for the pattern from a position on. -/
  go : List UInt8 → Nat → Option Nat
    | [], i => if pattern.isEmpty then some i else none
    | b :: rest, i => if pattern.isPrefixOf (b :: rest) then some i else go rest (i + 1)

/-- The bytes of an ASCII text. -/
def ascii (s : String) : List UInt8 := s.toList.map fun c => c.toNat.toUInt8

/-- Undoes unsynchronisation: every zero byte after an `FF` byte is dropped. The bytes are
not unsynchronised (none) when they end in `FF`, or an `FF` is followed by another `FF` or
by a byte of `E0` or more. -/
def unsyncDecode? : List UInt8 → Option (List UInt8)
  | [] => some []
  | [0xFF] => none
  | 0xFF :: b :: rest =>
    if b == 0xFF || b.toNat ≥ 0xE0 then none
    else if b == 0 then (0xFF :: ·) <$> unsyncDecode? rest
    else (fun r => 0xFF :: b :: r) <$> unsyncDecode? rest
  | b :: rest => (b :: ·) <$> unsyncDecode? rest

/-- Bytes with unsynchronisation undone, or unchanged when they are not unsynchronised. -/
def unsync (bs : List UInt8) : List UInt8 := (unsyncDecode? bs).getD bs

end Airwaves.Media
