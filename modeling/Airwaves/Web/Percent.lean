/-!
# Percent-encoded text

Decoding runs of `%` escapes as UTF-8, each maximal invalid part read as one replacement
character.
-/
namespace Airwaves.Web

/-- The value of a hexadecimal digit. -/
def hexValue? (c : Char) : Option Nat :=
  if '0' ≤ c ∧ c ≤ '9' then some (c.toNat - '0'.toNat)
  else if 'a' ≤ c ∧ c ≤ 'f' then some (c.toNat - 'a'.toNat + 10)
  else if 'A' ≤ c ∧ c ≤ 'F' then some (c.toNat - 'A'.toNat + 10)
  else none

/-- The ranges the bytes after a lead byte must fall in, and the bits the lead byte gives;
none for a byte that starts no sequence. -/
def continuation (b : Nat) : Option (List (Nat × Nat) × Nat) :=
  let any := (0x80, 0xBF)
  if b < 0x80 then some ([], b)
  else if 0xC2 ≤ b ∧ b ≤ 0xDF then some ([any], b % 0x20)
  else if b == 0xE0 then some ([(0xA0, 0xBF), any], b % 0x10)
  else if b == 0xED then some ([(0x80, 0x9F), any], b % 0x10)
  else if 0xE1 ≤ b ∧ b ≤ 0xEF then some ([any, any], b % 0x10)
  else if b == 0xF0 then some ([(0x90, 0xBF), any, any], b % 0x08)
  else if b == 0xF4 then some ([(0x80, 0x8F), any, any], b % 0x08)
  else if 0xF1 ≤ b ∧ b ≤ 0xF3 then some ([any, any, any], b % 0x08)
  else none

/-- Reads the continuation bytes of a sequence: the code point and the rest when all fit,
otherwise the rest after the bytes that did fit. -/
def readTail : List (Nat × Nat) → Nat → List UInt8 → Except (List UInt8) (Nat × List UInt8)
  | [], acc, rest => .ok (acc, rest)
  | (lo, hi) :: more, acc, [] => .error []
  | (lo, hi) :: more, acc, b :: rest =>
    if lo ≤ b.toNat ∧ b.toNat ≤ hi then readTail more (acc * 64 + b.toNat % 64) rest
    else .error (b :: rest)

/-- UTF-8 bytes as text, with a replacement character for each maximal invalid part. -/
def decodeLossy (bs : List UInt8) : String :=
  let rec go : Nat → List UInt8 → List Char
    | 0, _ => []
    | _, [] => []
    | fuel + 1, b :: rest =>
      match continuation b.toNat with
      | none => '�' :: go fuel rest
      | some (ranges, bits) =>
        match readTail ranges bits rest with
        | .ok (code, after) => Char.ofNat code :: go fuel after
        | .error after => '�' :: go fuel after
  String.ofList (go bs.length bs)

/-- Splits text into literal characters and runs of escaped bytes. -/
def pieces : List Char → List (Sum Char UInt8)
  | '%' :: a :: b :: rest =>
    match hexValue? a, hexValue? b with
    | some hi, some lo => .inr (hi * 16 + lo).toUInt8 :: pieces rest
    | _, _ => .inl '%' :: pieces (a :: b :: rest)
  | c :: rest => .inl c :: pieces rest
  | [] => []

/-- Decodes the escapes of a percent-encoded text. -/
def unquote (s : String) : String :=
  let step (acc : String × List UInt8) (p : Sum Char UInt8) : String × List UInt8 :=
    match p with
    | .inr byte => (acc.1, acc.2 ++ [byte])
    | .inl c => (acc.1 ++ decodeLossy acc.2 |>.push c, [])
  let (text, pending) := (pieces s.toList).foldl step ("", [])
  text ++ decodeLossy pending

end Airwaves.Web
