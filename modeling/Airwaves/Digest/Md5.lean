import Airwaves.Value.Text
/-!
# MD5 digests

The MD5 digest (RFC 1321) of a byte sequence, by which forum sign-in keys are compared.
-/
namespace Airwaves.Digest

/-- The four state words. -/
structure Md5State where
  a : UInt32
  b : UInt32
  c : UInt32
  d : UInt32
  deriving Inhabited

/-- The state before the first block. -/
def Md5State.initial : Md5State := ⟨0x67452301, 0xefcdab89, 0x98badcfe, 0x10325476⟩

/-- The added constant of each step: the integer part of `2^32 * |sin (i + 1)|`. -/
def md5Constants : Array UInt32 := #[
  0xd76aa478, 0xe8c7b756, 0x242070db, 0xc1bdceee, 0xf57c0faf, 0x4787c62a, 0xa8304613, 0xfd469501,
  0x698098d8, 0x8b44f7af, 0xffff5bb1, 0x895cd7be, 0x6b901122, 0xfd987193, 0xa679438e, 0x49b40821,
  0xf61e2562, 0xc040b340, 0x265e5a51, 0xe9b6c7aa, 0xd62f105d, 0x02441453, 0xd8a1e681, 0xe7d3fbc8,
  0x21e1cde6, 0xc33707d6, 0xf4d50d87, 0x455a14ed, 0xa9e3e905, 0xfcefa3f8, 0x676f02d9, 0x8d2a4c8a,
  0xfffa3942, 0x8771f681, 0x6d9d6122, 0xfde5380c, 0xa4beea44, 0x4bdecfa9, 0xf6bb4b60, 0xbebfbc70,
  0x289b7ec6, 0xeaa127fa, 0xd4ef3085, 0x04881d05, 0xd9d4d039, 0xe6db99e5, 0x1fa27cf8, 0xc4ac5665,
  0xf4292244, 0x432aff97, 0xab9423a7, 0xfc93a039, 0x655b59c3, 0x8f0ccc92, 0xffeff47d, 0x85845dd1,
  0x6fa87e4f, 0xfe2ce6e0, 0xa3014314, 0x4e0811a1, 0xf7537e82, 0xbd3af235, 0x2ad7d2bb, 0xeb86d391]

/-- The rotation of each step: four amounts per round, repeated four times. -/
def md5Shift (i : Nat) : UInt32 :=
  let amounts : List UInt32 := match i / 16 with
    | 0 => [7, 12, 17, 22]
    | 1 => [5, 9, 14, 20]
    | 2 => [4, 11, 16, 23]
    | _ => [6, 10, 15, 21]
  amounts.getD (i % 4) 0

/-- A word rotated left. -/
def rotateLeft (x n : UInt32) : UInt32 := (x <<< n) ||| (x >>> (32 - n))

/-- The mixing function and the message word of a step, by round. -/
def md5Mix (i : Nat) (s : Md5State) : UInt32 × Nat :=
  match i / 16 with
  | 0 => ((s.b &&& s.c) ||| (~~~s.b &&& s.d), i)
  | 1 => ((s.d &&& s.b) ||| (~~~s.d &&& s.c), (5 * i + 1) % 16)
  | 2 => (s.b ^^^ s.c ^^^ s.d, (3 * i + 5) % 16)
  | _ => (s.c ^^^ (s.b ||| ~~~s.d), (7 * i) % 16)

/-- One step of a block over the block's sixteen words. -/
def md5Step (words : Array UInt32) (s : Md5State) (i : Nat) : Md5State :=
  let (f, g) := md5Mix i s
  let sum := f + s.a + md5Constants.getD i 0 + words.getD g 0
  ⟨s.d, s.b + rotateLeft sum (md5Shift i), s.b, s.c⟩

/-- A little-endian word from four bytes. -/
def wordOf (bytes : List UInt8) : UInt32 :=
  bytes.foldr (fun b acc => (acc <<< 8) ||| b.toUInt32) 0

/-- The sixteen words of a 64-byte block. -/
def blockWords (block : List UInt8) : Array UInt32 :=
  ((List.range 16).map fun k => wordOf ((block.drop (4 * k)).take 4)).toArray

/-- The state after one block: the 64 steps, added to the state before. -/
def md5Block (s : Md5State) (block : List UInt8) : Md5State :=
  let words := blockWords block
  let t := (List.range 64).foldl (md5Step words) s
  ⟨s.a + t.a, s.b + t.b, s.c + t.c, s.d + t.d⟩

/-- The bytes of a number as a little-endian word of a given width. -/
def littleEndian (width n : Nat) : List UInt8 :=
  (List.range width).map fun k => (n / Nat.pow 256 k % 256).toUInt8

/-- The padded message: one `0x80` byte, zeros up to 56 bytes past a multiple of 64, and
the length in bits. -/
def md5Padding (bytes : List UInt8) : List UInt8 :=
  let zeros := (55 + 64 - bytes.length % 64) % 64
  bytes ++ [0x80] ++ List.replicate zeros 0 ++ littleEndian 8 (8 * bytes.length % Nat.pow 2 64)

/-- A byte sequence in blocks of 64 (the last may be shorter). -/
def blocksOf (bytes : List UInt8) : List (List UInt8) :=
  if h : bytes.length ≤ 64 then [bytes]
  else bytes.take 64 :: blocksOf (bytes.drop 64)
termination_by bytes.length
decreasing_by simp only [List.length_drop]; omega

/-- The digest of a byte sequence, as sixteen bytes. -/
def md5Bytes (bytes : List UInt8) : List UInt8 :=
  let s := (blocksOf (md5Padding bytes)).foldl md5Block Md5State.initial
  [s.a, s.b, s.c, s.d].flatMap fun w => littleEndian 4 w.toNat

/-- The digest of a text's UTF-8 bytes, in lower-case hexadecimal. -/
def md5Hex (text : String) : String :=
  String.join ((md5Bytes text.toUTF8.toList).map fun b => Value.hexPad 2 b.toNat)

end Airwaves.Digest
