import Airwaves.Media.Bytes
/-!
# Inflating zlib streams

A zlib stream: a header, DEFLATE blocks (stored, fixed or dynamic Huffman codes) and the
Adler-32 checksum; anything else is a failure.
-/
namespace Airwaves.Compression

/-- The bits of bytes, least significant bit of each byte first. -/
def bitsOf (bs : List UInt8) : List Bool :=
  bs.flatMap fun b => (List.range 8).map fun i => b.toNat.testBit i

/-- Reads a number of bits as a number, the first bit read being the least significant. -/
def readBits : Nat → List Bool → Option (Nat × List Bool)
  | 0, bs => some (0, bs)
  | _ + 1, [] => none
  | n + 1, b :: bs => do
    let (v, rest) ← readBits n bs
    return ((if b then 1 else 0) + 2 * v, rest)

/-- A canonical Huffman code: how many codes there are of each length (index 0 unused),
and the symbols ordered by code length and then by symbol. -/
structure Code where
  counts : Array Nat
  symbols : Array Nat
  deriving Inhabited

/-- The longest code length. -/
def maxLength : Nat := 15

namespace Code

/-- The canonical code of the given code lengths (symbol `i` has length `lengths[i]`, zero
for a symbol without a code). -/
def ofLengths (lengths : List Nat) : Code :=
  let indexed := lengths.zipIdx
  { counts := ((List.range (maxLength + 1)).map fun l =>
      if l == 0 then 0 else (lengths.filter (· == l)).length).toArray
    symbols := ((List.range (maxLength + 1)).flatMap fun l =>
      if l == 0 then [] else (indexed.filter (·.1 == l)).map (·.2)).toArray }

/-- How many codes of the full tree stay unused after giving out the codes of each length
up to `len`, as an integer: negative when too many codes are asked for. -/
def unused (c : Code) : Nat → Int
  | 0 => 1
  | len + 1 => 2 * c.unused len - (c.counts.getD (len + 1) 0 : Int)

/-- Whether a code may be used: not over-subscribed, and complete unless every code has
length one (or there are no codes); the code-length code must always be complete. -/
def acceptable (c : Code) (mustBeComplete : Bool) : Bool :=
  let longest := ((List.range (maxLength + 1)).filter fun l => l > 0 && c.counts.getD l 0 > 0).getLast?.getD 0
  let oversubscribed := (List.range (maxLength + 1)).any fun l => c.unused l < 0
  if longest == 0 then !mustBeComplete
  else !oversubscribed && (c.unused maxLength == 0 || (!mustBeComplete && longest == 1))

/-- Decodes one symbol: the bits read so far form `code`; `first` is the first code of the
current length and `index` the position of its first symbol. -/
def decodeFrom (c : Code) : Nat → Nat → Nat → Nat → List Bool → Option (Nat × List Bool)
  | 0, _, _, _, _ => none
  | _ + 1, _, _, _, [] => none
  | fuel + 1, code, first, index, b :: rest =>
    let len := maxLength - fuel
    let code := code + (if b then 1 else 0)
    let count := c.counts.getD len 0
    if code < first + count then some (c.symbols.getD (index + (code - first)) 0, rest)
    else c.decodeFrom fuel (2 * code) (2 * (first + count)) (index + count) rest

/-- Decodes one symbol of a code. -/
def decode (c : Code) (bits : List Bool) : Option (Nat × List Bool) :=
  c.decodeFrom maxLength 0 0 0 bits

end Code

/-- Base lengths of the length symbols 257 to 285. -/
def lengthBase : Array Nat :=
  #[3, 4, 5, 6, 7, 8, 9, 10, 11, 13, 15, 17, 19, 23, 27, 31, 35, 43, 51, 59, 67, 83, 99, 115,
    131, 163, 195, 227, 258]

/-- Extra bits of the length symbols 257 to 285. -/
def lengthExtra : Array Nat :=
  #[0, 0, 0, 0, 0, 0, 0, 0, 1, 1, 1, 1, 2, 2, 2, 2, 3, 3, 3, 3, 4, 4, 4, 4, 5, 5, 5, 5, 0]

/-- Base distances of the distance symbols 0 to 29. -/
def distanceBase : Array Nat :=
  #[1, 2, 3, 4, 5, 7, 9, 13, 17, 25, 33, 49, 65, 97, 129, 193, 257, 385, 513, 769, 1025, 1537,
    2049, 3073, 4097, 6145, 8193, 12289, 16385, 24577]

/-- Extra bits of the distance symbols 0 to 29. -/
def distanceExtra : Array Nat :=
  #[0, 0, 0, 0, 1, 1, 2, 2, 3, 3, 4, 4, 5, 5, 6, 6, 7, 7, 8, 8, 9, 9, 10, 10, 11, 11, 12, 12,
    13, 13]

/-- The fixed literal/length code. -/
def fixedLiterals : Code :=
  Code.ofLengths ((List.range 288).map fun s =>
    if s < 144 then 8 else if s < 256 then 9 else if s < 280 then 7 else 8)

/-- The fixed distance code. -/
def fixedDistances : Code := Code.ofLengths (List.replicate 30 5)

/-- Copies `length` bytes from `distance` bytes back, one at a time, so that a copy may
overlap the bytes it writes. -/
def copyBack (out : Array UInt8) (distance : Nat) : Nat → Array UInt8
  | 0 => out
  | n + 1 => copyBack (out.push (out.getD (out.size - distance) 0)) distance n

/-- Decodes the symbols of a coded block until its end-of-block symbol. -/
def codedSymbols (lits dists : Code) : Nat → Array UInt8 → List Bool → Option (Array UInt8 × List Bool)
  | 0, _, _ => none
  | fuel + 1, out, bits => do
    let (sym, bits) ← lits.decode bits
    if sym < 256 then codedSymbols lits dists fuel (out.push sym.toUInt8) bits
    else if sym == 256 then some (out, bits)
    else
      let i := sym - 257
      if i ≥ 29 then none else
      let (extra, bits) ← readBits (lengthExtra.getD i 0) bits
      let length := lengthBase.getD i 0 + extra
      let (dsym, bits) ← dists.decode bits
      if dsym ≥ 30 then none else
      let (dextra, bits) ← readBits (distanceExtra.getD dsym 0) bits
      let distance := distanceBase.getD dsym 0 + dextra
      if distance > out.size then none
      else codedSymbols lits dists fuel (copyBack out distance length) bits

/-- The order in which the lengths of the code-length code are sent. -/
def codeLengthOrder : List Nat := [16, 17, 18, 0, 8, 7, 9, 6, 10, 5, 11, 4, 12, 3, 13, 2, 14, 1, 15]

/-- Reads the code lengths of the literal/length and distance codes with the code-length
code: literal lengths, a repeat of the previous length (16), or runs of zeros (17, 18). -/
def readLengths (c : Code) (total : Nat) : Nat → List Nat → List Bool → Option (List Nat × List Bool)
  | 0, _, _ => none
  | fuel + 1, acc, bits =>
    if acc.length ≥ total then if acc.length == total then some (acc, bits) else none
    else do
      let (sym, bits) ← c.decode bits
      if sym < 16 then readLengths c total fuel (acc ++ [sym]) bits
      else if sym == 16 then
        let prev ← acc.getLast?
        let (n, bits) ← readBits 2 bits
        readLengths c total fuel (acc ++ List.replicate (3 + n) prev) bits
      else if sym == 17 then
        let (n, bits) ← readBits 3 bits
        readLengths c total fuel (acc ++ List.replicate (3 + n) 0) bits
      else
        let (n, bits) ← readBits 7 bits
        readLengths c total fuel (acc ++ List.replicate (11 + n) 0) bits

/-- Reads the codes sent at the start of a dynamic block. -/
def dynamicCodes (bits : List Bool) : Option (Code × Code × List Bool) := do
  let (nlen, bits) ← readBits 5 bits
  let (ndist, bits) ← readBits 5 bits
  let (ncode, bits) ← readBits 4 bits
  let nlen := nlen + 257
  let ndist := ndist + 1
  if nlen > 286 || ndist > 30 then none
  let (sent, bits) ← (List.range (ncode + 4)).foldlM (fun (acc, bs) _ => do
      let (l, bs) ← readBits 3 bs
      return (acc ++ [l], bs)) (([] : List Nat), bits)
  let lengthsOfCodes := (List.range 19).map fun s =>
    match codeLengthOrder.idxOf? s with
    | some i => sent.getD i 0
    | none => 0
  let lengthCode := Code.ofLengths lengthsOfCodes
  if !lengthCode.acceptable true then none
  let (lengths, bits) ← readLengths lengthCode (nlen + ndist) (nlen + ndist + 1) [] bits
  if lengths.getD 256 0 == 0 then none
  let lits := Code.ofLengths (lengths.take nlen)
  let dists := Code.ofLengths (lengths.drop nlen)
  if !lits.acceptable false || !dists.acceptable false then none
  return (lits, dists, bits)

/-- Reads a stored block: after the bits of the current byte, a length, its complement and
that many bytes. -/
def storedBlock (out : Array UInt8) (bits : List Bool) : Option (Array UInt8 × List Bool) := do
  let bits := bits.drop (bits.length % 8)
  let (len, bits) ← readBits 16 bits
  let (nlen, bits) ← readBits 16 bits
  if len + nlen != 65535 then none
  let (bytes, bits) ← (List.range len).foldlM (fun (acc, bs) _ => do
      let (b, bs) ← readBits 8 bs
      return (acc.push b.toUInt8, bs)) (out, bits)
  return (bytes, bits)

/-- Inflates blocks until the last one. -/
def blocks : Nat → Array UInt8 → List Bool → Option (Array UInt8 × List Bool)
  | 0, _, _ => none
  | fuel + 1, out, bits => do
    let (final, bits) ← readBits 1 bits
    let (kind, bits) ← readBits 2 bits
    let (out, bits) ← match kind with
      | 0 => storedBlock out bits
      | 1 => codedSymbols fixedLiterals fixedDistances (bits.length + 1) out bits
      | 2 => do
        let (lits, dists, bits) ← dynamicCodes bits
        codedSymbols lits dists (bits.length + 1) out bits
      | _ => none
    if final == 1 then some (out, bits) else blocks fuel out bits

/-- The Adler-32 checksum of bytes. -/
def adler32 (bs : List UInt8) : Nat :=
  let (a, b) := bs.foldl (fun (a, b) x => let a := (a + x.toNat) % 65521; (a, (b + a) % 65521)) (1, 0)
  b * 65536 + a

/-- Inflates a zlib stream at the start of bytes; none when there is no whole valid stream. -/
def zlibInflate (bs : List UInt8) : Option (List UInt8) :=
  match bs with
  | cmf :: flg :: rest =>
    let cmf := cmf.toNat
    let flg := flg.toNat
    if (cmf * 256 + flg) % 31 != 0 || cmf % 16 != 8 || cmf / 16 > 7 || flg / 32 % 2 == 1 then none
    else do
      let bits := bitsOf rest
      let (out, bits) ← blocks (bits.length + 1) #[] bits
      let bits := bits.drop (bits.length % 8)
      let (check, _) ← (List.range 4).foldlM (fun (acc, bs) _ => do
          let (b, bs) ← readBits 8 bs
          return (acc * 256 + b, bs)) (0, bits)
      if check == adler32 out.toList then some out.toList else none
  | _ => none

/-- The bytes a zlib stream written in base 85 holds; none when it does not inflate. -/
def inflateBytes (packed : String) : List UInt8 := (zlibInflate (Media.bytesOfBase85 packed)).getD []

/-- The text a zlib stream written in base 85 holds, as UTF-8. -/
def inflateText (packed : String) : String := Media.ofUtf8 (inflateBytes packed)

end Airwaves.Compression
