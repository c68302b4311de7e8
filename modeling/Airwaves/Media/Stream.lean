import Airwaves.Media.Bytes
import Airwaves.Media.ReadError
import Airwaves.Number.Double
/-!
# The audio stream of a song file

MPEG audio frame headers, the VBR headers a frame may carry, finding where the stream starts,
and the length of the audio.
-/
namespace Airwaves.Media

/-- The fields of a frame header. -/
structure FrameHeader where
  /-- 1 for MPEG-1, 2 for MPEG-2, 25 for MPEG-2.5. -/
  version : Nat
  layer : Nat
  /-- Bits per second. -/
  bitrate : Nat
  sampleRate : Nat
  padding : Nat
  /-- The channel mode: 3 is mono. -/
  mode : Nat
  deriving Inhabited, Repr

/-- Bitrates in kilobits per second, by version family and layer. -/
def bitrates (mpeg1 : Bool) (layer : Nat) : List Nat :=
  if mpeg1 then
    match layer with
    | 1 => [0, 32, 64, 96, 128, 160, 192, 224, 256, 288, 320, 352, 384, 416, 448]
    | 2 => [0, 32, 48, 56, 64, 80, 96, 112, 128, 160, 192, 224, 256, 320, 384]
    | _ => [0, 32, 40, 48, 56, 64, 80, 96, 112, 128, 160, 192, 224, 256, 320]
  else
    match layer with
    | 1 => [0, 32, 48, 56, 64, 80, 96, 112, 128, 144, 160, 176, 192, 224, 256]
    | _ => [0, 8, 16, 24, 32, 40, 48, 56, 64, 80, 96, 112, 128, 144, 160]

/-- Sample rates by version. -/
def sampleRates (version : Nat) : List Nat :=
  match version with
  | 1 => [44100, 48000, 32000]
  | 2 => [22050, 24000, 16000]
  | _ => [11025, 12000, 8000]

/-- Reads a frame header from four bytes; none when they are not a valid header (a free
bitrate counts as not valid). -/
def FrameHeader.read? (bs : List UInt8) : Option FrameHeader :=
  match bs with
  | b0 :: b1 :: b2 :: b3 :: _ =>
    let h := bigEndian [b0, b1, b2, b3]
    let sync := h / 0x200000 % 0x800
    let versionId := h / 0x80000 % 4
    let layerId := h / 0x20000 % 4
    let bitrateIndex := h / 0x1000 % 16
    let rateIndex := h / 0x400 % 4
    if sync != 0x7FF || versionId == 1 || layerId == 0 || bitrateIndex == 15 || rateIndex == 3 ||
        bitrateIndex == 0 then none
    else
      let version := match versionId with
        | 0 => 25
        | 2 => 2
        | _ => 1
      let layer := 4 - layerId
      some { version, layer,
             bitrate := (bitrates (version == 1) layer).getD bitrateIndex 0 * 1000
             sampleRate := (sampleRates version).getD rateIndex 0
             padding := h / 0x200 % 2
             mode := h / 0x40 % 4 }
  | _ => none

namespace FrameHeader

/-- The samples a frame holds. -/
def samples (f : FrameHeader) : Nat :=
  if f.layer == 1 then 384
  else if f.version != 1 && f.layer == 3 then 576
  else 1152

/-- The bytes of a slot: four in layer 1, one otherwise. -/
def slot (f : FrameHeader) : Nat := if f.layer == 1 then 4 else 1

/-- The frame's length in bytes. -/
def length (f : FrameHeader) : Nat :=
  (f.samples / 8 * f.bitrate / f.sampleRate + f.padding) * f.slot

/-- Where a `Xing` header would start in the frame. -/
def xingOffset (f : FrameHeader) : Nat :=
  if f.version == 1 then (if f.mode != 3 then 36 else 21)
  else (if f.mode != 3 then 21 else 13)

end FrameHeader

/-- Whether a byte is an ASCII digit. -/
def isDigitByte (b : UInt8) : Bool := 48 ≤ b && b ≤ 57

/-- What the encoder tag after a `Xing` header gives: nothing, the samples of delay and
padding, or a fault when an old encoder's version text is not ASCII. -/
inductive EncoderTag where
  | absent
  | gap (delay padding : Nat)
  | undecodable (byte position : Nat)
  deriving Inhabited, Repr

/-- Reads the encoder tag at the start of bytes. Its version (`LAME3.99`, say) must be a
one-digit major and a minor number; a version before 3.90 (or 3.90 with a parenthesis
where the tag's fields would be) has no fields, and its text must be ASCII. Otherwise the
fields are 27 bytes from the tag's ninth byte, of revision 0, and give the delay and
padding as twelve bits each. -/
def readEncoderTag (bs : List UInt8) : EncoderTag :=
  let head := bs.take 20
  if head.length < 20 || !(ascii "LAME").isPrefixOf head && !(ascii "L3.99").isPrefixOf head then .absent
  else
    let stripped := head.dropWhile fun b => b == 69 || b == 77 || b == 65 || b == 76
    match stripped with
    | [] => .absent
    | m :: afterMajor =>
      let afterMajor := afterMajor.dropWhile (· == 46)
      let minorDigits := afterMajor.takeWhile isDigitByte
      let rest := afterMajor.drop minorDigits.length
      if !isDigitByte m || minorDigits.isEmpty then .absent
      else
        let major := m.toNat - 48
        let minor := minorDigits.foldl (fun acc d => acc * 10 + (d.toNat - 48)) 0
        let marked := rest.length ≥ 11 && rest.getD (rest.length - 11) 0 == 40
        if major < 3 || (major == 3 && minor < 90) || (major == 3 && minor == 90 && marked) then
          let noZeros := ((rest.dropWhile (· == 0)).reverse.dropWhile (· == 0)).reverse
          let text := (noZeros.reverse.dropWhile fun b => b == 32 || (9 ≤ b && b ≤ 13)).reverse
          match text.findIdx? (·.toNat ≥ 128) with
          | some i => .undecodable (text.getD i 0).toNat i
          | none => .absent
        else if rest.length < 11 then .absent
        else
          let fields := (bs.drop 9).take 27
          if fields.length < 27 || (fields.getD 0 0).toNat / 16 != 0 then .absent
          else
            let d0 := (fields.getD 12 0).toNat
            let d1 := (fields.getD 13 0).toNat
            let d2 := (fields.getD 14 0).toNat
            .gap (d0 * 16 + d1 / 16) ((d1 % 16) * 256 + d2)

/-- What a `Xing` header gives: its frame count, if it has one, and its encoder tag. -/
structure XingHeader where
  frames : Option Nat
  encoder : EncoderTag
  deriving Inhabited, Repr

/-- Reads a `Xing` or `Info` header at the start of bytes: after the mark and the flags
come the fields the flags name, each of which must be there in full. -/
def XingHeader.read? (bs : List UInt8) : Option XingHeader := do
  let mark := bs.take 4
  if bs.length < 8 || (mark != ascii "Xing" && mark != ascii "Info") then none
  let flags := bigEndian ((bs.drop 4).take 4)
  let field (on : Bool) (width at_ : Nat) : Option Nat :=
    if !on then some at_ else if (bs.drop at_).length < width then none else some (at_ + width)
  let framesEnd ← field (flags.testBit 0) 4 8
  let bytesEnd ← field (flags.testBit 1) 4 framesEnd
  let tocEnd ← field (flags.testBit 2) 100 bytesEnd
  let qualityEnd ← field (flags.testBit 3) 4 tocEnd
  return { frames := if flags.testBit 0 then some (bigEndian ((bs.drop 8).take 4)) else none
           encoder := readEncoderTag (bs.drop qualityEnd) }

/-- Reads a `VBRI` header from its first 26 bytes and the number of bytes from its start to
the end of the file: its frame count, when its version is 1, its table is there in full
and its table entries are two or four bytes. -/
def vbriFrames? (head : List UInt8) (available : Nat) : Option Nat :=
  let field (at_ width : Nat) := bigEndian ((head.drop at_).take width)
  if head.length < 26 || head.take 4 != ascii "VBRI" || field 4 2 != 1 then none
  else
    let entries := field 18 2
    let entrySize := field 22 2
    if available - 26 < entries * entrySize then none
    else if entrySize != 2 && entrySize != 4 then none
    else some (field 14 4)

/-- Up to `n` bytes of a file from a position. -/
def bytesAt (file : Array UInt8) (pos n : Nat) : List UInt8 := (file.extract pos (pos + n)).toList

/-- How many bytes a `Xing` header and the encoder tag after it can take: the mark and
flags, the two counts, the table of contents, the quality, and the 36 bytes from the
encoder's version to the end of its fields. -/
def xingSpan : Nat := 8 + 4 + 4 + 100 + 4 + 36

/-- A frame found in the file. -/
structure StreamFrame where
  offset : Nat
  header : FrameHeader
  /-- Whether the frame has a VBR header. -/
  sure : Bool
  /-- The song's length when the VBR header gives it. -/
  length : Option Double
  deriving Inhabited

/-- Reads the frame at a position, with its VBR header for layer 3: a `Xing` header, or
failing that a `VBRI` header 36 bytes in; none when the four bytes there are not a valid
header. -/
def readFrameAt (file : Array UInt8) (pos : Nat) : Except ReadError (Option StreamFrame) :=
  match FrameHeader.read? (bytesAt file pos 4) with
  | none => .ok none
  | some h =>
    let plain : StreamFrame := { offset := pos, header := h, sure := false, length := none }
    if h.layer != 3 then .ok (some plain)
    else
      match XingHeader.read? (bytesAt file (pos + h.xingOffset) xingSpan) with
      | some x =>
        match x.encoder with
        | .undecodable b i => .error (.versionNotAscii b i)
        | encoder =>
          let length := x.frames.map fun n =>
            let total := h.samples * n
            let gap := match encoder with
              | .gap d p => d + p
              | _ => 0
            Double.ofInt (total - gap) / Double.ofInt h.sampleRate
          .ok (some { plain with sure := true, length })
      | none =>
        match vbriFrames? (bytesAt file (pos + 36) 26) (file.size - (pos + 36)) with
        | some n =>
          let length := some (Double.ofInt (h.samples * n) / Double.ofInt h.sampleRate)
          .ok (some { plain with sure := true, length })
        | none => .ok (some plain)

/-- Reads up to `k` frames one after another from a position, stopping after a sure
frame or at a header that is not valid. -/
def frameRun (file : Array UInt8) : Nat → Nat → List StreamFrame → Except ReadError (List StreamFrame)
  | 0, _, acc => .ok acc
  | k + 1, pos, acc => do
    match ← readFrameAt file pos with
    | none => return acc
    | some f =>
      if f.sure then return acc ++ [f]
      else frameRun file k (pos + f.header.length) (acc ++ [f])

/-- How far the search for syncs reads from where it starts. -/
def syncWindow : Nat := 1048576

/-- The first sync at or after a position whose two bytes lie before `stop`. Each step
moves one byte on, so `fuel` steps reach `stop` from `stop - fuel`. -/
def nextSyncFrom (file : Array UInt8) (stop : Nat) : Nat → Nat → Option Nat
  | 0, _ => none
  | fuel + 1, pos =>
    if pos + 1 < stop then
      if file.getD pos 0 == 0xFF && (file.getD (pos + 1) 0).toNat / 32 == 7 then some pos
      else nextSyncFrom file stop fuel (pos + 1)
    else none

/-- The first sync at or after a position, before a limit and the end of the file. -/
def nextSync (file : Array UInt8) (pos limit : Nat) : Option Nat :=
  let stop := min limit file.size
  nextSyncFrom file stop (stop - pos) pos

/-- Tries the syncs from a position in order, each the start of a run, until a run
decides the stream; `fallback` is the first frame of the first run of two or more frames
so far, and `syncs` bounds the syncs tried. The search moves one byte past each sync, so
frames of a run are tried again as starts of their own runs. -/
def searchStream (file : Array UInt8) (limit : Nat) :
    Nat → Nat → Option StreamFrame → Except ReadError (Option StreamFrame)
  | 0, _, fallback => .ok fallback
  | syncs + 1, pos, fallback =>
    match nextSync file pos limit with
    | none => .ok fallback
    | some start => do
      let frames ← frameRun file 4 start []
      let fallback := if frames.length ≥ 2 && fallback.isNone then frames.head? else fallback
      match frames.getLast? with
      | some last =>
        if last.sure then return some last
        else if frames.length ≥ 4 then return frames.head?
        else searchStream file limit syncs (start + 1) fallback
      | none => searchStream file limit syncs (start + 1) fallback

/-- The number of syncs tried: the search gives up at the 1500th. -/
def syncBudget : Nat := 1499

/-- The length of a tag at the start of bytes, if one is there: ten bytes of header and
its size, which must not be zero. -/
def leadingTagSize (bs : List UInt8) : Option Nat :=
  if bs.length < 10 || bs.take 3 != ascii "ID3" then none
  else
    let n := synchsafe ((bs.drop 6).take 4)
    if n > 0 then some (n + 10) else none

/-- The bytes taken by the tags at the start of bytes. -/
def skipTags : Nat → List UInt8 → Nat
  | 0, _ => 0
  | fuel + 1, bs =>
    match leadingTagSize bs with
    | some n => n + skipTags fuel (bs.drop n)
    | none => 0

/-- The length in seconds of the stream after an offset. -/
def streamLength (file : List UInt8) (offset : Nat) : Except ReadError Double := do
  let start := offset + skipTags file.length (file.drop offset)
  let bytes := file.toArray
  match ← searchStream bytes (start + syncWindow) syncBudget start none with
  | none => .error .noStream
  | some f =>
    match f.length with
    | some len => return len
    | none => return Double.ofInt (8 * (file.length - f.offset)) / Double.ofInt f.header.bitrate

end Airwaves.Media
