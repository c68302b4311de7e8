import Airwaves.Media.Bytes
import Airwaves.Media.FrameId
import Airwaves.Media.ReadError
/-!
# The tag header

The ten-byte header of a leading tag (version, flags, synchsafe size) and the extended header
that may follow.
-/
namespace Airwaves.Media

/-- A leading tag's header. -/
structure TagHeader where
  /-- The major version: 2, 3 or 4. -/
  major : Nat
  /-- The flags byte. -/
  flags : Nat
  /-- The size of the tag after the header. -/
  size : Nat
  deriving Inhabited, Repr

namespace TagHeader

/-- Whether the whole tag is unsynchronised. -/
def unsynchronised (h : TagHeader) : Bool := h.flags.testBit 7

/-- Whether the header announces an extended header. -/
def extended (h : TagHeader) : Bool := h.flags.testBit 6

end TagHeader

/-- What the start of a file holds. -/
inductive TagStart where
  /-- No leading tag. -/
  | absent
  /-- A leading tag of a version that cannot be read. -/
  | unsupported (major : Nat)
  /-- A leading tag and its frame bytes. -/
  | found (header : TagHeader) (frameBytes : List UInt8)
  deriving Inhabited

/-- Where the frames start after an extended header at offset 10, or why the extended
header cannot be read. -/
def extendedEnd (file : List UInt8) (major : Nat) : Except ReadError Nat :=
  let sizeBytes := (file.drop 10).take 4
  if sizeBytes.length < 4 then .error .truncated
  else if sizeBytes.all (·.toNat < 128) && isKnownId (latin1 sizeBytes) then .ok 10
  else if major == 4 then
    if !isSynchsafe sizeBytes then .error .extendedSizeNotSynchsafe
    else if synchsafe sizeBytes < 4 then .error .negativeSize
    else
      let size := synchsafe sizeBytes - 4
      if file.length < 14 + size then .error .truncated else .ok (14 + size)
  else
    let size := bigEndian sizeBytes
    if file.length < 14 + size then .error .truncated else .ok (14 + size)

/-- Reads the leading tag's header and its frame bytes. -/
def readTagStart (file : List UInt8) : Except ReadError TagStart :=
  if file.length < 10 || file.take 3 != ascii "ID3" then .ok .absent
  else
    let major := (file.getD 3 0).toNat
    let flags := (file.getD 5 0).toNat
    let sizeBytes := (file.drop 6).take 4
    if major != 2 && major != 3 && major != 4 then .ok (.unsupported major)
    else if !isSynchsafe sizeBytes then .error .sizeNotSynchsafe
    else if (major == 4 && flags % 16 != 0) || (major == 3 && flags % 32 != 0) then
      .error (.invalidFlags flags)
    else do
      let header : TagHeader := { major, flags, size := synchsafe sizeBytes }
      let start ← if header.extended then extendedEnd file major else pure 10
      if file.length < start + header.size then .error .truncated
      else return .found header ((file.drop start).take header.size)

end Airwaves.Media
