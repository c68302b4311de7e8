import Airwaves.Media.Body
import Airwaves.Media.Tag
/-!
# The frames of a tag body

Reading the run of frames of a tag body, with sizes read synchsafe or plainly, whichever finds
more known frames.
-/
namespace Airwaves.Media

/-- A frame size read from its bytes, synchsafe or plain. -/
def frameSize (synchsafeSizes : Bool) (bs : List UInt8) : Nat :=
  if synchsafeSizes then synchsafe bs else bigEndian bs

/-- Whether the bytes of an id are ASCII and name a known frame. -/
def namesKnownFrame (name : List UInt8) : Bool :=
  name.all (·.toNat < 128) && isKnownId (latin1 name)

/-- Walks the frame headers of a body from an offset, reading sizes one way: the number
of headers that name known frames, and where the walk stops relative to the end of the
body (at padding, minus the bytes left over whole ten-byte units). -/
def walkHeaders (synchsafeSizes : Bool) (data : List UInt8) : Nat → Nat → Nat → Nat × Int
  | 0, _, count => (count, 0)
  | fuel + 1, offset, count =>
    if offset + 10 < data.length then
      let part := (data.drop offset).take 10
      if part.all (· == 0) then (count, -(((data.length - offset) % 10 : Nat) : Int))
      else
        let size := frameSize synchsafeSizes ((part.drop 4).take 4)
        let count := if namesKnownFrame (part.take 4) then count + 1 else count
        walkHeaders synchsafeSizes data fuel (offset + 10 + size) count
    else (count, (offset : Int) - data.length)

/-- Whether the frame sizes of a version 4 body are synchsafe. -/
def sizesSynchsafe (data : List UInt8) : Bool :=
  let fuel := data.length / 10 + 1
  let (asSafe, safeEnd) := walkHeaders true data fuel 0 0
  let (asPlain, plainEnd) := walkHeaders false data fuel 0 0
  !(asPlain > asSafe || (asPlain == asSafe && safeEnd ≥ 1 && plainEnd ≤ 1))

/-- The id a frame of versions 3 and 4 is read as: a known four-letter id, or the
four-letter equivalent of a three-letter id ended by a zero byte. -/
def frameIdOf (name : List UInt8) : Option String :=
  let text := latin1 name
  if name.getLast? == some 0 then
    (longId? (latin1 name.dropLast)).filter isKnownId
  else if isKnownId text then some text
  else none

/-- Reads a frame of versions 3 and 4 from its id, flags and body: none when the frame
is dropped. -/
def readFrame (major flags : Nat) (tagUnsync : Bool) (id : String) (body : List UInt8) :
    Except ReadError (Option Frame) := do
  let data ← if major == 4 then pure (unwrapNewest flags tagUnsync body) else unwrapOlder flags body
  return data >>= decodeBody major id

/-- Reads the frames of a version 3 or 4 body. -/
def readLongFrames (major : Nat) (synchsafeSizes tagUnsync : Bool) :
    Nat → List UInt8 → Except ReadError (List Frame)
  | 0, _ => .ok []
  | fuel + 1, data =>
    if data.length < 10 then .ok []
    else
      let name := data.take 4
      if name.all (· == 0) then .ok []
      else
        let size := frameSize synchsafeSizes ((data.drop 4).take 4)
        let flags := bigEndian ((data.drop 8).take 2)
        let body := (data.drop 10).take size
        let rest := data.drop (10 + size)
        let next := readLongFrames major synchsafeSizes tagUnsync fuel rest
        if size == 0 || !name.all (·.toNat < 128) then next
        else
          match frameIdOf name with
          | none => next
          | some id => do
            let frame ← readFrame major flags tagUnsync id body
            let more ← next
            return frame.toList ++ more

/-- Reads the frames of a version 2 body. -/
def readShortFrames : Nat → List UInt8 → List Frame
  | 0, _ => []
  | fuel + 1, data =>
    if data.length < 6 then []
    else
      let name := data.take 3
      if name.all (· == 0) then []
      else
        let size := bigEndian ((data.drop 3).take 3)
        let body := (data.drop 6).take size
        let next := readShortFrames fuel (data.drop (6 + size))
        if size == 0 || !name.all (·.toNat < 128) then next
        else
          match longId? (latin1 name) with
          | none => next
          | some id => (decodeBody 2 id body).toList ++ next

/-- Reads the frames of a tag body of a version, given whether the tag is
unsynchronised. -/
def readFrames (major : Nat) (tagUnsync : Bool) (data : List UInt8) : Except ReadError (List Frame) :=
  let data := if major < 4 && tagUnsync then unsync data else data
  let fuel := data.length + 1
  if major == 2 then .ok (readShortFrames fuel data)
  else readLongFrames major (major == 4 && sizesSynchsafe data) tagUnsync fuel data

end Airwaves.Media
