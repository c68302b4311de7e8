import Airwaves.Media.Text
import Airwaves.Media.Frame
import Airwaves.Media.Stamp
import Airwaves.Media.ReadError
import Airwaves.Compression.Inflate
/-!
# Frame bodies

A frame's flags undone (length indicator, unsynchronisation, encryption, compression), then its
body read by the frame's kind.
-/
namespace Airwaves.Media

/-- Undoes the flags of a version 4 frame; none when the frame is dropped. -/
def unwrapNewest (flags : Nat) (tagUnsync : Bool) (data : List UInt8) : Option (List UInt8) :=
  let hasLength := flags.testBit 3 || flags.testBit 0
  let lengthBytes := if hasLength then data.take 4 else []
  let data := if hasLength then data.drop 4 else data
  let data := if flags.testBit 1 || tagUnsync then unsync data else data
  if flags.testBit 2 then none
  else if flags.testBit 3 then
    match Compression.zlibInflate data with
    | some out => some out
    | none => Compression.zlibInflate (lengthBytes ++ data)
  else some data

/-- Undoes the flags of a version 3 frame; none when the frame is dropped, an error when a
compressed frame is too short to hold its size. -/
def unwrapOlder (flags : Nat) (data : List UInt8) : Except ReadError (Option (List UInt8)) :=
  if flags.testBit 7 && data.length < 4 then .error .compressedSizeMissing
  else
    let data := if flags.testBit 7 then data.drop 4 else data
    if flags.testBit 6 then .ok none
    else if flags.testBit 7 then .ok (Compression.zlibInflate data)
    else .ok (some data)

/-- Reads the list of texts that fills the bytes: none when there are no bytes or a text
does not decode. Before version 4, trailing empty texts are dropped, and none is left
when all are empty. -/
def readValues (major : Nat) (enc : TextEncoding) (bs : List UInt8) : Option (List String) :=
  if bs.isEmpty then none
  else if major < 4 then readTexts enc bs >>= trimTexts
  else readTexts enc bs

/-- Reads a description and the bytes after it: none when there are no bytes or the
description does not decode. -/
def readDescription (enc : TextEncoding) (bs : List UInt8) : Option (String × List UInt8) :=
  if bs.isEmpty then none else readText enc bs

/-- How the body of a frame is laid out. -/
inductive BodyLayout where
  /-- An encoding byte and a list of texts. -/
  | texts
  /-- An encoding byte, a description and a list of texts. -/
  | describedTexts
  /-- An encoding byte, a language, a description and a list of texts. -/
  | comment
  /-- An encoding byte, a description and an address. -/
  | describedLink
  /-- Bytes that are kept as they are. -/
  | raw
  deriving Inhabited, BEq

/-- The layout of the body of a frame of an id. -/
def BodyLayout.ofId (id : String) : BodyLayout :=
  if textIds.contains id then .texts
  else if id == "TXXX" then .describedTexts
  else if id == "COMM" then .comment
  else if id == "WXXX" then .describedLink
  else .raw

/-- Reads the body of a frame of a known id in a tag of a major version; none when the
frame is dropped. -/
def decodeBody (major : Nat) (id : String) (body : List UInt8) : Option Frame :=
  match BodyLayout.ofId id, body with
  | .raw, _ => some (.other id body)
  | _, [] => none
  | layout, b :: rest => do
    let enc ← TextEncoding.ofByte? b.toNat
    match layout with
    | .texts =>
      let vs ← readValues major enc rest
      return .text id (if isStampId id then vs.map normalStamp else vs)
    | .describedTexts =>
      let (desc, rest) ← readDescription enc rest
      let vs ← readValues major enc rest
      return .userText desc vs
    | .comment =>
      if rest.isEmpty then none
      let lang := rest.take 3
      if !lang.all (·.toNat < 128) then none
      let (desc, rest) ← readDescription enc (rest.drop 3)
      let vs ← readValues major enc rest
      return .comment (latin1 lang) desc vs
    | _ =>
      let (desc, rest) ← readDescription enc rest
      if rest.isEmpty then none
      return .userLink desc (latin1 (rest.takeWhile (· != 0)))

end Airwaves.Media
