import Airwaves.Media.Header
import Airwaves.Media.TagBody
import Airwaves.Media.Trailer
import Airwaves.Media.Stream
import Airwaves.Media.Samples
import Airwaves.Media.Stamp
import Airwaves.Media.Genre
/-!
# Song files

An MP3 reader: the tag brought to the newest version, the audio stream after it and the song's
length. The runs here are given this reader as the world's.
-/
namespace Airwaves.Media

namespace Tag

/-- The timestamp a year, a day-and-month (`DDMM`) and a time (`HHMM`) of the older
versions make: empty unless the year is a run of digits, the day only with a valid year
and the time only with a valid day. -/
def oldStamp (y d tm : String) : String :=
  if !isAsciiDigits y then ""
  else
    let dayOk := d.length == 4 && isAsciiDigits d
    let timeOk := tm.length == 4 && isAsciiDigits tm
    let dl := d.toList
    let tl := tm.toList
    if dayOk then
      y ++ "-" ++ String.ofList (dl.drop 2) ++ "-" ++ String.ofList (dl.take 2) ++
        (if timeOk then "T" ++ String.ofList (tl.take 2) ++ ":" ++ String.ofList (tl.drop 2) ++ ":00" else "")
    else y

/-- Gives the genres of the genre frame by name; the error is a genre value of digits
that is not a number. -/
def nameGenres (t : Tag) : Except String Tag :=
  match t.frames.lookup "TCON" with
  | some f => do
    let named ← f.values.mapM genresOf
    return t.put (f.withValues named.flatten)
  | none => .ok t

/-- Brings a tag to the newest version; the error is a genre value of digits that is not a
number. -/
def toNewest (t : Tag) : Except String Tag := do
  let t ← t.nameGenres
  let years := t.valuesAt "TYER"
  let days := t.valuesAt "TDAT"
  let times := t.valuesAt "TIME"
  let t := ((t.erase "TYER").erase "TDAT").erase "TIME"
  let n := max years.length (max days.length times.length)
  let stamps := (List.range n).filterMap fun i =>
    let s := oldStamp (years.getD i "") (days.getD i "") (times.getD i "")
    if s.isEmpty then none else some s
  let t := if !stamps.isEmpty && !t.has "TDRC" then t.add (.text "TDRC" (stamps.map normalStamp)) else t
  let t := match t.frames.lookup "TORY" with
    | some f =>
      let t := t.erase "TORY"
      if t.has "TDOR" then t else t.add (.text "TDOR" [normalStamp ("\x00".intercalate f.values)])
    | none => t
  let t := match t.frames.lookup "IPLS" with
    | some f =>
      let t := t.erase "IPLS"
      if t.has "TIPL" then t else t.add (.other "TIPL" (match f with | .other _ b => b | _ => []))
    | none => t
  return ["RVAD", "EQUA", "TRDA", "TSIZ"].foldl (fun acc k => acc.erase k) t

/-- The written frames of a tag: text frames without text are left out, and the rest
ordered by importance, size and key. -/
def encodeFrames (t : Tag) (version : Nat) : List UInt8 :=
  let kept := t.frames.filter fun (_, f) => !(f.isText && f.shown.isEmpty)
  let keyed := kept.map fun (k, f) =>
    let rank := (importantIds.idxOf? f.id).getD importantIds.length
    (rank, f.encode version, k)
  let sorted := keyed.mergeSort fun a b =>
    a.1 < b.1 || (a.1 == b.1 && (a.2.1.length < b.2.1.length ||
      (a.2.1.length == b.2.1.length && decide (a.2.2 ≤ b.2.2))))
  sorted.flatMap (·.2.1)

/-- A whole tag as a version writes it, with the padding given. -/
def encode (t : Tag) (version padding : Nat) : List UInt8 :=
  let frames := t.encodeFrames version
  let size := frames.length + padding
  ascii "ID3" ++ [version.toUInt8, 0, 0] ++ toSynchsafe 4 size ++ frames ++ List.replicate padding 0

end Tag

/-- Brings a tag to the newest version, a genre that is not a number failing the read. -/
def Tag.toNewestRead (t : Tag) : Except ReadError Tag :=
  match t.toNewest with
  | .ok t => .ok t
  | .error value => .error (.badGenre value)

/-- The tag of a file with no leading tag that can be read: its trailer tag alone, or
none. A leading tag of a version that cannot be read fails the read unless the trailer
tag stands in. -/
def trailerOnly (file : List UInt8) (unsupported : Option Nat) : Except ReadError (Option Tag) :=
  match findTrailer file 4 with
  | some frames => some <$> (({ version := 1 } : Tag).fillFrom frames).toNewestRead
  | none =>
    match unsupported with
    | some major => .error (.unsupportedVersion major)
    | none => .ok none

/-- Reads the tag of a song file, and the offset after the leading tag (zero without
one). -/
def readTag (file : List UInt8) : Except ReadError (Option Tag × Nat) := do
  match ← readTagStart file with
  | .absent => return (← trailerOnly file none, 0)
  | .unsupported major => return (← trailerOnly file (some major), 0)
  | .found header data =>
    let frames ← readFrames header.major header.unsynchronised data
    let tag := frames.foldl Tag.add ({ version := header.major } : Tag)
    let tag := match findTrailer file (if header.major == 4 then 4 else 3) with
      | some extra => tag.fillFrom extra
      | none => tag
    return (some (← tag.toNewestRead), header.size + 10)

/-- Reads a song file: its tag, then the audio stream after the leading tag. -/
def SongFile.read (file : List UInt8) : Except ReadError SongFile := do
  let (tag, offset) ← readTag file
  let length ← streamLength file offset
  return { tag, length }

/-- A frame given by its id and fields: text frames take their text, a comment its text
and description (in English), a link its address and description, and a described text
frame its description and text. -/
def Frame.ofFields (id : String) (fields : List String) : Option Frame :=
  let first := fields.getD 0 ""
  let second := fields.getD 1 ""
  if id == "COMM" then some (.comment "eng" second [first])
  else if id == "WXXX" then some (.userLink second first)
  else if id == "TXXX" then some (.userText first [second])
  else if textIds.contains id || id == "TIPL" || id == "TMCL" then some (.text id [if isStampId id then normalStamp first else first])
  else none

/-- Bytes with the trailer tag at their end taken out. -/
def dropTrailer (bs : List UInt8) : List UInt8 :=
  let data := bs.drop (bs.length - 131)
  match indexOf? (ascii "TAG") data, findTrailer bs 4 with
  | some idx, some _ => bs.take (bs.length - (data.length - idx))
  | _, _ => bs

/-- Bytes with the leading tag taken out. -/
def dropLeadingTag (bs : List UInt8) : List UInt8 :=
  if bs.length ≥ 10 && bs.take 3 == ascii "ID3" then bs.drop (synchsafe ((bs.drop 6).take 4) + 10)
  else bs

/-- How a song file is made. -/
inductive FileRecipe where
  /-- Exactly the given bytes. -/
  | bytes (content : List UInt8)
  /-- A sample song as it is. -/
  | sample (n : Nat)
  /-- A sample song with its tags replaced by a leading tag of the given frames, in a
  version; with no frames, the song has no tag at all. -/
  | retagged (n : Nat) (frames : List Frame) (version : Nat)
  deriving Inhabited

/-- The bytes of a song file made by a recipe. A new tag is padded by a kilobyte and a
thousandth of the bytes after it. -/
def FileRecipe.build : FileRecipe → List UInt8
  | .bytes content => content
  | .sample n => sampleFile n
  | .retagged n frames version =>
    let rest := dropLeadingTag (dropTrailer (sampleFile n))
    if frames.isEmpty then rest
    else
      let tag := frames.foldl Tag.put ({ version := version } : Tag)
      tag.encode version (1024 + rest.length / 1000) ++ rest

end Airwaves.Media
