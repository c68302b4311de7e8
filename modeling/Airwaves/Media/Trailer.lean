import Airwaves.Media.Frame
import Airwaves.Media.Stamp
/-!
# The trailer tag

The short tag of fixed fields that may end a song file, found among its last 131 bytes.
-/
namespace Airwaves.Media

/-- Whether a byte is an ASCII blank: space, tab, line feed, vertical tab, form feed or
carriage return. -/
def isAsciiBlank (b : UInt8) : Bool := b == 32 || (9 ≤ b && b ≤ 13)

/-- The text of a trailer tag field: up to its first zero byte, without the ASCII blanks
around it. -/
def trailerField (bs : List UInt8) : String :=
  let upto := bs.takeWhile (· != 0)
  latin1 ((upto.dropWhile isAsciiBlank).reverse.dropWhile isAsciiBlank).reverse

/-- The frames of a trailer tag: title, artist, album, year (as a year frame for a tag
of version 3, a timestamp otherwise), comment, track and genre. -/
def trailerFrames (data : List UInt8) (version : Nat) : Option (List Frame) :=
  if data.length > 128 || data.length < 124 || data.take 3 != ascii "TAG" then none
  else
    let yearLen := data.length - 124
    let title := trailerField ((data.drop 3).take 30)
    let artist := trailerField ((data.drop 33).take 30)
    let album := trailerField ((data.drop 63).take 30)
    let year := trailerField ((data.drop 93).take yearLen)
    let comment := trailerField ((data.drop (93 + yearLen)).take 29)
    let track := (data.getD (122 + yearLen) 0).toNat
    let genre := (data.getD (123 + yearLen) 0).toNat
    let beforeTrack := data.getD (data.length - 3) 0
    let frames : List (Option Frame) :=
      [if title.isEmpty then none else some (.text "TIT2" [title]),
       if artist.isEmpty then none else some (.text "TPE1" [artist]),
       if album.isEmpty then none else some (.text "TALB" [album]),
       if year.isEmpty then none
       else if version == 3 then some (.text "TYER" [year]) else some (.text "TDRC" [normalStamp year]),
       if comment.isEmpty then none else some (.comment "eng" "ID3v1 Comment" [comment]),
       if track != 0 && (track != 32 || beforeTrack == 0) then some (.text "TRCK" [toString track]) else none,
       if genre != 255 then some (.text "TCON" [toString genre]) else none]
    some (frames.filterMap id)

/-- The trailer tag at the end of a file, read for a tag version. -/
def findTrailer (file : List UInt8) (version : Nat) : Option (List Frame) :=
  let data := file.drop (file.length - 131)
  match indexOf? (ascii "TAG") data with
  | none => none
  | some idx =>
    let apeHere := match indexOf? (ascii "APETAGEX") data with
      | some a => idx == a + 3
      | none => false
    if apeHere then none else trailerFrames (data.drop idx) version

end Airwaves.Media
