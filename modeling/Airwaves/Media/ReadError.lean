/-!
# Why a song file cannot be read

Reading a song file stops at the first of these faults: in the tag's header, in the tag's
body, in bringing the tag to the newest version, or in finding the audio stream.
-/
namespace Airwaves.Media

/-- Why a song file could not be read. -/
inductive ReadError where
  /-- The leading tag is of a version that cannot be read, and no trailer tag stands in. -/
  | unsupportedVersion (major : Nat)
  /-- A size byte of the tag header has its top bit set. -/
  | sizeNotSynchsafe
  /-- The tag header sets flags its version does not define. -/
  | invalidFlags (flags : Nat)
  /-- A size byte of a version 4 extended header has its top bit set. -/
  | extendedSizeNotSynchsafe
  /-- A version 4 extended header is smaller than its own size field. -/
  | negativeSize
  /-- The file ends inside the tag. -/
  | truncated
  /-- A compressed version 3 frame is too short to hold its size. -/
  | compressedSizeMissing
  /-- A genre value of digits is not a number. -/
  | badGenre (value : String)
  /-- The encoder version of a VBR header holds a byte outside ASCII: the byte and its
  position in the version text. -/
  | versionNotAscii (byte position : Nat)
  /-- No audio stream was found. -/
  | noStream
  deriving Inhabited, Repr, BEq

end Airwaves.Media
