import Airwaves.Media.Bytes
import Airwaves.Media.FrameId
/-!
# Tag frames

Text, described text, comment and link frames, kept one per key, shown as text and written in
the encoding of the tag version.
-/
namespace Airwaves.Media

/-- A frame of a tag. -/
inductive Frame where
  /-- A text frame and its values. -/
  | text (id : String) (values : List String)
  /-- A described text frame (`TXXX`). -/
  | userText (desc : String) (values : List String)
  /-- A comment (`COMM`): language, description and values. -/
  | comment (lang desc : String) (values : List String)
  /-- A described link (`WXXX`). -/
  | userLink (desc url : String)
  /-- Any other frame, with its body. -/
  | other (id : String) (body : List UInt8)
  deriving Inhabited, BEq

namespace Frame

/-- The frame id. -/
def id : Frame → String
  | .text i _ => i
  | .userText _ _ => "TXXX"
  | .comment _ _ _ => "COMM"
  | .userLink _ _ => "WXXX"
  | .other i _ => i

/-- The key a tag keeps the frame under. -/
def key : Frame → String
  | .text i _ => i
  | .userText d _ => "TXXX:" ++ d
  | .comment l d _ => "COMM:" ++ d ++ ":" ++ l
  | .userLink d _ => "WXXX:" ++ d
  | .other i _ => i

/-- The frame's text: its values joined by NUL characters (by commas for timestamps), or a
link's address. -/
def shown : Frame → String
  | .text i vs => (if isStampId i then "," else "\x00").intercalate vs
  | .userText _ vs | .comment _ _ vs => "\x00".intercalate vs
  | .userLink _ url => url
  | .other _ _ => ""

/-- Whether the frame holds text values. -/
def isText : Frame → Bool
  | .text _ _ | .userText _ _ | .comment _ _ _ => true
  | _ => false

/-- The frame's text values. -/
def values : Frame → List String
  | .text _ vs | .userText _ vs | .comment _ _ vs => vs
  | _ => []

/-- The frame with other text values. -/
def withValues (f : Frame) (vs : List String) : Frame :=
  match f with
  | .text i _ => .text i vs
  | .userText d _ => .userText d vs
  | .comment l d _ => .comment l d vs
  | g => g

end Frame

/-! ## Writing frames -/

/-- The frame ids written before the others, most important first. -/
def importantIds : List String := ["TIT2", "TPE1", "TRCK", "TALB", "TPOS", "TDRC", "TCON"]

/-- A text in the encoding a version writes: UTF-8 from version 4 on, UTF-16 with a
byte-order mark before it. -/
def encodeText (version : Nat) (s : String) : List UInt8 :=
  if version ≥ 4 then utf8 s else utf16 s

/-- The terminator of a text in the encoding a version writes. -/
def terminator (version : Nat) : List UInt8 := if version ≥ 4 then [0] else [0, 0]

/-- Values in the encoding a version writes, each ended by a terminator from version 4
on, joined by a slash and ended once before it. -/
def encodeValues (version : Nat) (vs : List String) : List UInt8 :=
  if version ≥ 4 then vs.flatMap fun v => encodeText version v ++ terminator version
  else encodeText version ("/".intercalate vs) ++ terminator version

/-- The body of a frame as a version writes it. -/
def Frame.body (version : Nat) : Frame → List UInt8
  | .text _ vs => [if version ≥ 4 then 3 else 1] ++ encodeValues version vs
  | .userText d vs =>
    [if version ≥ 4 then 3 else 1] ++ encodeText version d ++ terminator version ++ encodeValues version vs
  | .comment l d vs =>
    [if version ≥ 4 then 3 else 1] ++ ascii l ++ encodeText version d ++ terminator version ++
      encodeValues version vs
  | .userLink d url =>
    [if version ≥ 4 then 3 else 1] ++ encodeText version d ++ terminator version ++ ascii url ++ [0]
  | .other _ b => b

/-- A frame with its header as a version writes it. -/
def Frame.encode (version : Nat) (f : Frame) : List UInt8 :=
  let b := f.body version
  let size := if version ≥ 4 then toSynchsafe 4 b.length else toBigEndian 4 b.length
  ascii f.id ++ size ++ [0, 0] ++ b

end Airwaves.Media
