import Airwaves.Media.Frame
import Airwaves.Number.Double
/-!
# Tags

A tag is its frames by key, in the order the keys were first added; a song file, as an MP3
reader gives it, is its tag and the length of its audio.
-/
namespace Airwaves.Media

/-- A tag: its version (2, 3 or 4, or 1 for a trailer tag alone) and its frames by key in
the order they were added. -/
structure Tag where
  version : Nat := 4
  frames : List (String × Frame) := []
  deriving Inhabited

namespace Tag

/-- The frame a frame under the same key becomes when another is added: a text frame
takes in the new values it does not hold, any other frame is replaced. -/
def merge (old new : Frame) : Frame :=
  if old.isText && new.isText then
    old.withValues (new.values.foldl (fun acc v => if acc.contains v then acc else acc ++ [v]) old.values)
  else new

/-- Adds a frame, merging it with the frame under its key. -/
def add (t : Tag) (f : Frame) : Tag :=
  match t.frames.lookup f.key with
  | some old =>
    { t with frames := t.frames.map fun (k, g) => if k == f.key then (k, merge old f) else (k, g) }
  | none => { t with frames := t.frames ++ [(f.key, f)] }

/-- Sets the frame under its key. -/
def put (t : Tag) (f : Frame) : Tag :=
  if t.frames.any (·.1 == f.key) then
    { t with frames := t.frames.map fun (k, g) => if k == f.key then (k, f) else (k, g) }
  else { t with frames := t.frames ++ [(f.key, f)] }

/-- Removes the frame under a key. -/
def erase (t : Tag) (key : String) : Tag := { t with frames := t.frames.filter (·.1 != key) }

/-- Whether a frame is kept under a key. -/
def has (t : Tag) (key : String) : Bool := t.frames.any (·.1 == key)

/-- The frames under a key: the frame kept under exactly that key, or else every frame
whose key extends it, in the order they were added. -/
def getAll (t : Tag) (key : String) : List Frame :=
  match t.frames.lookup key with
  | some f => [f]
  | none =>
    let pre := key ++ ":"
    (t.frames.filter fun (k, _) => pre.isPrefixOf k).map (·.2)

/-- Whether the tag has any frame. -/
def isEmpty (t : Tag) : Bool := t.frames.isEmpty

/-- Adds the frames whose keys the tag has no frames under. -/
def fillFrom (t : Tag) (extra : List Frame) : Tag :=
  extra.foldl (fun acc f => if (acc.getAll f.key).isEmpty then acc.add f else acc) t

/-- The values of the frame under a key, or none. -/
def valuesAt (t : Tag) (key : String) : List String :=
  match t.frames.lookup key with
  | some f => f.values
  | none => []

end Tag

/-- What reading a song file finds: its tag, if any, and its length in seconds. -/
structure SongFile where
  tag : Option Tag
  length : Double
  deriving Inhabited

end Airwaves.Media
