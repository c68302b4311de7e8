import Airwaves.Value.Basic
/-!
# Catalog entries

Songs, albums, artists and song groups, with their fields as values and the columns read for
them in `data`.
-/
namespace Airwaves

/-- Sets a named entry of an attribute list, appending it when it is new. -/
def setNamed (entries : List (String × Value)) (name : String) (v : Value) : List (String × Value) :=
  if entries.any (·.1 == name) then entries.map fun e => if e.1 == name then (name, v) else e
  else entries ++ [(name, v)]

/-- The kinds of metadata a song can be associated with. -/
inductive MetadataRole where
  | album
  | artist
  | group
  deriving Repr, BEq, Inhabited, DecidableEq

/-- The kind name of a metadata role. -/
def MetadataRole.kindName : MetadataRole → String
  | .album => "Album"
  | .artist => "Artist"
  | .group => "SongGroup"

/-- An album, artist or song group. `sid` and `ratingPrecise` exist only once the object
has been loaded for a station. -/
structure Metadata where
  role : MetadataRole
  id : Value := .none
  isTag : Value := .bool false
  elecBlock : Value := .none
  coolTime : Value := .none
  data : Dict := Dict.ofStrings [("name", .none)]
  sid : Option Value := none
  ratingPrecise : Option Value := none
  extra : List (String × Value) := []
  deriving Inhabited

namespace Metadata

/-- A blank object of a role: albums start as tags. -/
def blank (role : MetadataRole) : Metadata :=
  { role := role, isTag := .bool (role == .album) }

/-- The fields under their client names. -/
def attributes (m : Metadata) : List (String × Value) :=
  [("id", m.id), ("is_tag", m.isTag), ("elec_block", m.elecBlock), ("cool_time", m.coolTime),
   ("data", .dict m.data)] ++
  (match m.sid with | some v => [("sid", v)] | none => []) ++
  (match m.ratingPrecise with | some v => [("rating_precise", v)] | none => []) ++ m.extra

/-- Sets a field by its client name. -/
def setAttribute (m : Metadata) (name : String) (v : Value) : Metadata :=
  match name with
  | "id" => { m with id := v }
  | "is_tag" => { m with isTag := v }
  | "elec_block" => { m with elecBlock := v }
  | "cool_time" => { m with coolTime := v }
  | "data" => { m with data := (v.entries?).getD m.data }
  | "sid" => { m with sid := some v }
  | "rating_precise" => { m with ratingPrecise := some v }
  | _ => { m with extra := setNamed m.extra name v }

/-- The name in the data mapping. -/
def name (m : Metadata) : Value := (Dict.field? m.data "name").getD .none

end Metadata

/-- A song: its file, its tags, its associated metadata (as lists of object references)
and the columns read for it. `sid` exists only once the song is loaded for a station. -/
structure Song where
  id : Value := .none
  filename : Value := .none
  albums : Value := .none
  artists : Value := .none
  groups : Value := .none
  verified : Value := .bool false
  artistTag : Value := .none
  albumTag : Value := .none
  genreTag : Value := .none
  data : Dict := Dict.ofStrings [("track_number", .none), ("disc_number", .none), ("year", .none),
    ("url", .none), ("link_text", .none), ("rating_allowed", .bool false)]
  replayGain : Value := .none
  fake : Value := .bool false
  sid : Option Value := none
  extra : List (String × Value) := []
  deriving Inhabited

namespace Song

/-- The fields under their client names. -/
def attributes (s : Song) : List (String × Value) :=
  [("id", s.id), ("filename", s.filename), ("albums", s.albums), ("artists", s.artists),
   ("groups", s.groups), ("verified", s.verified), ("artist_tag", s.artistTag),
   ("album_tag", s.albumTag), ("genre_tag", s.genreTag), ("data", .dict s.data),
   ("replay_gain", s.replayGain), ("fake", s.fake)] ++
  (match s.sid with | some v => [("sid", v)] | none => []) ++ s.extra

/-- Sets a field by its client name. -/
def setAttribute (s : Song) (name : String) (v : Value) : Song :=
  match name with
  | "id" => { s with id := v }
  | "filename" => { s with filename := v }
  | "albums" => { s with albums := v }
  | "artists" => { s with artists := v }
  | "groups" => { s with groups := v }
  | "verified" => { s with verified := v }
  | "artist_tag" => { s with artistTag := v }
  | "album_tag" => { s with albumTag := v }
  | "genre_tag" => { s with genreTag := v }
  | "data" => { s with data := (v.entries?).getD s.data }
  | "replay_gain" => { s with replayGain := v }
  | "fake" => { s with fake := v }
  | "sid" => { s with sid := some v }
  | _ => { s with extra := setNamed s.extra name v }

end Song

end Airwaves
