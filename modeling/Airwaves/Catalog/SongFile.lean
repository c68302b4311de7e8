import Airwaves.Catalog.Song
import Airwaves.Api.Fields
import Airwaves.Unicode.Case
/-!
# Songs from files

A song's fields from its file's tag and its length from the file's audio, as the MP3 reader of
the world's libraries finds them.
-/
namespace Airwaves.Songs

open Catalog Media

/-- The failure of a file that cannot be a song. -/
def scanFault (filename : String) (what : String) : Fault :=
  .of .passableScan ("Song filename \"" ++ filename ++ "\" " ++ what)

/-- The failure a song file's read error raises for a file of a name. -/
def readFault (name : Value) : ReadError → Fault
  | .unsupportedVersion major =>
    .of .unsupportedTagVersion (name.quote ++ " ID3v2." ++ toString major ++ " not supported")
  | .sizeNotSynchsafe => .of .tagFormat "Header size not synchsafe"
  | .invalidFlags flags => .of .tagFormat (name.quote ++ " has invalid flags 0x" ++ Value.hexPad 1 flags)
  | .extendedSizeNotSynchsafe => .of .tagFormat "Header extended size not synchsafe"
  | .negativeSize => .of .valueError "size must not be negative"
  | .truncated => .of .tagFormat ""
  | .compressedSizeMissing => .of .tagFormat "unpack requires a buffer of 4 bytes"
  | .badGenre value =>
    .of .valueError ("invalid literal for int() with base 10: " ++ String.ofList ((Value.str value).quote.toList.take 200))
  | .versionNotAscii byte position =>
    .of .unicodeDecode ("'ascii' codec can't decode byte 0x" ++ Value.hexPad 2 byte ++ " in position " ++
      toString position ++ ": ordinal not in range(128)")
  | .noStream => .of .headerNotFound "can't sync to MPEG frame"

/-- Reads a stored file as a song file. -/
def readSongFile (name : Value) : Act SongFile := do
  let n ← match name with
    | .str n => pure n
    | _ => Act.raise (.typeError ("expected str, bytes or os.PathLike object, not " ++ name.kindName))
  match (← get).files.lookup n with
  | none => Act.raise (.of .mediaUnreadable ("[Errno 2] No such file or directory: " ++ name.quote))
  | some f =>
    match (← get).libraries.readMp3 f.bytes with
    | .ok sf => return sf
    | .error e => Act.raise (readFault name e)

/-- The text of the first frame under a key, if there is a frame. -/
def firstText (t : Tag) (key : String) : Option String := (t.getAll key).head?.map Frame.shown

/-- The replay gain a tag gives: the text of the last described text frame whose
description is the track gain's, ignoring case. -/
def replayGainOf (t : Tag) : Value :=
  let matches_ := (t.getAll "TXXX").filter fun f =>
    match f with
    | .userText d _ => Unicode.lower d == "replaygain_track_gain"
    | _ => false
  match matches_.getLast? with
  | some f => .str f.shown
  | none => .none

/-- Reads a song's fields from the tag and audio of a file. -/
def loadTags (v filename : Value) : Act Unit := do
  let file ← readSongFile filename
  changeSong v fun s => { s with filename := filename }
  let name := match filename with
    | .str n => n
    | other => other.display
  let tag ← match file.tag with
    | some t => if t.isEmpty then Act.raise (scanFault name "has no tags.") else pure t
    | none => Act.raise (scanFault name "has no tags.")
  let title := (firstText tag "TIT2").getD ""
  if title.isEmpty then Act.raise (scanFault name "has no title tag.")
  setData v "title" (.str (Value.strip title))
  let artist := (firstText tag "TPE1").getD ""
  if artist.isEmpty then Act.raise (scanFault name "has no artist tag.")
  changeSong v fun s => { s with artistTag := .str artist }
  let album := Value.strip ((firstText tag "TALB").getD "")
  if album.isEmpty then Act.raise (scanFault name "has no album tag.")
  changeSong v fun s => { s with albumTag := .str album }
  if (← Config.get "scanner_use_tracknumbers").truthy then
    if let some t := firstText tag "TRCK" then setData v "track_number" (Fields.integer (.str t))
    if let some t := firstText tag "TPOS" then setData v "disc_number" (Fields.integer (.str t))
  if let some t := firstText tag "TCON" then
    unless t.isEmpty do changeSong v fun s => { s with genreTag := .str t }
  if let some t := firstText tag "COMM" then
    unless t.isEmpty do setData v "link_text" (.str (Value.strip t))
  match firstText tag "WXXX" with
  | some t => setData v "url" (if t.isEmpty then .none else .str (Value.strip t))
  | none => setData v "url" .none
  if let some t := firstText tag "TYER" then setData v "year" (Fields.integer (.str t))
  if let some t := firstText tag "TDRC" then
    if (← dataOf (← songOf v) "year").isNone then setData v "year" (Fields.integer (.str t))
  let gain := replayGainOf tag
  changeSong v fun s => { s with replayGain := gain }
  if !gain.truthy then
    if (← Config.get "mp3gain_scan").truthy then
      Act.raise (.typeError "expected str, bytes or os.PathLike object, not NoneType")
  match Value.floatToInt? file.length with
  | some n => setData v "length" (.int n)
  | none => setData v "length" (.int 0)

/-- Whether a song's file exists (a made-up song counts as existing while testing); the
song is verified when it does. -/
def isValid (v : Value) : Act Bool := do
  let s ← songOf v
  if (← get).config.testMode.truthy && s.fake.truthy then
    changeSong v fun s => { s with verified := .bool true }
    return true
  let exists_ ← match s.filename with
    | .str n => pure ((← get).files.lookup n).isSome
    | other => Act.raise (.typeError ("stat: path should be string, bytes, os.PathLike or integer, not " ++
        other.kindName))
  changeSong v fun s => { s with verified := .bool exists_ }
  return exists_

/-- Associates the artists a tag names with a song, numbered from zero in the order the tag
gives them. -/
def associateTagArtists (artists : List Value) (songId : Value) : Act Unit := do
  let mut i : Int := 0
  for m in artists do
    associate m songId .none (.int i)
    i := i + 1

/-- Loads the song of a file onto stations: the known song of that file (dropping its
artists and groups that came from the tag) or a new song, with its fields read from the
file, saved, and associated with the artists, groups and album the tag names. -/
def loadFromFile (filename sids : Value) : Act Value := do
  let mut keptArtists : List Value := []
  let mut keptGroups : List Value := []
  let matched ← fetchRow [filename]
  let v ← if matched.truthy then do
      let v ← loadFromId (← col matched "song_id") .none
      let s ← songOf v
      for m in ← itemsOf s.artists do
        match ← Act.attempt (do
            if (← metadataOf m).isTag.truthy then disassociate m s.id; return false
            else return true) with
        | .ok true => keptArtists := keptArtists ++ [m]
        | .ok false => pure ()
        | .error f => unless f.isKind .metadataUpdate do Act.raise f
      for m in ← itemsOf s.groups do
        match ← Act.attempt (do
            if (← metadataOf m).isTag.truthy then disassociate m s.id; return false
            else return true) with
        | .ok true => keptGroups := keptGroups ++ [m]
        | .ok false => pure ()
        | .error f => unless f.isKind .metadataUpdate do Act.raise f
      pure v
    else do
      if (← lengthOf sids) == 0 then Act.raise (.raised .songHasNoSids [])
      fresh
  loadTags v filename
  save v sids
  let s ← songOf v
  let newArtists ← itemsOf (← loadListFromTag .artist s.artistTag)
  let newGroups ← itemsOf (← loadListFromTag .group s.genreTag)
  associateTagArtists newArtists s.id
  for m in newGroups do
    associate m s.id .none .none
  changeSong v fun s => { s with artists := .list (newArtists ++ keptArtists),
                                 groups := .list (newGroups ++ keptGroups) }
  let album ← loadFromName .album (← songOf v).albumTag
  changeSong v fun s => { s with albums := .list [album] }
  associate album s.id .none .none
  updateArtistParseable v
  return v

/-- Loads the song of a file that is gone, if the file had one. -/
def loadFromDeletedFile (filename : Value) : Act Value := do
  let matched ← fetchRow [filename]
  if matched.truthy && hasField matched "song_id" then loadFromId (← col matched "song_id") .none
  else return .none

/-- Makes up a song on a station, while testing only: its title, artist and album are
numbered by the next ids of their tables, and it lasts a minute. -/
def createFake (sid : Value) : Act Value := do
  if !(← get).config.testMode.truthy then
    Act.raise (.general "Tried to create a fake song when not in test mode.")
  let v ← fresh
  changeSong v fun s => { s with filename := .str "fake.mp3" }
  let songNo ← nextId "r4_songs" "song_id"
  setData v "title" (.str ("Test Song " ++ toString songNo))
  let artistNo ← nextId "r4_artists" "artist_id"
  changeSong v fun s => { s with artistTag := .str ("Test Artist " ++ toString artistNo) }
  let albumNo ← nextId "r4_albums" "album_id"
  changeSong v fun s => { s with albumTag := .str ("Test Album " ++ toString albumNo), fake := .bool true }
  setData v "length" (.int 60)
  save v (.list [sid])
  return v

end Airwaves.Songs
