import Airwaves.Unicode.Digits
/-!
# Genres

Reading a genre value: a number of the trailer format's list, `CR`, `RX`, or parenthesised
references followed by a name.
-/
namespace Airwaves.Media

/-- The genre names numbered by the trailer tag format. -/
def genreNames : Array String := #[
  "Blues", "Classic Rock", "Country", "Dance", "Disco", "Funk", "Grunge", "Hip-Hop", "Jazz",
  "Metal", "New Age", "Oldies", "Other", "Pop", "R&B", "Rap", "Reggae", "Rock", "Techno",
  "Industrial", "Alternative", "Ska", "Death Metal", "Pranks", "Soundtrack", "Euro-Techno",
  "Ambient", "Trip-Hop", "Vocal", "Jazz+Funk", "Fusion", "Trance", "Classical",
  "Instrumental", "Acid", "House", "Game", "Sound Clip", "Gospel", "Noise", "Alt. Rock",
  "Bass", "Soul", "Punk", "Space", "Meditative", "Instrumental Pop", "Instrumental Rock",
  "Ethnic", "Gothic", "Darkwave", "Techno-Industrial", "Electronic", "Pop-Folk",
  "Eurodance", "Dream", "Southern Rock", "Comedy", "Cult", "Gangsta Rap", "Top 40",
  "Christian Rap", "Pop/Funk", "Jungle", "Native American", "Cabaret", "New Wave",
  "Psychedelic", "Rave", "Showtunes", "Trailer", "Lo-Fi", "Tribal", "Acid Punk",
  "Acid Jazz", "Polka", "Retro", "Musical", "Rock & Roll", "Hard Rock", "Folk", "Folk-Rock",
  "National Folk", "Swing", "Fast-Fusion", "Bebop", "Latin", "Revival", "Celtic",
  "Bluegrass", "Avantgarde", "Gothic Rock", "Progressive Rock", "Psychedelic Rock",
  "Symphonic Rock", "Slow Rock", "Big Band", "Chorus", "Easy Listening", "Acoustic",
  "Humour", "Speech", "Chanson", "Opera", "Chamber Music", "Sonata", "Symphony",
  "Booty Bass", "Primus", "Porn Groove", "Satire", "Slow Jam", "Club", "Tango", "Samba",
  "Folklore", "Ballad", "Power Ballad", "Rhythmic Soul", "Freestyle", "Duet", "Punk Rock",
  "Drum Solo", "A Cappella", "Euro-House", "Dance Hall", "Goa", "Drum & Bass",
  "Club-House", "Hardcore", "Terror", "Indie", "BritPop", "Afro-Punk", "Polsk Punk", "Beat",
  "Christian Gangsta Rap", "Heavy Metal", "Black Metal", "Crossover",
  "Contemporary Christian", "Christian Rock", "Merengue", "Salsa", "Thrash Metal", "Anime",
  "JPop", "Synthpop", "Abstract", "Art Rock", "Baroque", "Bhangra", "Big Beat", "Breakbeat",
  "Chillout", "Downtempo", "Dub", "EBM", "Eclectic", "Electro", "Electroclash", "Emo",
  "Experimental", "Garage", "Global", "IDM", "Illbient", "Industro-Goth", "Jam Band",
  "Krautrock", "Leftfield", "Lounge", "Math Rock", "New Romantic", "Nu-Breakz", "Post-Punk",
  "Post-Rock", "Psytrance", "Shoegaze", "Space Rock", "Trop Rock", "World Music",
  "Neoclassical", "Audiobook", "Audio Theatre", "Neue Deutsche Welle", "Podcast",
  "Indie Rock", "G-Funk", "Dubstep", "Garage Rock", "Psybient"]

/-- Whether a text is a nonempty run of ASCII digits. -/
def isAsciiDigits (s : String) : Bool := !s.isEmpty && s.all Char.isDigit

/-- The genre a parenthesised reference names. -/
def genreOfRef (r : String) : String :=
  if isAsciiDigits r then (genreNames[r.toNat!]?).getD "Unknown"
  else if r == "CR" then "Cover"
  else if r == "RX" then "Remix"
  else "Unknown"

/-- Reads the leading parenthesised references of a genre text: the references and the
text after them. -/
def genreRefs : Nat → List Char → List String × List Char
  | 0, cs => ([], cs)
  | fuel + 1, cs =>
    match cs with
    | '(' :: rest =>
      let inner := rest.takeWhile (· != ')')
      let after := rest.drop (inner.length + 1)
      let innerText := String.ofList inner
      let closed := inner.length < rest.length
      if closed && (isAsciiDigits innerText || innerText == "CR" || innerText == "RX") then
        let (more, tail) := genreRefs fuel after
        (innerText :: more, tail)
      else ([], cs)
    | _ => ([], cs)

/-- The genres of a text of references and a name. -/
def referencedGenres (value : String) : List String :=
  let (refs, rest) := genreRefs value.length value.toList
  let named := refs.map genreOfRef
  let restLine := rest.takeWhile (· != '\n')
  let name := String.ofList (match restLine with
    | '(' :: '(' :: more => '(' :: more
    | other => other)
  if restLine.isEmpty || named.contains name then named else named ++ [name]

/-- The genres a genre value names; the error is a value of digits that is not a
number. -/
def genresOf (value : String) : Except String (List String) :=
  let number? : Option (Option Nat) :=
    if Unicode.isDigits value then some (Unicode.decimalNumber? value.toList) else none
  match number? with
  | some none => .error value
  | some (some n) =>
    if n < 256 then .ok [(genreNames[n]?).getD "Unknown"] else .ok (referencedGenres value)
  | none =>
    if value == "CR" then .ok ["Cover"]
    else if value == "RX" then .ok ["Remix"]
    else if value.isEmpty then .ok []
    else .ok (referencedGenres value)

end Airwaves.Media
