import Airwaves.Config.Basic
import Airwaves.Schedule.Basic
import Airwaves.Clock.Civil
import Airwaves.Unicode.Case
/-!
# Argument kinds

Each argument is read through a kind, which gives the value the request works with, or `none`
when the argument is not acceptable.
-/
namespace Airwaves.Fields

/-- Whether a value counts as a number: a whole number, a double or a boolean. -/
def isNumber : Value → Bool
  | .int _ | .float _ | .bool _ => true
  | _ => false

/-- An ASCII decimal digit. -/
def isDigit (c : Char) : Bool := '0' ≤ c && c ≤ '9'

/-- An ASCII word character: a letter, a digit or an underscore. -/
def isWord (c : Char) : Bool :=
  isDigit c || ('a' ≤ c && c ≤ 'z') || ('A' ≤ c && c ≤ 'Z') || c == '_'

/-- The characters before a line end that may close a pattern anchored at the end: the
end of the text, or a single final newline. -/
def body (cs : List Char) : List Char :=
  if cs.getLast? == some '\n' then cs.dropLast else cs

/-- Whether the text is an optional minus sign and at least one digit, with an optional
final newline. -/
def isWholeText (s : String) : Bool :=
  let cs := body s.toList
  let digits := match cs with
    | '-' :: r => r
    | r => r
  !digits.isEmpty && digits.all isDigit

/-- Whether the text is an optional minus sign and digits, optionally followed by any one
character other than a newline and more digits, with an optional final newline. -/
def isNumericText (s : String) : Bool :=
  let cs := body s.toList
  let rest := match cs with
    | '-' :: r => r
    | r => r
  let lead := rest.takeWhile isDigit
  let after := rest.drop lead.length
  !lead.isEmpty &&
    match after with
    | [] => true
    | c :: tail => c != '\n' && !tail.isEmpty && tail.all isDigit

/-- Whether the text is comma separated runs of digits, with an optional final newline. -/
def isIntegerListText (s : String) : Bool :=
  ((body s.toList).splitOn ',').all fun p => !p.isEmpty && p.all isDigit

/-- Text stripped of blanks at both ends. -/
def stripped (s : String) : String := Value.strip s

/-- `in_string`: non-empty text, stripped. -/
def text (v : Value) : Value :=
  match v with
  | .str s => if s.isEmpty then .none else .str (stripped s)
  | _ => .none

/-- A number as it is, or text of digits with an optional fraction, kept as text. -/
def numeric (v : Value) : Value :=
  if isNumber v then v
  else match v with
    | .str s => if !s.isEmpty && isNumericText s then v else .none
    | _ => .none

/-- A number as it is, or text of digits read as a whole number. -/
def integer (v : Value) : Value :=
  if isNumber v then v
  else match v with
    | .str s =>
      if !s.isEmpty && isWholeText s then
        match Value.parseInt? s with
        | some n => .int n
        | Option.none => .none
      else .none
    | _ => .none

/-- A whole number that names a row: `none` when it is missing or zero, or when the
database counts no such row. -/
def existingRow (v : Value) : Act Value := do
  let n := integer v
  if !n.truthy then return .none
  let count ← fetchVar [n]
  if Value.equals count (.int 0) then return .none
  return n

/-- A field of the object a request value refers to. -/
def requestField (request : Value) (name : String) : Act Value := do
  match request with
  | .ref h =>
    match (← deref h).attribute? name with
    | some x => return x
    | Option.none => noMember request name
  | _ => noMember request name

/-- A song id that is on the request's station. -/
def songIdOnStation (v request : Value) : Act Value := do
  let n := integer v
  if !n.truthy || !request.truthy then return .none
  let count ← fetchVar [n, ← requestField request "sid"]
  if Value.equals count (.int 0) then return .none
  return n

/-- A whole number above zero. -/
def positiveInteger (v : Value) : Value :=
  let n := integer v
  if !n.truthy then .none
  else if Value.lessEq n (.int 0) then .none
  else n

/-- A whole number of zero or more. -/
def zeroOrGreaterInteger (v : Value) : Value :=
  let n := integer v
  if Value.equals n .none then .none
  else if Value.less n (.int 0) then .none
  else n

/-- A non-zero number read as a double. -/
def floatNum (v : Value) : Except Fault Value :=
  let n := numeric v
  if !n.truthy then .ok .none else Value.toFloat v

/-- A non-zero number read as a whole number. -/
def longNum (v : Value) : Except Fault Value :=
  let n := numeric v
  if !n.truthy then .ok .none else Value.toInt n

/-- A rating: from one to five in steps of one half. -/
def rating (v : Value) : Except Fault Value := do
  let r ← floatNum v
  if !r.truthy then return .none
  if Value.less r (.int 1) || Value.greater r (.int 5) then return .none
  let tenfold ← Value.mul r (.int 10)
  let rest ← Value.mod tenfold (.int 5)
  if !Value.equals rest (.int 0) then return .none
  return r

/-- `true` or `false`, as booleans or as the texts "true" and "false". -/
def boolean (v : Value) : Value :=
  if Value.equals v (.bool true) then .bool true
  else if Value.equals v (.bool false) then .bool false
  else if !v.truthy then .none
  else if Value.equals v (.str "true") then .bool true
  else if Value.equals v (.str "false") then .bool false
  else .none

/-- A positive user id that the database knows. -/
def userId (v : Value) : Act Value := do
  let u := positiveInteger v
  if !u.truthy then return .none
  if !(← fetchVar [u]).truthy then return .none
  return u

/-- The name of the relay whose address is the argument. -/
def validRelay (v : Value) : Act Value := do
  if !v.truthy then return .none
  let relays ← Config.get "relays"
  let entries ← match relays with
    | .dict es => pure es
    | _ => noMember relays "iteritems"
  for (name, relay) in entries do
    let address ← match relay with
      | .dict d =>
        match Dict.field? d "ip_address" with
        | some a => pure a
        | Option.none => Act.raise (.missingKey (.str "ip_address"))
      | _ => Act.raise (.typeError ("'" ++ relay.kindName ++ "' object is not subscriptable"))
    if Value.equals address v then return name
  return .none

/-- A station id of the configuration. -/
def station (v request : Value) : Act Value := do
  let n := zeroOrGreaterInteger v
  if !n.truthy then return .none
  if request.truthy then
    if (← requestField request "allow_sid_zero").truthy && Value.equals n (.int 0) then
      return n
  if (← Config.stationIdList).any (Value.equals · n) then return n
  return .none

/-- Whether a value is a whole number; a boolean is one. -/
def isInteger : Value → Bool
  | .int _ | .bool _ => true
  | _ => false

/-- A list of whole numbers, given as a list or as comma separated digits. -/
def integerList (v : Value) : Except Fault Value :=
  match v with
  | .list xs => .ok (if xs.all isInteger then v else .none)
  | _ =>
    if !v.truthy then .ok .none
    else match v with
      | .str s =>
        if isIntegerListText s then
          .ok (.list ((s.toList.splitOn ',').map fun p => .int ((Value.parseInt? (String.ofList p)).getD 0)))
        else .ok .none
      | _ => .error (.typeError ("expected string or bytes-like object, got '" ++ v.kindName ++ "'"))

/-- A list of song ids that all exist. -/
def songIdList (v : Value) : Act Value := do
  let l ← Act.lift (integerList v)
  if !l.truthy then return .none
  for songId in (l.items?).getD [] do
    if Value.equals (← fetchVar [songId]) (.int 0) then return .none
  return l

/-- An Icecast mount with an optional listener (`?user:key`) and an optional cache
breaking suffix (`?digits.mp3` or `?digits.ogg`): the mount, the user id (one when absent)
and the listen key. -/
def icecastMount (v : Value) : Except Fault Value :=
  if !v.truthy then .ok .none else
  match v with
  | .str s =>
    let isMountChar (c : Char) : Bool := isWord c || c == '-' || c == '.'
    let atEnd (cs : List Char) : Bool := cs.isEmpty || cs == ['\n']
    let suffixOk (cs : List Char) : Bool :=
      atEnd cs ||
        match cs with
        | '?' :: r =>
          let ds := r.takeWhile isDigit
          !ds.isEmpty &&
            match r.drop ds.length with
            | '.' :: ext => ext.take 3 ∈ [['m', 'p', '3'], ['o', 'g', 'g']] && atEnd (ext.drop 3)
            | _ => false
        | _ => false
    match s.toList with
    | '/' :: r =>
      let mount := r.takeWhile isMountChar
      let rest := r.drop mount.length
      if mount.isEmpty then .ok .none else
      let withUser : Option (List Char × List Char) :=
        match rest with
        | '?' :: u =>
          let ds := u.takeWhile isDigit
          match u.drop ds.length with
          | ':' :: k =>
            let key := k.takeWhile isWord
            if !ds.isEmpty && !key.isEmpty && suffixOk (k.drop key.length) then some (ds, key) else Option.none
          | _ => Option.none
        | _ => Option.none
      match withUser with
      | some (ds, key) =>
        .ok (.tuple [.str (String.ofList mount), .int ((Value.parseInt? (String.ofList ds)).getD 0),
          .str (String.ofList key)])
      | Option.none =>
        if suffixOk rest then .ok (.tuple [.str (String.ofList mount), .int 1, .none]) else .ok .none
    | _ => .ok .none
  | _ => .error (.typeError ("expected string or bytes-like object, got '" ++ v.kindName ++ "'"))

/-- Any non-empty address. -/
def ipAddress (v : Value) : Value := if v.truthy then v else .none

/-- Media players recognised by a fragment of their lower-case user agent, in the order
they are tried. -/
def players : List (List String × String) :=
  [(["firefox"], "Firefox"), (["chrome"], "Chrome"), (["safari"], "Safari"),
   (["foobar"], "Foobar2000"), (["dalvik", "android"], "Android"),
   (["stagefright", "servestream"], "Android (App)"), (["lavf"], "LAV"), (["ffmpeg"], "FFmpeg"),
   (["winamp"], "Winamp"), (["vlc", "videolan"], "VLC")]

/-- Media players tried after the Apple ones. -/
def laterPlayers : List (List String × String) :=
  [(["minecraft"], "Minecraft"), (["clementine"], "Clementine"), (["xine"], "Xine"),
   (["audacious"], "Audacious"), (["fstream"], "Fstream"), (["bass"], "BASS/XMplay"),
   (["xion"], "Xion"), (["itunes"], "iTunes"), (["muses", "fmod"], "Flash Player"),
   (["mozilla"], "Mozilla"), (["wmplayer", "nsplayer"], "Windows Media"),
   (["mediamonkey"], "MediaMonkey")]

/-- Whether a text contains a fragment. -/
def containsText (s fragment : String) : Bool := (s.splitOn fragment).length > 1

/-- The first player whose fragments appear in the agent. -/
def findPlayer (agent : String) (table : List (List String × String)) : Option String :=
  (table.find? fun entry => entry.2 != "" && entry.1.any (containsText agent ·)).map (·.2)

/-- The media player named by a user agent text. -/
def mediaPlayer (v : Value) : Act Value := do
  match v with
  | .str s =>
    let ua := Unicode.lower s
    match findPlayer ua players with
    | some p => return .str p
    | Option.none =>
      if containsText ua "applecoremedia" && containsText ua "mac os x" then return .str "iTunes (iPhone)"
      if containsText ua "applecoremedia" then return .str "iTunes (Mac OS)"
      if containsText ua "cfnetwork" && containsText ua "darwin" then return .str "iPhone (App)"
      match findPlayer ua laterPlayers with
      | some p => return .str p
      | Option.none =>
        if ua == "-" then return .str "None"
        return .str ("Unknown (" ++ s ++ ")")
  | _ => noMember v "lower"

/-- The name of a registered producer kind. -/
def producerType (v : Value) : Except Fault Value :=
  match v with
  | .list _ | .dict _ | .set _ => .error (.typeError ("unhashable type: '" ++ v.kindName ++ "'"))
  | _ =>
    if ProducerKind.registered.any fun k => Value.equals (.str k.kindName) v then .ok v else .ok .none

/-- A group id that exists; the argument is asked for even when it is not a number. -/
def groupId (v : Value) : Act Value := do
  let gid := integer v
  if Value.equals (← fetchVar [gid]) (.int 0) then return .none
  return gid

/-- Reads `YYYY-MM-DD`, where the month and day may have one digit and the day may be a
blank and one digit; the first reading of month and day that fits is taken, and then the
whole text must have been read. The year's digits, and a day's second digit after a 1 or
2, may be decimal digits of any script. -/
def readDate (s : String) : Option Civil :=
  let cs := s.toList
  let isDigit (c : Char) : Bool := (Unicode.decimalValue? c).isSome
  let num (ds : List Char) : Nat := ds.foldl (fun acc c => acc * 10 + (Unicode.decimalValue? c).getD 0) 0
  let months (r : List Char) : List (Nat × List Char) :=
    (match r with
      | '1' :: c :: t => if '0' ≤ c && c ≤ '2' then [(10 + num [c], t)] else []
      | _ => []) ++
    (match r with
      | '0' :: c :: t => if '1' ≤ c && c ≤ '9' then [(num [c], t)] else []
      | _ => []) ++
    (match r with
      | c :: t => if '1' ≤ c && c ≤ '9' then [(num [c], t)] else []
      | _ => [])
  let days (r : List Char) : List (Nat × List Char) :=
    (match r with
      | '3' :: c :: t => if c == '0' || c == '1' then [(30 + num [c], t)] else []
      | _ => []) ++
    (match r with
      | a :: c :: t => if (a == '1' || a == '2') && isDigit c then [(num [a, c], t)] else []
      | _ => []) ++
    (match r with
      | '0' :: c :: t => if '1' ≤ c && c ≤ '9' then [(num [c], t)] else []
      | _ => []) ++
    (match r with
      | c :: t => if '1' ≤ c && c ≤ '9' then [(num [c], t)] else []
      | _ => []) ++
    (match r with
      | ' ' :: c :: t => if '1' ≤ c && c ≤ '9' then [(num [c], t)] else []
      | _ => [])
  let yearDigits := cs.take 4
  if yearDigits.length != 4 || !yearDigits.all isDigit then Option.none else
  match cs.drop 4 with
  | '-' :: r =>
    let found := (months r).findSome? fun (m, t) =>
      match t with
      | '-' :: t' => (days t').head?.map fun (d, rest) => (m, d, rest)
      | _ => Option.none
    match found with
    | some (m, d, rest) =>
      let y := num yearDigits
      if !rest.isEmpty || y == 0 || d > Civil.monthLength y m then Option.none
      else some { year := y, month := m, day := d, hour := 0, minute := 0, second := 0, micro := 0 }
    | Option.none => Option.none
  | _ => Option.none

/-- A calendar date written `YYYY-MM-DD`, as midnight of that day. -/
def date (v : Value) : Value :=
  match v with
  | .str s => if s.isEmpty then .none else
    match readDate s with
    | some c => .time c.toInstant
    | Option.none => .none
  | _ => .none

/-- A calendar date as seconds since the epoch, a double. -/
def dateAsEpoch (v : Value) : Value :=
  match date v with
  | .time t => .float (Double.ofInt t.seconds)
  | _ => .none

/-- The argument kinds. -/
inductive FieldKind where
  | text
  | numeric
  | integer
  | songId
  | songIdOnStation
  | albumId
  | artistId
  | schedId
  | elecId
  | positiveInteger
  | zeroOrGreaterInteger
  | floatNum
  | longNum
  | rating
  | boolean
  | userId
  | validRelay
  | station
  | integerList
  | songIdList
  | icecastMount
  | ipAddress
  | mediaPlayer
  | producerType
  | groupId
  | date
  | dateAsEpoch
  deriving Repr, BEq, Inhabited, DecidableEq

/-- Reads an argument of a kind for a request. -/
def FieldKind.check (k : FieldKind) (v request : Value) : Act Value :=
  match k with
  | .text => pure (Fields.text v)
  | .numeric => pure (Fields.numeric v)
  | .integer => pure (Fields.integer v)
  | .songId | .albumId | .artistId | .schedId | .elecId => existingRow v
  | .songIdOnStation => Fields.songIdOnStation v request
  | .positiveInteger => pure (Fields.positiveInteger v)
  | .zeroOrGreaterInteger => pure (Fields.zeroOrGreaterInteger v)
  | .floatNum => Act.lift (Fields.floatNum v)
  | .longNum => Act.lift (Fields.longNum v)
  | .rating => Act.lift (Fields.rating v)
  | .boolean => pure (Fields.boolean v)
  | .userId => Fields.userId v
  | .validRelay => Fields.validRelay v
  | .station => Fields.station v request
  | .integerList => Act.lift (Fields.integerList v)
  | .songIdList => Fields.songIdList v
  | .icecastMount => Act.lift (Fields.icecastMount v)
  | .ipAddress => pure (Fields.ipAddress v)
  | .mediaPlayer => Fields.mediaPlayer v
  | .producerType => Act.lift (Fields.producerType v)
  | .groupId => Fields.groupId v
  | .date => pure (Fields.date v)
  | .dateAsEpoch => pure (Fields.dateAsEpoch v)

/-- The text that follows an argument's name when the argument is not acceptable;
`none` for the kinds that have none. -/
def FieldKind.errorText : FieldKind → Option String
  | .text => some "must be a string."
  | .numeric | .integer | .floatNum | .longNum => some "must be a number."
  | .songId => some "must be a valid song ID."
  | .songIdOnStation => some "must be a valid song ID that exists on the requested station ID."
  | .albumId => some "must be a valid album ID."
  | .artistId => some "must be a valid artist ID."
  | .schedId => some "must be a valid schedule ID."
  | .elecId => some "must be a valid election ID."
  | .positiveInteger => some "must be a positive number."
  | .zeroOrGreaterInteger => some "must be positive number or zero."
  | .rating => some "must >= 1.0 and <= 5.0 in increments of\t0.5."
  | .boolean => some "must be 'true' or 'false'."
  | .userId => some "must be a valid user ID."
  | .validRelay => some "must be a known and valid relay's IP address."
  | .station => some "must be a valid station ID."
  | .integerList => some "must be a comma-separated list of integers."
  | .songIdList => some "must be a comma-separated list of valid song IDs."
  | .icecastMount => some "invalid Icecast origin."
  | .ipAddress => some "invalid IP address."
  | .mediaPlayer | .producerType => Option.none
  | .groupId => some "must be a valid group ID."
  | .date | .dateAsEpoch => some "must be valid ISO 8601 date. (YYYY-MM-DD)"

/-- The error text as a value. -/
def FieldKind.errorValue (k : FieldKind) : Value :=
  match k.errorText with
  | some s => .str s
  | Option.none => .none

end Airwaves.Fields
