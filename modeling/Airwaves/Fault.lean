import Airwaves.Value.Text
/-!
# Faults

A refusal addressed to an API client, or a failure of a given kind; its message is written in
one place, `Fault.message`.
-/
namespace Airwaves

/-- The kinds of failure, named as the service's clients see them. -/
inductive FaultKind where
  | typeError
  | attributeError
  | keyError
  | valueError
  | indexError
  | unboundLocal
  | zeroDivision
  | runtime
  | general
  | jsonDecode
  | notImplemented
  | metadataInsertion
  | metadataUpdate
  | metadataNotNamed
  | metadataNotFound
  | passableScan
  | songHasNoSids
  | songNonExistent
  | songMetadataUnremovable
  | invalidElectionId
  | electionDoesNotExist
  | electionEmpty
  | invalidScheduleId
  | invalidScheduleType
  | eventAlreadyUsed
  | headerNotFound
  | scheduleIsEmpty
  | unsupportedTagVersion
  | mediaUnreadable
  | fileNotFound
  | overflow
  | osError
  | tagFormat
  | unicodeDecode
  deriving Repr, BEq, Inhabited, DecidableEq

/-- The name a kind of failure is reported under. -/
def FaultKind.name : FaultKind → String
  | .typeError => "TypeError"
  | .attributeError => "AttributeError"
  | .keyError => "KeyError"
  | .valueError => "ValueError"
  | .indexError => "IndexError"
  | .unboundLocal => "UnboundLocalError"
  | .zeroDivision => "ZeroDivisionError"
  | .runtime => "RuntimeError"
  | .general => "Exception"
  | .jsonDecode => "JSONDecodeError"
  | .notImplemented => "NotImplementedError"
  | .metadataInsertion => "MetadataInsertionError"
  | .metadataUpdate => "MetadataUpdateError"
  | .metadataNotNamed => "MetadataNotNamedError"
  | .metadataNotFound => "MetadataNotFoundError"
  | .passableScan => "PassableScanError"
  | .songHasNoSids => "SongHasNoSIDsException"
  | .songNonExistent => "SongNonExistent"
  | .songMetadataUnremovable => "SongMetadataUnremovable"
  | .invalidElectionId => "InvalidElectionID"
  | .electionDoesNotExist => "ElectionDoesNotExist"
  | .electionEmpty => "ElectionEmptyException"
  | .invalidScheduleId => "InvalidScheduleID"
  | .invalidScheduleType => "InvalidScheduleType"
  | .eventAlreadyUsed => "EventAlreadyUsed"
  | .headerNotFound => "HeaderNotFoundError"
  | .scheduleIsEmpty => "ScheduleIsEmpty"
  | .unsupportedTagVersion => "ID3UnsupportedVersionError"
  | .mediaUnreadable => "MutagenError"
  | .fileNotFound => "FileNotFoundError"
  | .overflow => "OverflowError"
  | .osError => "OSError"
  | .tagFormat => "error"
  | .unicodeDecode => "UnicodeDecodeError"

/-- All kinds, for looking one up by name. -/
def FaultKind.all : List FaultKind :=
  [.typeError, .attributeError, .keyError, .valueError, .indexError, .unboundLocal,
   .zeroDivision, .runtime, .general, .jsonDecode, .notImplemented, .metadataInsertion,
   .metadataUpdate, .metadataNotNamed, .metadataNotFound, .passableScan, .songHasNoSids,
   .songNonExistent, .songMetadataUnremovable, .invalidElectionId, .electionDoesNotExist,
   .electionEmpty, .invalidScheduleId, .invalidScheduleType, .eventAlreadyUsed,
   .headerNotFound, .scheduleIsEmpty, .unsupportedTagVersion, .mediaUnreadable, .fileNotFound,
   .overflow, .osError, .tagFormat, .unicodeDecode]

/-- The kind reported under a name. -/
def FaultKind.ofName? (name : String) : Option FaultKind := FaultKind.all.find? (·.name == name)

/-- Whether the message of this kind is the quoted form of its single argument. -/
def FaultKind.quotesArgument : FaultKind → Bool
  | .keyError | .metadataInsertion | .metadataUpdate | .metadataNotNamed
  | .metadataNotFound => true
  | _ => false

/-- A refusal addressed to an API client. `text` is the explicit text given when it was
raised; `reason` starts as that text and is filled in by translation. -/
structure ApiError where
  tlKey : String
  text : Option String := none
  httpCode : Nat := 200
  extra : Dict := []
  reason : Option String := none
  deriving Inhabited, Repr

/-- A failure: an API refusal, a bare HTTP status, or a kind with arguments. -/
inductive Fault where
  | api (e : ApiError)
  | http (code : Nat)
  | raised (kind : FaultKind) (args : List Value)
  deriving Inhabited, Repr

/-- The standard phrase of an HTTP status. -/
def httpPhrase : Nat → String
  | 200 => "OK"
  | 201 => "Created"
  | 204 => "No Content"
  | 301 => "Moved Permanently"
  | 302 => "Found"
  | 304 => "Not Modified"
  | 400 => "Bad Request"
  | 401 => "Unauthorized"
  | 403 => "Forbidden"
  | 404 => "Not Found"
  | 405 => "Method Not Allowed"
  | 500 => "Internal Server Error"
  | 502 => "Bad Gateway"
  | 503 => "Service Unavailable"
  | _ => "Unknown"

/-- An API refusal with a translation key and status. -/
def ApiError.make (tlKey : String) (httpCode : Nat := 200) (extra : Dict := [])
    (text : Option String := none) : ApiError :=
  { tlKey := tlKey, text := text, httpCode := httpCode, extra := extra, reason := text }

namespace Fault

/-- A failure of a kind with one text argument. -/
def of (kind : FaultKind) (message : String) : Fault := .raised kind [.str message]

/-- The message of a failure: the status line for HTTP refusals, the quoted key for a
missing key, and otherwise the display text of the argument (or of all arguments as a
tuple). -/
def message : Fault → String
  | .api e =>
    let base := "HTTP " ++ toString e.httpCode ++ ": " ++
      (match e.reason with
       | some r => if r.isEmpty then httpPhrase e.httpCode else r
       | none => httpPhrase e.httpCode)
    match e.text with
    | some t => if t.isEmpty then base else base ++ " (" ++ t ++ ")"
    | none => base
  | .http code => "HTTP " ++ toString code ++ ": " ++ httpPhrase code
  | .raised kind args =>
    match args with
    | [] => ""
    | [a] => if kind.quotesArgument then a.quote else a.display
    | more => (Value.tuple more).display

/-- The name a failure is reported under. -/
def kindName : Fault → String
  | .api _ => "APIException"
  | .http _ => "HTTPError"
  | .raised kind _ => kind.name

/-- The written form of a failure with its arguments: `Name('a',)`. An HTTP refusal keeps
no arguments of its own, so it is written `Name()`. -/
def written (f : Fault) : String :=
  match f with
  | .raised _ args =>
    let inner := match args with
      | [] => ""
      | [a] => a.quote ++ ","
      | more => Value.joinWith ", " (more.map Value.quote)
    f.kindName ++ "(" ++ inner ++ ")"
  | .api _ | .http _ => f.kindName ++ "()"

/-- Whether a failure is of the given kind. -/
def isKind (f : Fault) (k : FaultKind) : Bool :=
  match f with
  | .raised kind _ => kind == k
  | _ => false

end Fault

/-- A wrong kind of operand. -/
def Fault.typeError (message : String) : Fault := .of .typeError message

/-- A missing member. -/
def Fault.noAttribute (kindName attr : String) : Fault :=
  .of .attributeError ("'" ++ kindName ++ "' object has no attribute '" ++ attr ++ "'")

/-- A missing key. -/
def Fault.missingKey (key : Value) : Fault := .raised .keyError [key]

/-- A failure of the general kind. -/
def Fault.general (message : String) : Fault := .of .general message

/-- A local name read before anything was bound to it. -/
def Fault.unbound (name : String) : Fault :=
  .of .unboundLocal ("cannot access local variable '" ++ name ++ "' where it is not associated with a value")

/-- An index beyond the end of a list. -/
def Fault.indexOut : Fault := .of .indexError "list index out of range"

end Airwaves
