import Airwaves.Api.Fields
import Airwaves.Api.Basic
/-!
# Endpoints

An endpoint of the JSON API: its address, the arguments it reads and how each is needed, the
gates a caller must pass, and the work it does.
-/
namespace Airwaves.Api

/-- How an argument is needed. -/
inductive Need where
  /-- Present and acceptable. -/
  | required
  /-- Acceptable when present. -/
  | optional
  /-- Read as none when not acceptable. -/
  | lenient
  deriving Repr, BEq, Inhabited, DecidableEq

/-- An argument an endpoint reads. -/
structure Field where
  name : String
  kind : Fields.FieldKind
  need : Need
  deriving Repr, Inhabited

/-- Who may call an endpoint. -/
structure Gates where
  keyed : Bool := true
  login : Bool := false
  tunedIn : Bool := false
  dj : Bool := false
  djPreparation : Bool := false
  admin : Bool := false
  perks : Bool := false
  unlockedOnly : Bool := false
  trustedOnly : Bool := false
  station : Bool := true
  stationZero : Bool := false
  deriving Repr, Inhabited

/-- An endpoint of the API. `serve` does the endpoint's work on a prepared handler. -/
structure Endpoint where
  url : String
  fields : List Field := []
  gates : Gates := {}
  returnName : Option String := none
  allowGet : Bool := false
  allowCors : Bool := false
  pagination : Bool := false
  syncAcrossSessions : Bool := false
  forumAuth : Bool := false
  serve : Value → Act Unit

namespace Endpoint

/-- The part of the address after its last slash. -/
def lastPart (e : Endpoint) : String := ((e.url.splitOn "/").getLast?).getD e.url

/-- The name an endpoint's answer goes under: the given name, or the last part of the
address followed by `_result`. -/
def answerName (e : Endpoint) : String := e.returnName.getD (e.lastPart ++ "_result")

/-- The settings of an endpoint that a handler shows as its own fields. -/
def settings (e : Endpoint) : List (String × Value) :=
  [("url", .str e.url), ("allow_sid_zero", .bool e.gates.stationZero),
   ("sid_required", .bool e.gates.station), ("auth_required", .bool e.gates.keyed),
   ("pagination", .bool e.pagination), ("sync_across_sessions", .bool e.syncAcrossSessions),
   ("local_only", .bool e.gates.trustedOnly), ("allow_get", .bool e.allowGet)]

end Endpoint

/-- A required argument. -/
def needs (name : String) (kind : Fields.FieldKind) : Field := ⟨name, kind, .required⟩

/-- An optional argument. -/
def accepts (name : String) (kind : Fields.FieldKind) : Field := ⟨name, kind, .optional⟩

/-- A lenient argument. -/
def tolerates (name : String) (kind : Fields.FieldKind) : Field := ⟨name, kind, .lenient⟩

/-- Sets a field among an endpoint's fields: in place of the field of the same name, or last. -/
def Field.setIn (fs : List Field) (f : Field) : List Field :=
  if fs.any (·.name == f.name) then fs.map fun g => if g.name == f.name then f else g
  else fs ++ [f]

/-- The paging fields set among a table's fields: `per_page` and `page_start`, both optional
whole numbers of zero or more. -/
def pagingFields (fs : List Field) : List Field :=
  Field.setIn (Field.setIn fs (accepts "per_page" .zeroOrGreaterInteger))
    (accepts "page_start" .zeroOrGreaterInteger)

/-- The class-level table of fields an endpoint's handler reads: the base handler's table,
shared by every handler that declares no fields, or else its own. Only paged endpoints write
to a table, and no other endpoint reads the own table of a paged one, so an own table is named
by its endpoint. -/
def Endpoint.table (e : Endpoint) : String := if e.fields.isEmpty then "RainwaveHandler" else e.url

/-- The endpoint as a handler sees it once the tables named have had the paging fields
written into them. -/
def Endpoint.seenWith (e : Endpoint) (paged : List String) : Endpoint :=
  if paged.contains e.table then { e with fields := pagingFields e.fields } else e

/-- The set-up step of a handler the web server builds: a paged endpoint writes the paging
fields into the table it reads, where every later handler reading that table, over the web or
from a websocket message, finds them. -/
def Endpoint.setUp (e : Endpoint) : Act Unit := do
  if e.pagination then
    let paged := (← get).globals.pagedFieldTables
    unless paged.contains e.table do
      modify fun w => { w with globals := { w.globals with pagedFieldTables := paged ++ [e.table] } }

/-- The endpoint as a handler sees it now. -/
def Endpoint.seen (e : Endpoint) : Act Endpoint := do
  return e.seenWith (← get).globals.pagedFieldTables

/-- A refusal with a translation key, a status and named details. -/
def refuse (key : String) (code : Nat := 200) (extra : List (String × Value) := []) : Fault :=
  .api (ApiError.make key code (Dict.ofStrings extra))

/-- A refusal with an explicit text. -/
def refuseWith (key text : String) (code : Nat := 200) (extra : List (String × Value) := []) :
    Fault :=
  .api (ApiError.make key code (Dict.ofStrings extra) (some text))

end Airwaves.Api
