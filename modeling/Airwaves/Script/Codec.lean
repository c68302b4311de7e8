import Airwaves.World
import Airwaves.Json.Write
import Airwaves.Json.Read
/-!
# Values on the wire

Values as JSON, with one-member objects (`$tuple`, `$set`, `$float`, `$bytes`, `$datetime`,
`$dict`, `$ref`, `$ns`) for what JSON has no form for, and objects written with their kind.
-/
namespace Airwaves.Script

/-- Reads two hexadecimal digits at a time. -/
def hexBytes (s : String) : List UInt8 :=
  let digits := s.toList.filterMap Json.hexValue
  let rec pairs : List Nat → List UInt8
    | a :: b :: rest => (a * 16 + b).toUInt8 :: pairs rest
    | _ => []
  pairs digits

/-- Reads an ISO 8601 date with an optional time and microseconds. -/
def parseIso (s : String) : Option Instant := do
  let cs := s.toList
  let num (xs : List Char) : Option Nat :=
    if xs.isEmpty || !xs.all Char.isDigit then none
    else some (xs.foldl (fun n c => n * 10 + (c.toNat - '0'.toNat)) 0)
  let y ← num (cs.take 4)
  let m ← num ((cs.drop 5).take 2)
  let d ← num ((cs.drop 8).take 2)
  let rest := cs.drop 11
  let (hh, mm, ss) := if rest.length ≥ 8 then
      ((num (rest.take 2)).getD 0, (num ((rest.drop 3).take 2)).getD 0, (num ((rest.drop 6).take 2)).getD 0)
    else (0, 0, 0)
  let micro := match rest.drop 8 with
    | '.' :: frac =>
      let ds := frac.takeWhile Char.isDigit
      let padded := (ds ++ List.replicate 6 '0').take 6
      (num padded).getD 0
    | _ => 0
  let civil : Civil := { year := y, month := m, day := d, hour := hh, minute := mm, second := ss, micro := micro }
  return civil.toInstant

/-- A named value of the script. -/
def lookupName (name : String) : Act Value := do
  match (← get).names.find? (·.1 == name) with
  | some e => return e.2
  | none => Act.raise (.missingKey (.str name))

/-- Names a value for later steps. -/
def bindName (name : String) (v : Value) : Act Unit :=
  modify fun w => { w with names := setNamed w.names name v }

mutual
/-- Reads a value of a script. -/
def decode : Value → Act Value
  | .dict [(.str "$ref", .str name)] => lookupName name
  | .dict [(.str "$tuple", .list xs)] => do return .tuple (← decodeList xs)
  | .dict [(.str "$set", .list xs)] => do
    let items ← decodeList xs
    return .set (items.foldl (fun acc x => if acc.any (Value.equals x) then acc else acc ++ [x]) [])
  | .dict [(.str "$float", .str s)] =>
    return .float ((Value.parseFloat? s).getD Double.nan)
  | .dict [(.str "$bytes", .str s)] => return .bytes (hexBytes s)
  | .dict [(.str "$datetime", .str s)] =>
    match parseIso s with
    | some t => return .time t
    | none => Act.fail .valueError ("Invalid isoformat string: " ++ (Value.str s).quote)
  | .dict [(.str "$ns", .dict fields)] => do
    let decoded ← decodeEntries fields
    allocRef (.record "SimpleNamespace" (decoded.map fun e => (e.1.display, e.2)))
  | .dict [(.str "$dict", .list pairs)] => do return .dict (← decodePairs pairs)
  | .dict es => do return .dict (← decodeEntries es)
  | .list xs => do return .list (← decodeList xs)
  | v => pure v
/-- Reads items. -/
def decodeList : List Value → Act (List Value)
  | [] => pure []
  | x :: rest => do return (← decode x) :: (← decodeList rest)
/-- Reads mapping entries, keys as they are. -/
def decodeEntries : Dict → Act Dict
  | [] => pure []
  | (k, v) :: rest => do return (k, ← decode v) :: (← decodeEntries rest)
/-- Reads `[key, value]` pairs. -/
def decodePairs : List Value → Act Dict
  | [] => pure []
  | .list [k, v] :: rest => do
    let key ← decode k
    let value ← decode v
    let tail ← decodePairs rest
    -- a repeated key keeps its first place and its last value
    return match Dict.lookup? tail key with
      | some later => (key, later) :: Dict.without tail key
      | none => (key, value) :: tail
  | _ :: rest => decodePairs rest
end

mutual
/-- JSON text used to order the members of sets: keys sorted, default separators. -/
def sortText : Value → String
  | .dict es => "\x7b" ++ ", ".intercalate ((sortEntries es).mergeSort (· ≤ ·)) ++ "\x7d"
  | .list xs => "[" ++ ", ".intercalate (sortItems xs) ++ "]"
  | v => (Json.write .spaced v).toOption.getD "null"
/-- Texts of items. -/
def sortItems : List Value → List String
  | [] => []
  | x :: rest => sortText x :: sortItems rest
/-- Texts of entries, each `"key": value`. -/
def sortEntries : Dict → List String
  | [] => []
  | (k, v) :: rest => (Json.escapeText true k.display ++ ": " ++ sortText v) :: sortEntries rest
end

end Airwaves.Script
