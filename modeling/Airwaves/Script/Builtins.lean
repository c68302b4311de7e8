import Airwaves.Script.Registry
import Airwaves.Ops
/-!
# Methods of plain values

The methods that mappings, lists and texts carry themselves; each returns its result with the
value as it stands after the call.
-/
namespace Airwaves.Script

/-- An argument by position, if given. -/
def argument? (args : List Value) (i : Nat) : Option Value := args[i]?

/-- Takes an entry out of a mapping (or an item out of a list, the last by default). -/
def popMethod : Method := fun r args _ => do
  match r with
  | .dict es =>
    let key := (argument? args 0).getD .none
    match Dict.lookup? es key with
    | some x => return (x, .dict (Dict.without es key))
    | none =>
      match argument? args 1 with
      | some d => return (d, r)
      | none => Act.raise (.missingKey key)
  | .list xs =>
    if xs.isEmpty then Act.raise (.of .indexError "pop from empty list")
    let n : Int := xs.length
    let i ← match argument? args 0 with
      | some (.int i) => pure i
      | some other => Act.raise (.typeError ("an integer is required (got type " ++ other.kindName ++ ")"))
      | none => pure (-1)
    let j := if i < 0 then i + n else i
    if j < 0 || j ≥ n then Act.raise (.of .indexError "pop index out of range")
    return (xs.getD j.toNat .none, .list (xs.eraseIdx j.toNat))
  | _ => noMember r "pop"

/-- Reads an entry of a mapping, with a fallback. -/
def getMethod : Method := fun r args _ => do
  match r with
  | .dict es =>
    let key := (argument? args 0).getD .none
    return ((Dict.lookup? es key).getD ((argument? args 1).getD .none), r)
  | _ => noMember r "get"

/-- The keys, values or entries of a mapping, as a list. -/
def viewMethod (which : String) : Method := fun r _ _ => do
  match r with
  | .dict es =>
    let xs := match which with
      | "keys" => es.map (·.1)
      | "values" => es.map (·.2)
      | _ => es.map fun e => .tuple [e.1, e.2]
    return (.list xs, r)
  | _ => noMember r which

/-- The length of a value. -/
def lengthMethod : Method := fun r _ _ => do return (.int (← lengthOf r), r)

/-- Appends an item to a list. -/
def appendMethod : Method := fun r args _ => do
  match r with
  | .list xs => return (.none, .list (xs ++ [(argument? args 0).getD .none]))
  | _ => noMember r "append"

/-- Merges a mapping into a mapping. -/
def updateMethod : Method := fun r args _ => do
  match r, (argument? args 0).getD (.dict []) with
  | .dict es, .dict more => return (.none, .dict (Dict.merge es more))
  | .dict _, other => Act.raise (.typeError ("'" ++ other.kindName ++ "' object is not iterable"))
  | _, _ => noMember r "update"

/-- Reads an entry of a mapping, setting it to a fallback when absent. -/
def setDefaultMethod : Method := fun r args _ => do
  match r with
  | .dict es =>
    let key := (argument? args 0).getD .none
    match Dict.lookup? es key with
    | some x => return (x, r)
    | none =>
      let d := (argument? args 1).getD .none
      return (d, .dict (Dict.put es key d))
  | _ => noMember r "setdefault"

/-- The method a plain value carries under a name, if any. -/
def builtin? : String → Option Method
  | "pop" => some popMethod
  | "get" => some getMethod
  | "keys" => some (viewMethod "keys")
  | "values" => some (viewMethod "values")
  | "items" => some (viewMethod "items")
  | "__len__" => some lengthMethod
  | "append" => some appendMethod
  | "update" => some updateMethod
  | "setdefault" => some setDefaultMethod
  | _ => none

end Airwaves.Script
