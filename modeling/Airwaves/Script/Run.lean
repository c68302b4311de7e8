import Airwaves.Script.Registry
/-!
# Running scripts

A script's steps call, read, set, name and move the clock; each step is answered on its own with
its value or failure and what it sent out, and a failing step does not stop the script.
-/
namespace Airwaves.Script

/-- The whole number a decimal member stands for. -/
def decimal? (m : String) : Option Int :=
  if !m.isEmpty && m.all Char.isDigit then m.toInt? else none

/-- Where a path starts. -/
inductive Root where
  | name (n : String)
  | target (full : String) (t : Target)

/-- Splits a path into its start and its members: the longest registered prefix of a
dotted name, or a script name after `$`. -/
def splitPath (reg : Registry) (path : String) : Act (Root × List String) := do
  let parts := path.splitOn "."
  match parts with
  | first :: rest =>
    if first.startsWith "$" then return (.name (first.drop 1).toString, rest)
    let n := parts.length
    let found := (List.range n).reverse.findSome? fun i =>
      let prefixName := ".".intercalate (parts.take (i + 1))
      (reg.target prefixName).map fun t => (prefixName, t, parts.drop (i + 1))
    match found with
    | some (full, t, members) => return (.target full t, members)
    | none => Act.raise (.noAttribute "module" path)
  | [] => Act.raise (.noAttribute "module" path)

/-- The value a start stands for. -/
def Root.value : Root → Act Value
  | .name n => lookupName n
  | .target _ (.operation op _) => return .func op none
  | .target _ (.kind k _) => return .kind k
  | .target _ (.slot s) => return s.read (← get)
  | .target _ (.constant v) => return v

/-- Reads a member of a value. -/
def member (reg : Registry) (v : Value) (m : String) : Act Value := do
  let asMethod : Act Value := do
    match reg.method m with
    | some _ => return .func m (match v with | .ref h => some h | _ => none)
    | none => noMember v m
  match v with
  | .dict es =>
    match Dict.field? es m with
    | some x => return x
    | none =>
      match decimal? m >>= fun n => Dict.lookup? es (.int n) with
      | some x => return x
      | none => asMethod
  | .ref h =>
    match (← deref h).attribute? m with
    | some x => return x
    | none => asMethod
  | .list xs | .tuple xs =>
    match decimal? m with
    | some n =>
      match xs[n.toNat]? with
      | some x => return x
      | none => Act.raise Fault.indexOut
    | none => asMethod
  | _ => asMethod

/-- Sets a member of a value and returns the value as it stands after. Objects change in
the store; plain values are returned changed. -/
def setMember (v : Value) (m : String) (x : Value) : Act Value := do
  match v with
  | .dict es =>
    if Dict.hasKey es (.str m) then return .dict (Dict.putField es m x)
    match decimal? m with
    | some n => return .dict (Dict.put es (.int n) x)
    | none => return .dict (Dict.putField es m x)
  | .ref h =>
    store h ((← deref h).setAttribute m x)
    return v
  | .list xs =>
    match decimal? m with
    | some n => if n.toNat < xs.length then return .list (xs.set n.toNat x) else Act.raise Fault.indexOut
    | none => noMember v m
  | _ => noMember v m

/-- Reads the value at the end of a member chain. -/
def follow (reg : Registry) (v : Value) : List String → Act Value
  | [] => return v
  | m :: rest => do follow reg (← member reg v m) rest

/-- Sets the value at the end of a member chain, returning the start as it stands after. -/
def setIn (reg : Registry) (v : Value) : List String → Value → Act Value
  | [], x => return x
  | [m], x => setMember v m x
  | m :: rest, x => do
    let child ← member reg v m
    let child' ← setIn reg child rest x
    setMember v m child'

/-- Replaces the value a start stands for. -/
def Root.replace (r : Root) (x : Value) : Act Unit := do
  match r with
  | .name n => bindName n x
  | .target _ (.slot s) => modify (s.write x)
  | .target full _ => Act.raise (.noAttribute "module" full)

/-- Reads the value at a path. -/
def readPath (reg : Registry) (path : String) : Act Value := do
  let (root, members) ← splitPath reg path
  follow reg (← root.value) members

/-- Sets the value at a path. -/
def writePath (reg : Registry) (path : String) (x : Value) : Act Unit := do
  let (root, members) ← splitPath reg path
  match members with
  | [] => root.replace x
  | _ =>
    let start ← root.value
    let after ← setIn reg start members x
    match start with
    | .ref _ => pure ()
    | _ => root.replace after

/-- Calls what a path names: an operation or kind, or a method of the value before its
last member. A plain receiver changed by its method is put back at its path. -/
def callPath (reg : Registry) (path : String) (args : List Value)
    (kwargs : List (String × Value)) : Act Value := do
  let (root, members) ← splitPath reg path
  match members with
  | [] =>
    match root with
    | .target _ (.operation _ run) => run args kwargs
    | .target _ (.kind _ make) => make args kwargs
    | _ =>
      let v ← root.value
      Act.raise (.typeError ("'" ++ (← kindNameOf v) ++ "' object is not callable"))
  | _ =>
    let ownerMembers := members.dropLast
    let name := members.getLast?.getD ""
    let start ← root.value
    let owner ← follow reg start ownerMembers
    match reg.method name with
    | none => noMember owner name
    | some run =>
      let (result, after) ← run owner args kwargs
      match owner with
      | .ref _ => return result
      | _ =>
        match ownerMembers with
        | [] => root.replace after
        | _ =>
          let changed ← setIn reg start ownerMembers after
          match start with
          | .ref _ => pure ()
          | _ => root.replace changed
        return result

/-- Merges a mapping into the mapping (or message object) at a path. -/
def updatePath (reg : Registry) (path : String) (entries : Dict) : Act Unit := do
  let target ← readPath reg path
  match target with
  | .dict es => writePath reg path (.dict (Dict.merge es entries))
  | .ref h =>
    match ← deref h with
    | .message d => store h (.message (Dict.merge d entries))
    | .record k fields => store h (.record k (entries.foldl (fun acc e => setNamed acc e.1.display e.2) fields))
    | _ => noMember target "update"
  | _ => noMember target "update"

/-- A member of a step, `none` when absent. -/
def stepField (step : Dict) (key : String) : Value := (Dict.field? step key).getD .none

/-- Text of a value, the empty text for others. -/
def textOf : Value → String
  | .str s => s
  | _ => ""

/-- Sorts written values by their JSON text, texts by themselves. -/
def sortWritten (xs : List Value) : List Value :=
  let key : Value → String := fun v => match v with
    | .str s => s
    | v => sortText v
  xs.mergeSort fun a b => key a ≤ key b

/-- Runs the action of one step and returns its value. -/
def stepAction (reg : Registry) (step : Dict) : Act Value := do
  if let some (.str path) := Dict.field? step "call" then
    let args ← match stepField step "args" with
      | .list xs => decodeList xs
      | _ => pure []
    let kwargs ← match stepField step "kwargs" with
      | .dict es => do
        let decoded ← decodeEntries es
        pure (decoded.map fun e => (e.1.display, e.2))
      | _ => pure []
    let result ← callPath reg path args kwargs
    if let .str name := stepField step "as" then bindName name result
    if (stepField step "quiet").truthy then return .none
    let written ← encode result
    if (stepField step "sort").truthy then
      match written with
      | .list xs => return .list (sortWritten xs)
      | v => return v
    return written
  if let some (.str path) := Dict.field? step "get" then
    let v ← readPath reg path
    if let .str name := stepField step "as" then bindName name v
    return ← encode v
  if let some (.str path) := Dict.field? step "set" then
    writePath reg path (← decode (stepField step "value"))
    return .none
  if let some (.str path) := Dict.field? step "update" then
    match ← decode (stepField step "value") with
    | .dict es => updatePath reg path es
    | _ => pure ()
    return .none
  if let some (.str name) := Dict.field? step "let" then
    bindName name (← decode (stepField step "value"))
    return .none
  if let some t := Dict.field? step "now" then
    match t.number? with
    | some n => modify fun w => { w with now := n.toDouble }
    | none => pure ()
    return .none
  if let some (.dict script) := Dict.field? step "db" then
    let decoded ← decodeEntries script
    modify fun w => { w with db := w.db.extend decoded }
    return .none
  return .none

/-- Sizes of the logs, to tell what a step added. -/
structure Marks where
  db : Nat
  published : Nat
  sockets : Nat
  timers : Nat
  responses : Nat

/-- The current sizes of the logs. -/
def marks : Act Marks := do
  let w ← get
  return ⟨w.db.log.size, w.outbox.published.size, w.outbox.socketMessages.size,
    w.outbox.timers.size, w.outbox.responses.size⟩

/-- The written entries a log gained since a mark, under a key, when there are any. -/
def gained (key : String) (log : Array Value) (start : Nat) : Act (List (Value × Value)) := do
  let added := (log.toList.drop start)
  if added.isEmpty then return []
  return [(.str key, .list (← added.mapM encode))]

/-- What the logs gained since a mark, under their keys. -/
def gainedSince (m : Marks) : Act Dict := do
  let w ← get
  return (← gained "db" w.db.log m.db) ++ (← gained "pub" w.outbox.published m.published) ++
    (← gained "ws" w.outbox.socketMessages m.sockets) ++ (← gained "io" w.outbox.timers m.timers) ++
    (← gained "http" w.outbox.responses m.responses)

/-- Runs one step and answers it. -/
def runStep (reg : Registry) (step : Value) : Act Value := do
  let m ← marks
  let outcome ← Act.attempt (stepAction reg ((step.entries?).getD []))
  let head : Dict ← match outcome with
    | .ok v => pure [(.str "ok", v)]
    | .error f => do
      match ← encodeFault f with
      | .dict es => pure es
      | _ => pure []
  return .dict (head ++ (← gainedSince m))

/-- Runs steps in order and answers each. -/
def runSteps (reg : Registry) (steps : List Value) : Act (List Value) :=
  steps.mapM (runStep reg)

end Airwaves.Script
