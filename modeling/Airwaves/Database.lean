import Airwaves.Value.Basic
/-!
# The scripted database

Each kind of call takes the next answer from its own queue, or the kind's default, and is
written to a log with its parameters.
-/
namespace Airwaves

/-- The kinds of database call. -/
inductive QueryKind where
  | var
  | row
  | all
  | list
  | update
  | execute
  deriving Repr, BEq, Inhabited, DecidableEq

/-- The name of a kind of call in the log. -/
def QueryKind.name : QueryKind → String
  | .var => "var"
  | .row => "row"
  | .all => "all"
  | .list => "list"
  | .update => "update"
  | .execute => "execute"

/-- All kinds of call. -/
def QueryKind.all' : List QueryKind := [.var, .row, .all, .list, .update, .execute]

/-- Answers waiting for each kind of call. -/
structure Queues where
  var : List Value := []
  row : List Value := []
  all : List Value := []
  list : List Value := []
  update : List Value := []
  execute : List Value := []
  deriving Inhabited

namespace Queues

/-- The queue of a kind. -/
def get (q : Queues) : QueryKind → List Value
  | .var => q.var
  | .row => q.row
  | .all => q.all
  | .list => q.list
  | .update => q.update
  | .execute => q.execute

/-- Replaces the queue of a kind. -/
def put (q : Queues) (k : QueryKind) (xs : List Value) : Queues :=
  match k with
  | .var => { q with var := xs }
  | .row => { q with row := xs }
  | .all => { q with all := xs }
  | .list => { q with list := xs }
  | .update => { q with update := xs }
  | .execute => { q with execute := xs }

end Queues

/-- The default answers: nothing for a value or a row, empty lists for rows and columns,
one changed row for an update and zero for a statement. -/
def Database.standardFallbacks : Queues :=
  { var := [.none], row := [.none], all := [.list []], list := [.list []], update := [.int 1],
    execute := [.int 0] }

/-- The scripted database: queues, defaults, the identifier counter, the two capability
flags, the log of calls, and the text and parameters of each statement whose text holds a value
of its own (the flag an update sets), which the log records by its parameters alone. -/
structure Database where
  queues : Queues := {}
  fallbacks : Queues := Database.standardFallbacks
  nextId : Int := 1
  isPostgres : Value := .bool true
  allowsJoinOnUpdate : Value := .bool true
  rowcount : Value := .int 0
  log : Array Value := #[]
  statements : Array (String × List Value) := #[]
  deriving Inhabited

namespace Database

/-- The default answer of a kind. -/
def fallback (db : Database) (k : QueryKind) : Value := ((db.fallbacks.get k).head?).getD .none

/-- Takes the next answer of a kind: the head of its queue or else the default. An empty
answer for a kind that yields rows or a column becomes the empty list. -/
def take (db : Database) (k : QueryKind) : Value × Database :=
  let (v, rest) := match db.queues.get k with
    | v :: rest => (v, rest)
    | [] => (db.fallback k, [])
  let v := match k, v with
    | .all, .none => .list []
    | .list, .none => .list []
    | _, v => v
  (v, { db with queues := db.queues.put k rest, rowcount := v })

/-- Logs a call with its parameters; a call without parameters logs its statement text. -/
def record (db : Database) (k : QueryKind) (params : Option (List Value)) (sql : String) : Database :=
  let entry := match params with
    | some ps => Value.list [.str k.name, .list ps]
    | none => Value.list [.str k.name, .none, .str sql]
  { db with log := db.log.push entry }

/-- Runs a call: logs it and takes its answer. -/
def call (db : Database) (k : QueryKind) (params : Option (List Value)) (sql : String) : Value × Database :=
  (db.record k params sql).take k

/-- Runs a call with parameters whose statement text holds a value of its own: it is logged and
answered as any call with parameters, and its text is kept. -/
def callStatement (db : Database) (k : QueryKind) (sql : String) (params : List Value) : Value × Database :=
  { db with statements := db.statements.push (sql, params) }.call k (some params) sql

/-- Hands out the next identifier for a table's column and logs it. -/
def nextIdentifier (db : Database) (table column : String) : Int × Database :=
  let v := db.nextId
  (v, { db with nextId := v + 1,
                log := db.log.push (.list [.str "next_id", .list [.str table, .str column, .int v]]) })

/-- Logs a rollback. -/
def rollback (db : Database) : Database :=
  { db with log := db.log.push (.list [.str "rollback", .list []]) }

/-- Appends answers to the queues and replaces the defaults and flags given in a script
mapping (keys `var`, `row`, `all`, `list`, `update`, `execute`, `defaults`, `next_id`,
`is_postgres`, `allows_join_on_update`). -/
def extend (db : Database) (script : Dict) : Database :=
  let db := QueryKind.all'.foldl (fun db k =>
    match Dict.field? script k.name with
    | some (.list xs) => { db with queues := db.queues.put k (db.queues.get k ++ xs) }
    | _ => db) db
  let db := match Dict.field? script "defaults" with
    | some (.dict ds) => QueryKind.all'.foldl (fun db k =>
        match Dict.field? ds k.name with
        | some v => { db with fallbacks := db.fallbacks.put k [v] }
        | none => db) db
    | _ => db
  let db := match Dict.field? script "next_id" with
    | some (.int n) => { db with nextId := n }
    | _ => db
  let db := match Dict.field? script "is_postgres" with
    | some v => { db with isPostgres := v }
    | none => db
  match Dict.field? script "allows_join_on_update" with
  | some v => { db with allowsJoinOnUpdate := v }
  | none => db

end Database

end Airwaves
