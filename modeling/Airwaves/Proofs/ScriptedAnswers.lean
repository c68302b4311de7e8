import Airwaves.Proofs.SignIn
/-!
# The answers a scripted database has yet to give

The answer the `i`-th single-value call from now gets, and the world one call leaves.
-/

namespace Airwaves

namespace Database

/-- The answer the `i`-th single-value call from now gets: the `i`-th waiting answer, or the
default once the waiting answers run out. -/
def varAnswer (db : Database) (i : Nat) : Value := (db.queues.var[i]?).getD (db.fallback .var)

theorem call_var_answer (db : Database) (ps : Option (List Value)) (sql : String) :
    (db.call .var ps sql).1 = db.varAnswer 0 := by
  cases waiting : db.queues.var <;> simp [call, take, record, varAnswer, fallback, Queues.get, waiting]

theorem varAnswer_call_var (db : Database) (ps : Option (List Value)) (sql : String) (i : Nat) :
    (db.call .var ps sql).2.varAnswer i = db.varAnswer (i + 1) := by
  cases waiting : db.queues.var <;>
    simp [call, take, record, varAnswer, fallback, Queues.get, Queues.put, waiting]

theorem call_rowcount (db : Database) (c : Value) (k : QueryKind) (ps : Option (List Value))
    (sql : String) : ({ db with rowcount := c } : Database).call k ps sql = db.call k ps sql := rfl

end Database

/-- The world after one database call of a kind with parameters. -/
def World.afterCall (w : World) (k : QueryKind) (ps : List Value) : World :=
  { w with db := (w.db.call k (some ps) "").2 }

theorem fetchVar_run (w : World) (ps : List Value) :
    (fetchVar ps).run w = .ok (w.db.varAnswer 0) (w.afterCall .var ps) := by
  rw [fetchVar, Cache.query_run, Database.call_var_answer]
  rfl

theorem dbUpdate_run (w : World) (ps : List Value) :
    (dbUpdate ps).run w = .ok (w.db.call .update (some ps) "").1 (w.afterCall .update ps) :=
  rfl

/-- What an action that starts with a database call does never depends on the row count left
by the call before it. -/
theorem query_bind_rowcount {α : Type} (w : World) (c : Value) (k : QueryKind) (ps : List Value)
    (f : Value → Act α) :
    (query k ps >>= f).run { w with db := { w.db with rowcount := c } } = (query k ps >>= f).run w := by
  simp only [EStateM.run_bind, Cache.query_run, Database.call_rowcount]

end Airwaves
