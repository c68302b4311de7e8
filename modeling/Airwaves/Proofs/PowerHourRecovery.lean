import Airwaves.Proofs.ScriptedAnswers
import Airwaves.Schedule.Producer
/-!
# Recovering the song a power hour is playing

The queued song found only decides whether anything is loaded; the song loaded is looked up by
the block's own schedule id.
-/

namespace Airwaves.Producers

theorem producerOf_run {w : World} {h : Nat} {p : Producer} (block : w.store[h]? = some (.producer p)) :
    (producerOf (.ref h)).run w = .ok p w := by
  simp [producerOf, producerAt, EStateM.run_bind, Api.Ratings.deref_run_of block]

/-- Loading a power-hour song starts with a call, so it does not depend on the row count left
by the call before it. -/
theorem loadOneUp_bind_rowcount {β : Type} (w : World) (c : Value) (oneUpId sid : Value)
    (k : Value → Act β) :
    (Events.loadOneUp oneUpId sid >>= k).run { w with db := { w.db with rowcount := c } } =
      (Events.loadOneUp oneUpId sid >>= k).run w := by
  unfold Events.loadOneUp
  rw [bind_assoc]
  exact query_bind_rowcount w c .row [oneUpId] _

/-- Recovering a power hour's song does not depend on which queued song the database reports:
as long as one is reported, two databases that differ only in that answer give the same run. -/
theorem recovery_ignores_queued_entry {w : World} {h : Nat} {p : Producer} {q q' : Value}
    {rest : List Value} (block : w.store[h]? = some (.producer p)) (queued : w.db.queues.var = q :: rest)
    (present : q.truthy = true) (present' : q'.truthy = true) :
    (oneUpInProgress (.ref h)).run w =
      (oneUpInProgress (.ref h)).run
        { w with db := { w.db with queues := w.db.queues.put .var (q' :: rest) } } := by
  have block' : ({ w with db := { w.db with queues := w.db.queues.put .var (q' :: rest) } } : World).store[h]? =
      some (.producer p) := block
  have answer : (w.db.call .var (some [p.id]) "").1 = q := by
    simp [Database.call_var_answer, Database.varAnswer, queued]
  simp only [oneUpInProgress, EStateM.run_bind, producerOf_run block, producerOf_run block',
    Cache.query_run, fetchVar, answer]
  -- the other database reports `q'`, and keeps only the row count of that answer
  have answer' : ({ w.db with queues := w.db.queues.put .var (q' :: rest) } : Database).call .var
      (some [p.id]) "" = (q', { (w.db.call .var (some [p.id]) "").2 with rowcount := q' }) := by
    simp [Database.call, Database.take, Database.record, Queues.get, Queues.put, queued]
  simp only [answer', present, present', Bool.not_true]
  exact (loadOneUp_bind_rowcount _ q' p.id p.sid _).symm

/-- A power hour on air, block five. -/
def powerHourBlock : Producer :=
  { kind := .oneUp, id := .int 5, name := .str "Power Hour", url := .str "http://example.com/ph" }

/-- A world holding that block, where the database reports song seven as the last one queued. -/
def powerHourDesk : World := { store := #[.producer powerHourBlock], db := { queues := { var := [.int 7] } } }

/-- Whether the database reports song seven or song eight as queued, recovery runs the same. -/
theorem recovery_same_for_seven_and_eight :
    powerHourDesk.store[0]? = some (.producer powerHourBlock) ∧ powerHourDesk.db.queues.var = [.int 7] ∧
    (Value.int 7).truthy = true ∧ (Value.int 8).truthy = true ∧
    (oneUpInProgress (.ref 0)).run powerHourDesk =
      (oneUpInProgress (.ref 0)).run
        { powerHourDesk with db := { powerHourDesk.db with queues := powerHourDesk.db.queues.put .var [.int 8] } } :=
  ⟨rfl, rfl, rfl, rfl, recovery_ignores_queued_entry rfl rfl rfl rfl⟩

end Airwaves.Producers
