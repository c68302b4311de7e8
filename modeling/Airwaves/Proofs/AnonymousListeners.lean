import Airwaves.Proofs.LoadFrame
import Airwaves.Proofs.SignIn
import Airwaves.Proofs.FaveCount
import Airwaves.Proofs.ScriptedAnswers
import Airwaves.Web.Relay
/-!
# Anonymous listeners tuning in

Of `k ≥ 2` records on file for an address, a relay report deletes `k - 2`, not `k - 1`, and its
closing update writes the address into the relay column.
-/

namespace Airwaves

/-- Whatever its outcome, every run of the action leaves a view of the world as it found it. -/
def Spares {α β : Type} (view : World → β) (x : Act α) : Prop :=
  Guards (fun w w' => view w' = view w) x

namespace Spares

variable {α β γ : Type} {view : World → γ}

theorem pure (a : α) : Spares view (Pure.pure a : Act α) := fun _ =>
  ⟨fun _ _ run => by cases run; rfl, fun _ _ run => by cases run⟩

theorem raise (f : Fault) : Spares view (Act.raise f : Act α) := fun _ =>
  ⟨fun _ _ run => (by cases run), fun _ _ run => by cases run; rfl⟩

theorem lift (e : Except Fault α) : Spares view (Act.lift e) := by
  cases e with
  | ok a => exact pure a
  | error f => exact raise f

theorem get : Spares view (MonadState.get : Act World) := fun _ =>
  ⟨fun _ _ run => (by cases run; rfl), fun _ _ run => by cases run⟩

theorem modify {f : World → World} (kept : ∀ w, view (f w) = view w) :
    Spares view (modify f : Act PUnit) := fun w =>
  ⟨fun _ _ run => (by cases run; exact kept w), fun _ _ run => by cases run⟩

theorem bind {x : Act α} {f : α → Act β} (hx : Spares view x) (hf : ∀ a, Spares view (f a)) :
    Spares view (x >>= f) := by
  intro w
  simp only [EStateM.run_bind]
  cases ran : x.run w with
  | ok a w1 =>
    -- the rest starts where the first action left off
    have first := (hx w).1 a w1 ran
    exact ⟨fun r w' run => ((hf a w1).1 r w' run).trans first,
      fun e w' run => ((hf a w1).2 e w' run).trans first⟩
  | error e w1 =>
    refine ⟨fun r w' run => (by cases run), fun e' w' run => ?_⟩
    cases run
    exact (hx w).2 e w1 ran

/-- The world an action leaves keeps the view of the world it started from. -/
theorem worldAfter {x : Act Unit} (spared : Spares view x) (w : World) : view (worldAfter x w) = view w := by
  unfold Airwaves.worldAfter
  cases ran : x.run w with
  | ok r w' => exact (spared w).1 r w' ran
  | error e w' => exact (spared w).2 e w' ran

end Spares

/-- A sequence ends where its rest ends, run from where its first part returned. -/
theorem worldAfter_bind_ok {α : Type} {x : Act α} {f : α → Act Unit} {w w1 : World} {a : α}
    (ran : x.run w = .ok a w1) : worldAfter (x >>= f) w = worldAfter (f a) w1 := by
  unfold worldAfter
  rw [run_bind_ok ran]

/-! ### Replies that leave the database alone -/

section Replies

theorem deref_spares_db (h : Nat) : Spares (·.db) (deref h) := by
  refine Spares.bind Spares.get fun w => ?_
  split
  · exact Spares.pure _
  · exact Spares.raise _

theorem kindNameOf_spares_db (v : Value) : Spares (·.db) (kindNameOf v) := by
  unfold kindNameOf
  split
  · exact Spares.bind (deref_spares_db _) fun _ => Spares.pure _
  · exact Spares.pure _

theorem noMember_spares_db {α : Type} (v : Value) (name : String) : Spares (·.db) (noMember v name : Act α) :=
  Spares.bind (kindNameOf_spares_db v) fun _ => Spares.raise _

theorem handlerAt_spares_db (v : Value) : Spares (·.db) (Api.handlerAt v) := by
  unfold Api.handlerAt
  split
  · refine Spares.bind (deref_spares_db _) fun o => ?_
    split
    · exact Spares.pure _
    · exact noMember_spares_db _ _
  · exact noMember_spares_db _ _

theorem changeHandler_spares_db (v : Value) (f : Handler → Handler) : Spares (·.db) (Api.changeHandler v f) :=
  Spares.bind (handlerAt_spares_db v) fun _ => Spares.modify fun _ => rfl

theorem handlerOf_spares_db (v : Value) : Spares (·.db) (Api.handlerOf v) :=
  Spares.bind (handlerAt_spares_db v) fun _ => Spares.pure _

theorem setHeader_spares_db (v : Value) (name : String) (value : Value) :
    Spares (·.db) (Web.setHeader v name value) :=
  Spares.bind (Spares.lift _) fun _ => changeHandler_spares_db _ _

theorem write_spares_db (v : Value) (text : String) : Spares (·.db) (Web.write v text) := by
  refine Spares.bind (Spares.bind (handlerOf_spares_db v) fun _ => Spares.pure _) fun finished => ?_
  dsimp only
  split
  · exact Spares.bind (Spares.raise _) fun _ => changeHandler_spares_db _ _
  · exact changeHandler_spares_db _ _

theorem tell_spares_db (v : Value) (message : String) : Spares (·.db) (Web.tell v message) :=
  Spares.bind (setHeader_spares_db _ _ _) fun _ => write_spares_db _ _

theorem setFailed_spares_db (v : Value) (failed : Bool) : Spares (·.db) (Web.setFailed v failed) :=
  changeHandler_spares_db _ _

theorem addressChanged_spares_db (address : Value) : Spares (·.db) (Web.addressChanged address) :=
  Spares.modify fun _ => rfl

end Replies

/-! ### The writes of a report -/

theorem forIn_deletions_run (xs : List Value) (w : World) :
    (forIn xs PUnit.unit fun extra (_ : PUnit) => do
        let _ ← dbUpdate [extra]
        pure (ForInStep.yield PUnit.unit) : Act PUnit).run w =
      .ok PUnit.unit { w with db := w.db.runAll (xs.map fun r => (.update, [r])) } := by
  induction xs generalizing w with
  | nil => rfl
  | cons x rest ih =>
    rw [List.forIn_cons, EStateM.run_bind, EStateM.run_bind, dbUpdate, Cache.query_run]
    exact ih _

namespace Web

/-- The writes an anonymous report makes once the address has been looked up, given the client
ids on file for the address: an insert when there are none; otherwise a deletion for each id
strictly between the first and the last, from the end, and the closing update. -/
def anonymousWrites (sid agent address client relay : Value) (records : List Value) :
    List (QueryKind × List Value) :=
  if records.isEmpty then [(.update, [sid, address, .int 1, relay, agent, client])]
  else (records.dropLast.drop 1).reverse.map (fun r => (.update, [r])) ++ [(.update, [client, address, relay])]

section Report

variable {v sid userId agent address client relay : Value} {w : World} {records : List Value}

/-- Whatever its outcome, an anonymous report leaves the database the address lookup and the
writes it chose leave. -/
theorem addAnonymous_runAll (ip : (Api.argument v "ip").run w = .ok address w)
    (clientRead : (Api.argument v "client").run w = .ok client w)
    (relayRead : (attributeOf v "relay").run w = .ok relay w)
    (listed : (w.db.call .list (some [address]) "").1 = .list records) :
    (worldAfter (addAnonymous v sid userId agent) w).db =
      w.db.runAll ((.list, [address]) :: anonymousWrites sid agent address client relay records) := by
  have fetched : (fetchList [address]).run w = .ok (.list records) (w.afterCall .list [address]) := by
    rw [fetchList, Cache.query_run, listed]
    rfl
  rw [addAnonymous, worldAfter_bind_ok ip, worldAfter_bind_ok clientRead, worldAfter_bind_ok relayRead,
    worldAfter_bind_ok fetched, worldAfter_bind_ok (rfl : (itemsOf (.list records)).run _ = _)]
  dsimp only
  by_cases none : records.isEmpty
  · -- no record on file: one insert, and the replies leave the database as it is
    rw [if_pos none, worldAfter_bind_ok (dbUpdate_run _ _)]
    refine (Spares.worldAfter (Spares.bind (addressChanged_spares_db _) fun _ =>
      Spares.bind (tell_spares_db _ _) fun _ => Spares.bind (setFailed_spares_db _ _) fun _ =>
        addressChanged_spares_db _) _).trans ?_
    simp [anonymousWrites, none, World.afterCall, Database.runAll]
  · -- the deletions, then the closing update
    rw [if_neg none, worldAfter_bind_ok (forIn_deletions_run _ _), worldAfter_bind_ok (dbUpdate_run _ _)]
    refine (Spares.worldAfter (Spares.bind (tell_spares_db _ _) fun _ =>
      Spares.bind (setFailed_spares_db _ _) fun _ => addressChanged_spares_db _) _).trans ?_
    simp [anonymousWrites, none, World.afterCall, Database.runAll]

/-- The database an anonymous report leaves, whatever its outcome. With no record on file for
the address, one record is inserted. With one, it is updated. With a first and a last record
and any number in between, exactly those in between are deleted, from the end, so that two
records are kept; the closing update is passed the client id, the address and the relay. -/
theorem addAnonymous_database (v sid userId agent : Value) (w : World)
    (ip : (Api.argument v "ip").run w = .ok address w)
    (clientRead : (Api.argument v "client").run w = .ok client w)
    (relayRead : (attributeOf v "relay").run w = .ok relay w)
    (listed : (w.db.call .list (some [address]) "").1 = .list records) :
    (records = [] → (worldAfter (addAnonymous v sid userId agent) w).db =
      w.db.runAll [(.list, [address]), (.update, [sid, address, .int 1, relay, agent, client])]) ∧
    (∀ r, records = [r] → (worldAfter (addAnonymous v sid userId agent) w).db =
      w.db.runAll [(.list, [address]), (.update, [client, address, relay])]) ∧
    (∀ first between last, records = first :: between ++ [last] →
      (worldAfter (addAnonymous v sid userId agent) w).db =
        w.db.runAll ((.list, [address]) :: between.reverse.map (fun r => (.update, [r])) ++
          [(.update, [client, address, relay])])) := by
  rw [addAnonymous_runAll ip clientRead relayRead listed]
  refine ⟨fun empty => by simp [anonymousWrites, empty], fun r single => by simp [anonymousWrites, single],
    fun first between last split => ?_⟩
  -- the last id is set aside and the first is never reached, leaving those in between
  have inner : records.dropLast.drop 1 = between := by
    rw [split, List.dropLast_concat]
    rfl
  rw [anonymousWrites, if_neg (by simp [split]), inner]
  rfl

end Report

/-- A handler under 0 for a relay named "sample", reporting client 55 at 203.0.113.9, where the
database has two client ids on file for the address. -/
def twoOnFile : World where
  store := #[.handler
    { route := "/api4/listener_add", extra := [("relay", .str "sample")]
      cleanedArgs := [(.str "ip", .str "203.0.113.9"), (.str "client", .str "55")] }]
  db := { queues := { list := [.list [.int 101, .int 102]] } }

/-- With two ids on file, neither is deleted, and the closing update selects by the relay. -/
theorem twoOnFile_keeps_both :
    (worldAfter (addAnonymous (.ref 0) (.int 1) (.int 1) (.str "VLC/3.0")) twoOnFile).db =
      twoOnFile.db.runAll [(.list, [.str "203.0.113.9"]), (.update, [.str "55", .str "203.0.113.9", .str "sample"])] :=
  (addAnonymous_database (.ref 0) (.int 1) (.int 1) (.str "VLC/3.0") twoOnFile rfl rfl rfl rfl).2.2
    (.int 101) [] (.int 102) rfl

end Web

end Airwaves
