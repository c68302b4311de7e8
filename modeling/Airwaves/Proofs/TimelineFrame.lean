import Airwaves.Proofs.LoadFrame
/-!
# What leaves the timeline alone

`KeepsTimeline`: an action that leaves the three timeline tables as it found them, whether it
returns or fails; instance search carries it through binds, branches, loops and handlers. It does
not open a `match`: an action that matches on what it read is split arm by arm, and the few whose
matches nest under further binds and loops are walked with `repeat'`.
-/

namespace Airwaves

/-- The three tables of the timeline: every station's event playing, its events coming up and
its last events played. -/
def Timeline.tables (w : World) : Value × Value × Value :=
  (w.globals.current, w.globals.upnext, w.globals.history)

open Timeline

/-- An action that leaves the timeline as it found it, whether it returns or fails. -/
class KeepsTimeline {α : Type} (x : Act α) : Prop where
  guards : Guards (fun w w' => tables w' = tables w) x

namespace KeepsTimeline

variable {α β γ : Type}

theorem ok_tables {x : Act α} [K : KeepsTimeline x] {w : World} {a : α} {w' : World}
    (run : x.run w = .ok a w') : tables w' = tables w :=
  (K.guards w).1 a w' run

theorem error_tables {x : Act α} [K : KeepsTimeline x] {w : World} {f : Fault} {w' : World}
    (run : x.run w = .error f w') : tables w' = tables w :=
  (K.guards w).2 f w' run

instance pure (a : α) : KeepsTimeline (Pure.pure a : Act α) :=
  ⟨fun _ => ⟨fun _ _ run => by cases run; rfl, fun _ _ run => (by cases run)⟩⟩

instance throw (f : Fault) : KeepsTimeline (MonadExcept.throw f : Act α) :=
  ⟨fun _ => ⟨fun _ _ run => (by cases run), fun _ _ run => by cases run; rfl⟩⟩

instance get : KeepsTimeline (MonadState.get : Act World) :=
  ⟨fun _ => ⟨fun _ _ run => by cases run; rfl, fun _ _ run => (by cases run)⟩⟩

/-- A state change keeps the timeline when it leaves the three tables alone. -/
theorem of_modifyGet (f : World → α × World) (kept : ∀ w, tables (f w).2 = tables w) :
    KeepsTimeline (MonadStateOf.modifyGet f : Act α) :=
  ⟨fun w => ⟨fun _ _ run => by cases run; exact kept w, fun _ _ run => (by cases run)⟩⟩

theorem of_modify (f : World → World) (kept : ∀ w, tables (f w) = tables w) :
    KeepsTimeline (modify f : Act PUnit) :=
  of_modifyGet _ kept

theorem bind_of {x : Act α} {f : α → Act β} (hx : KeepsTimeline x)
    (hf : ∀ a, KeepsTimeline (f a)) : KeepsTimeline (x >>= f) := by
  refine ⟨fun w => ?_⟩
  simp only [EStateM.run_bind]
  cases ran : x.run w with
  | ok a w1 =>
    -- the rest starts where the first action left off
    exact ⟨fun r w' run => (ok_tables run).trans (ok_tables ran),
      fun e w' run => (error_tables run).trans (ok_tables ran)⟩
  | error e w1 =>
    refine ⟨fun r w' run => ?_, fun e' w' run => ?_⟩
    · cases run
    · cases run
      exact error_tables ran

instance bind (x : Act α) (f : α → Act β) [hx : KeepsTimeline x] [hf : ∀ a, KeepsTimeline (f a)] :
    KeepsTimeline (x >>= f) :=
  bind_of hx hf

theorem ite_of {c : Prop} [Decidable c] {x y : Act α} (hx : KeepsTimeline x) (hy : KeepsTimeline y) :
    KeepsTimeline (if c then x else y) := by
  split
  · exact hx
  · exact hy

instance ite (c : Prop) [Decidable c] (x y : Act α) [hx : KeepsTimeline x] [hy : KeepsTimeline y] :
    KeepsTimeline (if c then x else y) :=
  ite_of hx hy

theorem tryCatch_of {x : Act α} {h : Fault → Act α} (hx : KeepsTimeline x)
    (hh : ∀ e, KeepsTimeline (h e)) : KeepsTimeline (tryCatch x h) := by
  refine ⟨fun w => ?_⟩
  rw [run_tryCatch]
  cases ran : x.run w with
  | ok a w1 =>
    refine ⟨fun r w' run => ?_, fun e w' run => ?_⟩
    · cases run
      exact ok_tables ran
    · cases run
  | error e w1 =>
    -- the handler starts where the failure left off
    exact ⟨fun r w' run => (ok_tables run).trans (error_tables ran),
      fun e' w' run => (error_tables run).trans (error_tables ran)⟩

instance tryCatch (x : Act α) (h : Fault → Act α) [hx : KeepsTimeline x]
    [hh : ∀ e, KeepsTimeline (h e)] : KeepsTimeline (tryCatch x h) :=
  tryCatch_of hx hh

theorem forIn_of (xs : List γ) (b : β) {f : γ → β → Act (ForInStep β)}
    (hf : ∀ x b, KeepsTimeline (f x b)) : KeepsTimeline (forIn xs b f) := by
  induction xs generalizing b with
  | nil => exact pure b
  | cons x rest ih =>
    rw [List.forIn_cons]
    refine bind_of (hf x b) fun step => ?_
    cases step with
    | done b' => exact pure b'
    | yield b' => exact ih b'

instance forIn (xs : List γ) (b : β) (f : γ → β → Act (ForInStep β))
    [hf : ∀ x b, KeepsTimeline (f x b)] : KeepsTimeline (forIn xs b f) :=
  forIn_of xs b hf

theorem mapM_of {xs : List γ} {f : γ → Act β} (hf : ∀ x, KeepsTimeline (f x)) :
    KeepsTimeline (xs.mapM f) := by
  induction xs with
  | nil => exact pure []
  | cons x rest ih =>
    rw [List.mapM_cons]
    exact bind_of (hf x) fun b => bind_of ih fun bs => pure _

instance mapM (xs : List γ) (f : γ → Act β) [hf : ∀ x, KeepsTimeline (f x)] :
    KeepsTimeline (xs.mapM f) :=
  mapM_of hf

end KeepsTimeline

open KeepsTimeline

instance {α : Type} {f : Fault} : KeepsTimeline (Act.raise f : Act α) := throw f
instance {α : Type} {kind : FaultKind} {message : String} : KeepsTimeline (Act.fail kind message : Act α) := throw _
instance {α : Type} {e : Except Fault α} : KeepsTimeline (Act.lift e) := by
  unfold Act.lift; split <;> infer_instance
instance {α : Type} {x : Act α} [KeepsTimeline x] : KeepsTimeline (Act.attempt x) := by
  unfold Act.attempt; infer_instance

/-! ## The world -/

instance : KeepsTimeline clock := by unfold clock; infer_instance

instance : KeepsTimeline clockValue := by unfold clockValue; infer_instance

instance : KeepsTimeline clockSeconds := by unfold clockSeconds; infer_instance

instance {lo hi : Int} : KeepsTimeline (randomBetween lo hi) := by
  unfold randomBetween
  repeat' first | infer_instance | split | with_reducible refine bind_of ?_ fun _ => ?_ | refine forIn_of _ _ fun _ _ => ?_ | exact of_modify _ fun _ => rfl

instance {xs : List Value} : KeepsTimeline (shuffled xs) := by
  unfold shuffled
  repeat' first | infer_instance | split | with_reducible refine bind_of ?_ fun _ => ?_ | refine forIn_of _ _ fun _ _ => ?_ | exact of_modify _ fun _ => rfl

instance {k : QueryKind} {params : List Value} : KeepsTimeline (query k params) :=
  of_modifyGet _ fun _ => rfl

instance {k : QueryKind} {sql : String} : KeepsTimeline (queryText k sql) :=
  of_modifyGet _ fun _ => rfl

instance {k : QueryKind} {sql : String} {params : List Value} : KeepsTimeline (queryStatement k sql params) :=
  of_modifyGet _ fun _ => rfl

instance {params : List Value} : KeepsTimeline (fetchVar params) := by
  unfold fetchVar; infer_instance

instance {params : List Value} : KeepsTimeline (fetchRow params) := by
  unfold fetchRow; infer_instance

instance {params : List Value} : KeepsTimeline (fetchAll params) := by
  unfold fetchAll; infer_instance

instance {params : List Value} : KeepsTimeline (fetchList params) := by
  unfold fetchList; infer_instance

instance {params : List Value} : KeepsTimeline (dbUpdate params) := by
  unfold dbUpdate; infer_instance

instance {table column : String} : KeepsTimeline (nextId table column) :=
  of_modifyGet _ fun _ => rfl

instance : KeepsTimeline rollback := of_modify _ fun _ => rfl

instance : KeepsTimeline joinsOnUpdate := by unfold joinsOnUpdate; infer_instance

instance {o : Obj} : KeepsTimeline (alloc o) := of_modifyGet _ fun _ => rfl

instance {o : Obj} : KeepsTimeline (allocRef o) := by unfold allocRef; infer_instance

instance {h : Nat} : KeepsTimeline (deref h) := by
  unfold deref
  refine bind_of inferInstance fun _ => ?_
  split <;> infer_instance

instance {h : Nat} {o : Obj} : KeepsTimeline (store h o) := of_modify _ fun _ => rfl

instance {v : Value} : KeepsTimeline (kindNameOf v) := by
  unfold kindNameOf
  split <;> infer_instance

instance {α : Type} {v : Value} {name : String} : KeepsTimeline (noMember v name : Act α) := by
  unfold noMember; infer_instance

instance {v : Value} {name : String} : KeepsTimeline (attributeOf v name) := by
  unfold attributeOf
  split
  · refine bind_of inferInstance fun _ => ?_
    split <;> infer_instance
  all_goals infer_instance

instance {container key : Value} : KeepsTimeline (itemOf container key) := by
  unfold itemOf
  repeat' first | infer_instance | split | with_reducible refine bind_of ?_ fun _ => ?_

instance {v : Value} : KeepsTimeline (songAt v) := by
  unfold songAt
  split
  · refine bind_of inferInstance fun _ => ?_
    split <;> infer_instance
  · infer_instance

instance {v : Value} : KeepsTimeline (metadataAt v) := by
  unfold metadataAt
  split
  · refine bind_of inferInstance fun _ => ?_
    split <;> infer_instance
  · infer_instance

instance {v : Value} : KeepsTimeline (eventAt v) := by
  unfold eventAt
  split
  · refine bind_of inferInstance fun _ => ?_
    split <;> infer_instance
  · infer_instance

instance {v : Value} : KeepsTimeline (producerAt v) := by
  unfold producerAt
  split
  · refine bind_of inferInstance fun _ => ?_
    split <;> infer_instance
  · infer_instance

instance {v : Value} : KeepsTimeline (userAt v) := by
  unfold userAt
  split
  · refine bind_of inferInstance fun _ => ?_
    split <;> infer_instance
  · infer_instance

instance {h : Nat} {f : Song → Song} : KeepsTimeline (updateSong h f) := by
  unfold updateSong
  refine bind_of inferInstance fun _ => ?_
  split <;> infer_instance

instance {h : Nat} {f : Metadata → Metadata} : KeepsTimeline (updateMetadata h f) := by
  unfold updateMetadata
  refine bind_of inferInstance fun _ => ?_
  split <;> infer_instance

instance {h : Nat} {f : Event → Event} : KeepsTimeline (updateEvent h f) := by
  unfold updateEvent
  refine bind_of inferInstance fun _ => ?_
  split <;> infer_instance

instance {h : Nat} {f : Producer → Producer} : KeepsTimeline (updateProducer h f) := by
  unfold updateProducer
  refine bind_of inferInstance fun _ => ?_
  split <;> infer_instance

instance {h : Nat} {f : User → User} : KeepsTimeline (updateUser h f) := by
  unfold updateUser
  refine bind_of inferInstance fun _ => ?_
  split <;> infer_instance

instance {v : Value} : KeepsTimeline (publish v) := of_modify _ fun _ => rfl

/-- Setting a timer writes the outbox and the timer count. -/
instance {seconds : Double} {callback : String} {run : Callback} :
    KeepsTimeline (addTimer seconds callback run) :=
  ⟨fun _ => ⟨fun _ _ run => by cases run; rfl, fun _ _ run => (by cases run)⟩⟩

/-! ## Configuration -/

instance : KeepsTimeline Config.current := by unfold Config.current; infer_instance

instance {key : Value} : KeepsTimeline (Config.has key) := by unfold Config.has; infer_instance

instance {key : Value} : KeepsTimeline (Config.require key) := by
  unfold Config.require; infer_instance

instance {key : Value} : KeepsTimeline (Config.option key) := by
  unfold Config.option; infer_instance

instance {key : String} : KeepsTimeline (Config.get key) := by unfold Config.get; infer_instance

instance : KeepsTimeline (Config.stations) := by
  unfold Config.stations
  refine bind_of inferInstance fun _ => ?_
  split <;> infer_instance

instance {sid key : Value} : KeepsTimeline (Config.hasStation sid key) := by
  unfold Config.hasStation
  refine bind_of inferInstance fun _ => ?_
  split <;> infer_instance

instance {sid key : Value} : KeepsTimeline (Config.station sid key) := by
  unfold Config.station
  repeat' first | infer_instance | split | with_reducible refine bind_of ?_ fun _ => ?_

instance {sid : Value} {key : String} : KeepsTimeline (Config.stationGet sid key) := by
  unfold Config.stationGet; infer_instance

instance : KeepsTimeline (Config.stationIdList) := by unfold Config.stationIdList; infer_instance

/-! ## Operations on values -/

instance {row : Value} {key : String} : KeepsTimeline (col row key) := by unfold col; infer_instance

instance {a b : Value} : KeepsTimeline (plus a b) := by unfold plus; infer_instance

instance {a b : Value} : KeepsTimeline (plusIn a b) := by unfold plusIn; infer_instance

instance {a b : Value} : KeepsTimeline (minus a b) := by unfold minus; infer_instance

instance {a b : Value} : KeepsTimeline (minusIn a b) := by unfold minusIn; infer_instance

instance {a b : Value} : KeepsTimeline (times a b) := by unfold times; infer_instance

instance {a b : Value} : KeepsTimeline (divide a b) := by unfold divide; infer_instance

instance {v : Value} : KeepsTimeline (asFloat v) := by unfold asFloat; infer_instance

instance {v : Value} : KeepsTimeline (asInt v) := by unfold asInt; infer_instance

instance {v : Value} {places : Int} : KeepsTimeline (roundTo v places) := by
  unfold roundTo; infer_instance

instance {v : Value} : KeepsTimeline (itemsOf v) := by
  unfold itemsOf
  split <;> infer_instance

instance {key container : Value} : KeepsTimeline (isIn key container) := by
  unfold isIn
  split <;> infer_instance

instance {v : Value} : KeepsTimeline (lengthOf v) := by
  unfold lengthOf
  split
  · refine bind_of inferInstance fun _ => ?_
    split <;> infer_instance
  · infer_instance

instance {a b : Value} : KeepsTimeline (isLess a b) := by unfold isLess; infer_instance

instance {a b : Value} : KeepsTimeline (isGreater a b) := by unfold isGreater; infer_instance

instance {a b : Value} : KeepsTimeline (isAtLeast a b) := by unfold isAtLeast; infer_instance

instance {a b : Value} : KeepsTimeline (isAtMost a b) := by unfold isAtMost; infer_instance

instance {a b : Act Bool} [KeepsTimeline a] [KeepsTimeline b] : KeepsTimeline (andAlso a b) := by
  unfold andAlso; infer_instance

instance {a b : Value} : KeepsTimeline (larger a b) := by unfold larger; infer_instance

instance {a b : Value} : KeepsTimeline (smaller a b) := by unfold smaller; infer_instance

instance : KeepsTimeline timestamp := by unfold timestamp; infer_instance

instance : KeepsTimeline timestampInt := by unfold timestampInt; infer_instance

/-! ## The cache -/

instance : KeepsTimeline (Cache.state) := by unfold Cache.state; infer_instance

instance {f : Cache → Cache} : KeepsTimeline (Cache.change f) := of_modify _ fun _ => rfl

instance {op : String} : KeepsTimeline (Cache.requireClient op) := by
  unfold Cache.requireClient; infer_instance

instance {key : String} {v : Value} {keepLocal : Bool} : KeepsTimeline (Cache.put key v keepLocal) := by
  unfold Cache.put; infer_instance

instance {key : String} : KeepsTimeline (Cache.read key) := by
  unfold Cache.read
  refine bind_of inferInstance fun _ => ?_
  split <;> infer_instance

instance {sid : Value} {key : String} {v : Value} {keepLocal : Bool} : KeepsTimeline (Cache.putStation sid key v keepLocal) := by
  unfold Cache.putStation; infer_instance

instance {sid : Value} {key : String} : KeepsTimeline (Cache.readStation sid key) := by
  unfold Cache.readStation; infer_instance

instance {songId userId rating : Value} : KeepsTimeline (Cache.putSongRating songId userId rating) := by
  unfold Cache.putSongRating; infer_instance

instance {songId userId : Value} : KeepsTimeline (Cache.readSongRating songId userId) := by
  unfold Cache.readSongRating; infer_instance

instance {sid albumId userId rating : Value} : KeepsTimeline (Cache.putAlbumRating sid albumId userId rating) := by
  unfold Cache.putAlbumRating; infer_instance

instance {sid albumId userId : Value} : KeepsTimeline (Cache.readAlbumRating sid albumId userId) := by
  unfold Cache.readAlbumRating; infer_instance

instance {key : String} {v : Value} : KeepsTimeline (Cache.rewrite key v) := by
  unfold Cache.rewrite; infer_instance

instance {sid songId : Value} : KeepsTimeline (Cache.updateRatingAcl sid songId) := by
  unfold Cache.updateRatingAcl; infer_instance

end Airwaves
