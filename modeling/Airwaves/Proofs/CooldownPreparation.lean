import Airwaves.Proofs.ScriptedAnswers
import Airwaves.Proofs.StationConfig
import Airwaves.Catalog.Cooldown
/-!
# Cooldown figures of a station without an average song length

The average song length is converted before its fallback applies, so a station whose aggregate
is missing never gets its figures.
-/

namespace Airwaves.Cooldown

variable {α β : Type} {i : Nat}

/-- Every successful run of the action starts from a world whose `i`-th single-value answer to
come is not missing. -/
def NeedsAnswer (i : Nat) (x : Act α) : Prop :=
  ∀ w r w', x.run w = .ok r w' → w.db.varAnswer i ≠ .none

/-- A successful run of the action either leaves the database as it was, or started from a
world whose `i`-th single-value answer to come is not missing. -/
def ReadsOnlyAnswered (i : Nat) (x : Act α) : Prop :=
  ∀ w r w', x.run w = .ok r w' → w'.db = w.db ∨ w.db.varAnswer i ≠ .none

namespace NeedsAnswer

theorem bind_of_keeps {x : Act α} {f : α → Act β} (hx : Keeps (·.db) x)
    (hf : ∀ a, NeedsAnswer i (f a)) : NeedsAnswer i (x >>= f) := by
  intro w r w' run
  obtain ⟨a, w1, first, rest⟩ := run_bind_eq_ok run
  have kept : w1.db = w.db := hx w a w1 first
  rw [← kept]
  exact hf a w1 r w' rest

/-- A single-value call moves the answers to come up by one. -/
theorem fetchVar_bind {ps : List Value} {f : Value → Act β} (hf : ∀ a, NeedsAnswer i (f a)) :
    NeedsAnswer (i + 1) (fetchVar ps >>= f) := by
  intro w r w' run
  rw [run_bind_ok (fetchVar_run w ps)] at run
  rw [← Database.varAnswer_call_var w.db (some ps) ""]
  exact hf _ _ r w' run

/-- Converting to a double the answer just read needs that answer. -/
theorem fetchVar_asFloat {ps : List Value} {f : Value → Value → Act β} :
    NeedsAnswer 0 (fetchVar ps >>= fun a => asFloat a >>= f a) := by
  intro w r w' run missing
  rw [run_bind_ok (fetchVar_run w ps), missing] at run
  obtain ⟨_, _, converted, -⟩ := run_bind_eq_ok run
  simp only [asFloat, Value.toFloat, Value.number?, Act.lift] at converted
  cases converted

end NeedsAnswer

namespace ReadsOnlyAnswered

theorem pure (a : α) : ReadsOnlyAnswered i (Pure.pure a : Act α) := by
  intro w r w' run
  exact .inl (congrArg World.db (run_pure_eq_ok run).2)

theorem of_needs {x : Act α} (hx : NeedsAnswer i x) : ReadsOnlyAnswered i x :=
  fun w r w' run => .inr (hx w r w' run)

theorem bind_of_keeps {x : Act α} {f : α → Act β} (hx : Keeps (·.db) x)
    (hf : ∀ a, ReadsOnlyAnswered i (f a)) : ReadsOnlyAnswered i (x >>= f) := by
  intro w r w' run
  obtain ⟨a, w1, first, rest⟩ := run_bind_eq_ok run
  have kept : w1.db = w.db := hx w a w1 first
  rw [← kept]
  exact hf a w1 r w' rest

end ReadsOnlyAnswered

/-! ### Steps that leave the database alone -/

theorem lift_keeps_db (e : Except Fault α) : Keeps (·.db) (Act.lift e) :=
  Keeps.of_readOnly (ReadOnly.lift e)

theorem table_keeps_db : Keeps (·.db) table :=
  Keeps.of_readOnly (ReadOnly.get.bind fun _ => .pure _)

theorem isIn_keeps_db (key container : Value) : Keeps (·.db) (isIn key container) :=
  Keeps.of_readOnly (Listeners.isIn_readOnly key container)

theorem figure_keeps_db (sid : Value) (key : String) : Keeps (·.db) (figure sid key) :=
  Keeps.of_readOnly (ReadOnly.get.bind fun _ => (itemOf_readOnly _ _).bind fun _ => itemOf_readOnly _ _)

theorem timestamp_keeps_db : Keeps (·.db) timestamp :=
  Keeps.of_readOnly (ReadOnly.get.bind fun _ => .pure _)

theorem isGreater_keeps_db (a b : Value) : Keeps (·.db) (isGreater a b) :=
  Keeps.of_readOnly (ReadOnly.pure _)

theorem clamp_keeps_db (low v high : Value) : Keeps (·.db) (clamp low v high) :=
  Keeps.of_readOnly ((ReadOnly.lift _).bind fun _ => ReadOnly.lift _)

theorem stationGet_keeps_db (sid : Value) (key : String) : Keeps (·.db) (Config.stationGet sid key) :=
  Keeps.of_readOnly (Config.stationGet_readOnly sid key)

/-- Storing a figure writes the cooldown table, which is not part of the database. -/
theorem setFigure_keeps_db (sid : Value) (key : String) (v : Value) :
    Keeps (·.db) (setFigure sid key v) := by
  intro w r w' run
  obtain ⟨_, w1, read, stored⟩ := run_bind_eq_ok run
  simp only [table, EStateM.run_bind, EStateM.run_get, EStateM.run_pure,
    EStateM.Result.ok.injEq] at read
  simp only [EStateM.run_modify, EStateM.Result.ok.injEq] at stored
  rw [← stored.2, ← read.2]

/-- On a station whose fifth aggregate, the average song length, comes back missing, preparing
the cooldown figures either fails or returns before it reads the database: it never recomputes
the figures. -/
theorem prepare_fails_without_length {w : World} (sid : Value) (fifth : w.db.varAnswer 4 = .none) :
    ∀ u w', (prepare sid).run w = .ok u w' → w'.db = w.db := by
  have walked : ReadsOnlyAnswered 4 (prepare sid) := by
    unfold prepare
    dsimp only
    -- the fifth single-value call is the average song length, converted before its fallback
    repeat' first
      | with_reducible exact NeedsAnswer.fetchVar_asFloat
      | with_reducible refine ReadsOnlyAnswered.of_needs (NeedsAnswer.fetchVar_bind fun _ => ?_)
      | with_reducible refine NeedsAnswer.fetchVar_bind fun _ => ?_
      | with_reducible refine ReadsOnlyAnswered.bind_of_keeps ?_ fun _ => ?_
      | with_reducible refine NeedsAnswer.bind_of_keeps ?_ fun _ => ?_
      | with_reducible exact ReadsOnlyAnswered.pure _
      | with_reducible exact table_keeps_db
      | with_reducible exact isIn_keeps_db _ _
      | with_reducible exact figure_keeps_db _ _
      | with_reducible exact timestamp_keeps_db
      | with_reducible exact isGreater_keeps_db _ _
      | with_reducible exact clamp_keeps_db _ _ _
      | with_reducible exact stationGet_keeps_db _ _
      | with_reducible exact setFigure_keeps_db _ _ _
      | exact lift_keeps_db _
      | split
  intro u w' run
  rcases walked w u w' run with kept | answered
  · exact kept
  · exact absurd fifth answered

/-- On a station with no songs, where every aggregate comes back missing, preparation never
recomputes the figures. -/
theorem emptyStation_never_prepared :
    ({} : World).db.varAnswer 4 = .none ∧
      ∀ u w', (prepare (.int 1)).run {} = .ok u w' → w'.db = ({} : World).db :=
  ⟨rfl, prepare_fails_without_length (.int 1) rfl⟩

end Airwaves.Cooldown
