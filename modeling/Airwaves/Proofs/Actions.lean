import Airwaves.Ops
import Airwaves.Cache.Basic
import Mathlib.Tactic.Common
/-!
# Reasoning about actions on the world

How a successful run of a sequence splits into runs of its parts, what a loop keeps when each
pass keeps it, which actions only read the world, and what the cache and configuration return.
-/

namespace Airwaves

/-! ### Comparisons and mappings -/

namespace Value

theorem lessEq_int (a b : Int) : Value.lessEq (.int a) (.int b) = decide (a ≤ b) := by
  simp only [Value.lessEq, Value.isNaN]
  show (!false && !false && (compare a b != .gt)) = decide (a ≤ b)
  by_cases h : a ≤ b
  · simp [Int.compare_ne_gt.mpr h, h]
  · simp [Int.compare_eq_gt.mpr (Int.lt_of_not_ge h), h]

theorem greater_int (a b : Int) : Value.greater (.int a) (.int b) = decide (b < a) := by
  simp only [Value.greater]
  show (compare a b == .gt) = decide (b < a)
  by_cases h : b < a
  · simp [Int.compare_eq_gt.mpr h, h]
  · simp [Int.compare_ne_gt.mpr (Int.le_of_not_gt h), h]

theorem equals_int_self (n : Int) : Value.equals (.int n) (.int n) = true := by
  simp [Value.equals]

/-- `int(math.floor(a))` of a whole number that is not negative is a whole number that is not
negative, whenever it gives one at all. -/
theorem floorToInt_int_nonneg {a : Int} (ha : 0 ≤ a) {v : Value}
    (h : Value.floorToInt (.int a) = .ok v) : ∃ m : Int, v = .int m ∧ 0 ≤ m := by
  simp only [Value.floorToInt, Value.number?] at h
  split at h
  · rename_i m _
    simp only [Except.ok.injEq] at h
    exact ⟨m, by simp [← h, show ¬a < 0 by omega], by omega⟩
  · cases h

end Value

namespace Dict

theorem lookup?_cons (e : Value × Value) (rest : Dict) (k : Value) :
    lookup? (e :: rest) k = if Value.equals e.1 k then some e.2 else lookup? rest k := by
  by_cases h : Value.equals e.1 k <;> simp [lookup?, h]

theorem lookup?_nil (k : Value) : lookup? [] k = none := rfl

theorem lookup?_append (d d' : Dict) (k : Value) :
    lookup? (d ++ d') k = (lookup? d k).or (lookup? d' k) := by
  induction d with
  | nil => simp [lookup?_nil]
  | cons e rest ih => by_cases h : Value.equals e.1 k <;> simp [lookup?_cons, h, ih]

/-- Setting a key that equals itself makes a lookup of it find the new value: in place when the
key is there, at the end when it is not. -/
theorem lookup?_put_self (d : Dict) {k : Value} (x : Value) (hk : Value.equals k k = true) :
    lookup? (put d k x) k = some x := by
  unfold put
  split
  · rename_i has
    induction d with
    | nil => simp [hasKey, lookup?_nil] at has
    | cons e rest ih =>
      by_cases he : Value.equals e.1 k
      · simp [lookup?_cons, he]
      · simp only [hasKey, lookup?_cons, he] at has
        simpa [lookup?_cons, he] using ih has
  · rename_i absent
    simp only [hasKey, Option.isSome_iff_ne_none, ne_eq, not_not] at absent
    simp [lookup?_append, absent, lookup?_cons, hk]

end Dict

theorem withEntry_lookup (t : Value) {k : Value} (x : Value) (hk : Value.equals k k = true) :
    ∃ d, withEntry t k x = .dict d ∧ Dict.lookup? d k = some x := by
  cases t <;> simp [withEntry, Dict.lookup?_put_self _ _ hk, Dict.lookup?_cons, hk]

/-! ### Runs of sequenced actions -/

@[simp] theorem Act.raise_run {α : Type} (f : Fault) (w : World) :
    (Act.raise f : Act α).run w = .error f w := rfl

theorem run_bind_ok {α β : Type} {x : Act α} {f : α → Act β} {w w' : World} {a : α}
    (h : x.run w = .ok a w') : (x >>= f).run w = (f a).run w' := by
  simp [EStateM.run_bind, h]

theorem run_bind_eq_ok {α β : Type} {x : Act α} {f : α → Act β} {w w' : World} {b : β}
    (h : (x >>= f).run w = .ok b w') : ∃ a w1, x.run w = .ok a w1 ∧ (f a).run w1 = .ok b w' := by
  rw [EStateM.run_bind] at h
  split at h
  · exact ⟨_, _, ‹_›, h⟩
  · cases h

theorem run_pure_eq_ok {α : Type} {a b : α} {w w' : World}
    (h : (pure a : Act α).run w = .ok b w') : b = a ∧ w' = w := by
  simp only [EStateM.run_pure, EStateM.Result.ok.injEq] at h
  exact ⟨h.1.symm, h.2.symm⟩

theorem run_map {α β : Type} (f : α → β) (x : Act α) (w : World) :
    (f <$> x).run w = match x.run w with
      | .ok a w' => .ok (f a) w'
      | .error e w' => .error e w' := by
  rw [← bind_pure_comp, EStateM.run_bind]
  cases x.run w <;> rfl

/-- Mapping an action that reads a value for each item without changing the world reads
them all. -/
theorem mapM_run {α β : Type} {f : α → Act β} {g : α → β} {w : World} {xs : List α}
    (hf : ∀ x ∈ xs, (f x).run w = .ok (g x) w) : (xs.mapM f).run w = .ok (xs.map g) w := by
  induction xs with
  | nil => rfl
  | cons x xs ih =>
    rw [List.mapM_cons, run_bind_ok (hf x List.mem_cons_self),
      run_bind_ok (ih fun y mem => hf y (List.mem_cons_of_mem _ mem))]
    rfl

theorem filterAuxM_run {α : Type} {p : α → Act Bool} {q : α → Bool} {w : World} (xs : List α)
    (hp : ∀ x ∈ xs, (p x).run w = .ok (q x) w) (acc : List α) :
    (List.filterAuxM p xs acc).run w = .ok ((xs.filter q).reverse ++ acc) w := by
  induction xs generalizing acc with
  | nil => rfl
  | cons x xs ih =>
    rw [List.filterAuxM, run_bind_ok (hp x List.mem_cons_self),
      ih (fun y mem => hp y (List.mem_cons_of_mem _ mem))]
    cases hq : q x <;> simp [hq]

/-- Filtering by an action that reads a truth value for each item without changing the world
filters by those values. -/
theorem filterM_run {α : Type} {p : α → Act Bool} {q : α → Bool} {w : World} {xs : List α}
    (hp : ∀ x ∈ xs, (p x).run w = .ok (q x) w) : (xs.filterM p).run w = .ok (xs.filter q) w := by
  unfold List.filterM
  rw [run_bind_ok (filterAuxM_run xs hp [])]
  simp

/-- A property of the loop state and the world that each pass keeps holds when a loop over a
list ends, whether it runs out of items or breaks. -/
theorem forIn_run_invariant {α β : Type} (P : β → World → Prop) (f : α → β → Act (ForInStep β))
    (step : ∀ x b r w w', P b w → (f x b).run w = .ok r w' → P r.value w') :
    ∀ (xs : List α) (b : β) (r : β) (w w' : World), P b w → (forIn xs b f).run w = .ok r w' →
      P r w' := by
  intro xs
  induction xs with
  | nil =>
    intro b r w w' hb run
    obtain ⟨rfl, rfl⟩ := run_pure_eq_ok run
    exact hb
  | cons x rest ih =>
    intro b r w w' hb run
    rw [List.forIn_cons] at run
    obtain ⟨s, w1, pass, run⟩ := run_bind_eq_ok run
    have kept := step x b s w w1 hb pass
    cases s with
    | done b' =>
      obtain ⟨rfl, rfl⟩ := run_pure_eq_ok run
      exact kept
    | yield b' => exact ih b' r w1 w' kept run

/-! ### Actions that only read -/

/-- An action that, whenever it succeeds, leaves the world as it found it. -/
def ReadOnly {α : Type} (x : Act α) : Prop := ∀ w v w', x.run w = .ok v w' → w' = w

namespace ReadOnly

theorem bind {α β : Type} {x : Act α} {f : α → Act β} (hx : ReadOnly x)
    (hf : ∀ a, ReadOnly (f a)) : ReadOnly (x >>= f) := by
  intro w v w' h
  obtain ⟨a, w1, h1, h2⟩ := run_bind_eq_ok h
  rw [hf a w1 v w' h2, hx w a w1 h1]

theorem pure {α : Type} (a : α) : ReadOnly (pure a : Act α) :=
  fun _ _ _ h => (run_pure_eq_ok h).2

theorem raise {α : Type} (f : Fault) : ReadOnly (Act.raise f : Act α) := by
  intro w v w' h
  simp at h

theorem get : ReadOnly (get : Act World) := by
  intro w v w' h
  simp only [EStateM.run_get, EStateM.Result.ok.injEq] at h
  exact h.2.symm

theorem lift {α : Type} (e : Except Fault α) : ReadOnly (Act.lift e) := by
  cases e with
  | ok a => exact .pure a
  | error f => exact .raise f

theorem forIn {α β : Type} (xs : List α) (b : β) {f : α → β → Act (ForInStep β)}
    (hf : ∀ x b, ReadOnly (f x b)) : ReadOnly (forIn xs b f) := by
  intro w r w' run
  exact forIn_run_invariant (fun _ w1 => w1 = w) f
    (fun x b _ w1 w2 same run => (hf x b w1 _ w2 run).trans same) xs b r w w' rfl run

end ReadOnly

theorem deref_run_inv {w w' : World} {h : Nat} {o : Obj} (run : (deref h).run w = .ok o w') :
    w' = w ∧ w.store[h]? = some o := by
  unfold deref at run
  simp only [EStateM.run_bind, EStateM.run_get] at run
  split at run
  · obtain ⟨rfl, rfl⟩ := run_pure_eq_ok run
    exact ⟨rfl, ‹_›⟩
  · cases run

theorem deref_readOnly (h : Nat) : ReadOnly (deref h) :=
  fun _ _ _ run => (deref_run_inv run).1

theorem kindNameOf_readOnly (v : Value) : ReadOnly (kindNameOf v) := by
  unfold kindNameOf
  split
  · exact (deref_readOnly _).bind fun _ => .pure _
  · exact .pure _

/-- Reading an item of a container never changes the world: every branch either answers or
fails, looking objects up in the store on the way. -/
theorem itemOf_readOnly (c k : Value) : ReadOnly (itemOf c k) := by
  unfold itemOf
  dsimp only
  -- one branch per kind of container and key, each a lookup, a return or a failure
  repeat' first
    | split
    | with_reducible exact ReadOnly.pure _
    | with_reducible exact ReadOnly.raise _
    | with_reducible exact deref_readOnly _
    | with_reducible exact kindNameOf_readOnly _
    | with_reducible apply ReadOnly.bind
    | intro _

theorem noMember_readOnly {α : Type} (v : Value) (name : String) :
    ReadOnly (noMember v name : Act α) :=
  (kindNameOf_readOnly v).bind fun _ => .raise _

theorem noMember_fails {α : Type} (v : Value) (name : String) (w : World) (x : α) (w' : World) :
    (noMember v name : Act α).run w ≠ .ok x w' := by
  intro run
  obtain ⟨_, _, _, run⟩ := run_bind_eq_ok run
  simp at run

theorem attributeOf_readOnly (v : Value) (name : String) : ReadOnly (attributeOf v name) := by
  unfold attributeOf
  split
  · refine (deref_readOnly _).bind fun o => ?_
    split
    · exact .pure _
    · exact noMember_readOnly _ _
  · exact noMember_readOnly _ _

theorem store_run (w : World) (h : Nat) (o : Obj) :
    (store h o).run w = .ok () { w with store := w.store.set! h o } := rfl

theorem itemsOf_readOnly (v : Value) : ReadOnly (itemsOf v) := by
  unfold itemsOf
  split
  all_goals first
    | exact .pure _
    | exact (kindNameOf_readOnly _).bind fun _ => .raise _

theorem itemsOf_list_run (xs : List Value) (w : World) : (itemsOf (.list xs)).run w = .ok xs w :=
  rfl

theorem timestamp_run (w : World) : timestamp.run w = .ok (.float w.now) w := rfl

theorem publish_run (v : Value) (w : World) :
    (publish v).run w =
      .ok () { w with outbox := { w.outbox with published := w.outbox.published.push v } } := rfl

theorem itemOf_dict_run {w : World} {d : Dict} {k x : Value} (hx : Dict.lookup? d k = some x) :
    (itemOf (.dict d) k).run w = .ok x w := by
  simp [itemOf, hx]

theorem isIn_int_dict_run (w : World) (n : Int) (d : Dict) :
    (isIn (.int n) (.dict d)).run w = .ok (Dict.hasKey d (.int n)) w := rfl

/-! ### Arithmetic on whole numbers -/

theorem plusIn_int_run (w : World) (a b : Int) :
    (plusIn (.int a) (.int b)).run w = .ok (.int (a + b)) w := rfl

theorem minusIn_int_run (w : World) (a b : Int) :
    (minusIn (.int a) (.int b)).run w = .ok (.int (a - b)) w := rfl

/-- `None += b` fails, whatever `b` is. -/
theorem plusIn_none_fails (w : World) (b : Value) (x : Value) (w' : World) :
    (plusIn .none b).run w ≠ .ok x w' := by
  have refused : Value.addAs "+=" .none b = .error (Value.operandFault "+=" .none b) := by
    cases b <;> rfl
  intro run
  rw [plusIn, refused] at run
  cases run

/-- Dividing whole numbers keeps to whole numbers and rounds down. -/
theorem divide_int_run (w : World) (a : Int) {b : Int} (hb : b ≠ 0) :
    (divide (.int a) (.int b)).run w = .ok (.int (a.fdiv b)) w := by
  simp [divide, Value.div, Value.numeric, Value.number?, hb, Act.lift]

/-! ### The cache -/

namespace Cache

/-- The entry a read finds: the local copy first, then the shared table, else `None`. -/
def peek (c : Cache) (key : String) : Value :=
  match Dict.field? c.localEntries key with
  | some v => v
  | none => (Dict.field? c.entries key).getD .none

/-- The cache after an entry is written: the local copy follows when there is one or when it
is asked for. -/
def store (c : Cache) (key : String) (v : Value) (keepLocal : Bool) : Cache :=
  let c := if keepLocal || Dict.hasKey c.localEntries (.str key) then
    { c with localEntries := Dict.putField c.localEntries key v } else c
  { c with entries := Dict.putField c.entries key v }

@[simp] theorem store_connected (c : Cache) (key : String) (v : Value) (keepLocal : Bool) :
    (c.store key v keepLocal).connected = c.connected := by
  unfold store; split <;> rfl

theorem read_run {w : World} (key : String) (conn : w.cache.connected = true) :
    (read key).run w = .ok (w.cache.peek key) w := by
  simp only [read, state, peek]
  split <;> simp_all [requireClient, state]

theorem put_run {w : World} (key : String) (v : Value) (keepLocal : Bool)
    (conn : w.cache.connected = true) :
    (put key v keepLocal).run w = .ok () { w with cache := w.cache.store key v keepLocal } := by
  simp only [put, state, store]
  split <;> simp_all [requireClient, state, change]

theorem read_readOnly (key : String) : ReadOnly (read key) := by
  unfold read requireClient state
  repeat' first
    | split
    | with_reducible exact ReadOnly.pure _
    | with_reducible exact ReadOnly.raise _
    | with_reducible exact ReadOnly.get
    | with_reducible apply ReadOnly.bind
    | intro _

end Cache

/-! ### Station configuration -/

/-- A station option read in one world reads the same in any world with the same
configuration. -/
theorem stationGet_run_transfer {w w' : World} {sid : Value} {key : String} {v : Value}
    (h : (Config.stationGet sid key).run w = .ok v w) (same : w'.config = w.config) :
    (Config.stationGet sid key).run w' = .ok v w' := by
  simp only [Config.stationGet, Config.station, Config.stations, Config.current, EStateM.run_bind,
    EStateM.run_get, EStateM.run_pure, same] at h ⊢
  cases hs : w.config.opts.field? "stations" with
  | none => simp [hs] at h
  | some st =>
    cases st <;> simp [hs] at h ⊢
    rename_i d
    cases hb : Dict.lookup? d sid with
    | none => simp [hb] at h
    | some block =>
      cases block <;> simp [hb] at h ⊢
      rename_i es
      cases hk : Dict.lookup? es (.str key) <;> simp_all

end Airwaves
