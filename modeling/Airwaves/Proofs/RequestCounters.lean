import Airwaves.Proofs.Actions
import Airwaves.Schedule.Election
/-!
# The request counters of a station

What asking whether an election takes a request, and fulfilling one, do to a station's request
interval and sequence: one lemma per action.
-/

namespace Airwaves.Elections

/-! ### The counter pair -/

/-- A station's interval and sequence counters. -/
structure RequestCounters where
  interval : Int
  sequence : Int
  deriving DecidableEq, Repr

/-- One question to a station: a spent station wants a request and stays spent, a running
sequence wants one and counts down, and otherwise the interval counts down. -/
def RequestCounters.ask (c : RequestCounters) : Bool × RequestCounters :=
  if c.interval ≤ 0 ∧ c.sequence ≤ 0 then (true, c)
  else if 0 < c.sequence then (true, { c with sequence := c.sequence - 1 })
  else (false, { c with interval := c.interval - 1 })

/-- The table of interval counters, or of sequence counters. -/
def counterTable (w : World) (interval : Bool) : Value :=
  if interval then w.globals.requestInterval else w.globals.requestSequence

/-- The world after `setCounter`. -/
def withCounter (w : World) (interval : Bool) (sid x : Value) : World :=
  let table := withEntry (counterTable w interval) sid x
  { w with globals := if interval then { w.globals with requestInterval := table }
    else { w.globals with requestSequence := table } }

/-- The counter a table keeps for a station, if it keeps one. -/
def keptCounter (w : World) (interval : Bool) (sid : Value) : Option Value :=
  match counterTable w interval with
  | .dict d => Dict.lookup? d sid
  | _ => none

/-- The counter a station works with: the one kept in the table, or else the cached one when
it is truthy, or else zero. -/
def startingCounter (w : World) (interval : Bool) (sid : Value) : Value :=
  match counterTable w interval with
  | .dict d =>
    match Dict.lookup? d sid with
    | some x => x
    | none =>
      let cached := w.cache.peek
        (Cache.stationKey sid (if interval then "request_interval" else "request_sequence"))
      if cached.truthy then cached else .int 0
  | _ => .none

/-- A station's counter pair, when both counters are whole numbers. -/
def countersOf (w : World) (sid : Value) : Option RequestCounters :=
  match startingCounter w true sid, startingCounter w false sid with
  | .int i, .int s => some ⟨i, s⟩
  | _, _ => none

/-- Both counters are kept in the tables with the given values. -/
def Holds (w : World) (sid : Value) (c : RequestCounters) : Prop :=
  keptCounter w true sid = some (.int c.interval) ∧ keptCounter w false sid = some (.int c.sequence)

/-! ### Reading and writing one counter -/

theorem setCounter_run (w : World) (interval : Bool) (sid x : Value) :
    (setCounter interval sid x).run w = .ok () (withCounter w interval sid x) := rfl

theorem counter_run (w : World) (interval : Bool) :
    (counter interval).run w = .ok (counterTable w interval) w := by
  cases interval <;> rfl

theorem counterOf_run {w : World} {interval : Bool} {sid x : Value}
    (hx : keptCounter w interval sid = some x) : (counterOf interval sid).run w = .ok x w := by
  unfold keptCounter at hx
  split at hx
  · rename_i d hd
    rw [counterOf, run_bind_ok (counter_run w interval), hd]
    exact itemOf_dict_run hx
  · cases hx

/-- Reading a counter from a table that is a mapping succeeds only on a kept counter. -/
theorem counterOf_run_of_dict {w w' : World} {interval : Bool} {sid x : Value} {d : Dict}
    (table : counterTable w interval = .dict d) (run : (counterOf interval sid).run w = .ok x w') :
    w' = w ∧ keptCounter w interval sid = some x := by
  rw [counterOf] at run
  obtain ⟨t, w1, read, run⟩ := run_bind_eq_ok run
  rw [counter_run, EStateM.Result.ok.injEq] at read
  obtain ⟨rfl, rfl⟩ := read
  rw [table] at run
  simp only [itemOf] at run
  split at run
  · obtain ⟨rfl, rfl⟩ := run_pure_eq_ok run
    simp [keptCounter, *]
  · cases run

theorem keptCounter_withCounter_self (w : World) (interval : Bool) (n : Int) (x : Value) :
    keptCounter (withCounter w interval (.int n) x) interval (.int n) = some x := by
  obtain ⟨d, hd, hx⟩ := withEntry_lookup (counterTable w interval) x (Value.equals_int_self n)
  cases interval <;> simp_all [keptCounter, withCounter, counterTable]

theorem keptCounter_withCounter_other (w : World) {interval other : Bool} (sid sid' x : Value)
    (hne : other ≠ interval) :
    keptCounter (withCounter w interval sid x) other sid' = keptCounter w other sid' := by
  cases interval <;> cases other <;> simp_all [keptCounter, withCounter, counterTable]

theorem counterTable_withCounter_other (w : World) {interval other : Bool} (sid x : Value)
    (hne : other ≠ interval) :
    counterTable (withCounter w interval sid x) other = counterTable w other := by
  cases interval <;> cases other <;> simp_all [withCounter, counterTable]

@[simp] theorem withCounter_cache (w : World) (interval : Bool) (sid x : Value) :
    (withCounter w interval sid x).cache = w.cache := by
  cases interval <;> rfl

@[simp] theorem withCounter_config (w : World) (interval : Bool) (sid x : Value) :
    (withCounter w interval sid x).config = w.config := by
  cases interval <;> rfl

@[simp] theorem keptCounter_cache (w : World) (c : Cache) (interval : Bool) (sid : Value) :
    keptCounter { w with cache := c } interval sid = keptCounter w interval sid := rfl

theorem counterOf_cache_run {w : World} {interval : Bool} {sid x : Value} (c : Cache)
    (hx : keptCounter w interval sid = some x) :
    (counterOf interval sid).run { w with cache := c } = .ok x { w with cache := c } :=
  counterOf_run hx

/-- Setting both counters of a station makes them hold. -/
theorem holds_withCounter (w : World) (n i s : Int) :
    Holds (withCounter (withCounter w false (.int n) (.int s)) true (.int n) (.int i)) (.int n) ⟨i, s⟩ := by
  constructor
  · exact keptCounter_withCounter_self _ _ _ _
  · rw [keptCounter_withCounter_other _ _ _ _ (by decide), keptCounter_withCounter_self]

/-! ### The counter pair of a world -/

theorem startingCounter_of_kept {w : World} {interval : Bool} {sid x : Value}
    (hx : keptCounter w interval sid = some x) : startingCounter w interval sid = x := by
  unfold keptCounter at hx
  unfold startingCounter
  split at hx
  · simp [*]
  · cases hx

theorem countersOf_of_holds {w : World} {sid : Value} {c : RequestCounters} (hc : Holds w sid c) :
    countersOf w sid = some c := by
  simp [countersOf, startingCounter_of_kept hc.1, startingCounter_of_kept hc.2]

theorem startingCounter_congr {w w' : World} {interval : Bool} (sid : Value)
    (table : counterTable w' interval = counterTable w interval) (cache : w'.cache = w.cache) :
    startingCounter w' interval sid = startingCounter w interval sid := by
  simp only [startingCounter, table, cache]

theorem table_of_startingCounter {w : World} {interval : Bool} {sid : Value} {x : Int}
    (hx : startingCounter w interval sid = .int x) : ∃ d, counterTable w interval = .dict d := by
  unfold startingCounter at hx
  split at hx
  · exact ⟨_, ‹_›⟩
  · cases hx

theorem countersOf_eq_some {w : World} {sid : Value} {c : RequestCounters} :
    countersOf w sid = some c ↔
      startingCounter w true sid = .int c.interval ∧ startingCounter w false sid = .int c.sequence := by
  unfold countersOf
  split
  · rename_i i s hi hs
    rw [hi, hs]
    constructor
    · rintro ⟨⟩; exact ⟨rfl, rfl⟩
    · rintro ⟨⟨⟩, ⟨⟩⟩; rfl
  · rename_i notInts
    simp only [reduceCtorEq, false_iff, not_and]
    intro hi hs
    exact notInts _ _ hi hs

/-! ### Asking for a request -/

/-- Loading a counter keeps one that is there and otherwise takes the cached one. -/
theorem loadCounter_run {w : World} {interval : Bool} (n : Int) {d : Dict}
    (table : counterTable w interval = .dict d) (conn : w.cache.connected = true) :
    ∃ w', (loadCounter interval (.int n)).run w = .ok () w' ∧
      keptCounter w' interval (.int n) = some (startingCounter w interval (.int n)) ∧
      (∀ other, other ≠ interval → counterTable w' other = counterTable w other) ∧
      w'.cache = w.cache := by
  have read := counter_run w interval
  rw [table] at read
  cases has : Dict.hasKey d (.int n)
  · have absent : Dict.lookup? d (.int n) = none := by simpa [Dict.hasKey] using has
    simp only [loadCounter, EStateM.run_bind, read, isIn_int_dict_run, has, Bool.false_eq_true,
      if_false, Cache.readStation, Cache.read_run _ conn, setCounter_run]
    refine ⟨_, rfl, ?_, fun other hne => counterTable_withCounter_other _ _ _ hne, by simp⟩
    rw [keptCounter_withCounter_self]
    simp [startingCounter, table, absent]
  · obtain ⟨x, hx⟩ := Option.isSome_iff_exists.mp has
    refine ⟨w, by simp [loadCounter, EStateM.run_bind, read, isIn_int_dict_run, has], ?_,
      fun _ _ => rfl, rfl⟩
    simp [keptCounter, startingCounter, table, hx]

/-- Counting down does to the kept counters what `ask` does to the pair. -/
theorem countDown_run {w : World} {n : Int} {c : RequestCounters} (hc : Holds w (.int n) c) :
    ∃ w', (countDown (.int n)).run w = .ok c.ask.1 w' ∧ Holds w' (.int n) c.ask.2 ∧
      w'.cache = w.cache := by
  obtain ⟨hi, hs⟩ := hc
  simp only [countDown, EStateM.run_bind, counterOf_run hi, counterOf_run hs, isAtMost,
    Value.lessEq_int, EStateM.run_pure, RequestCounters.ask]
  by_cases spent : c.interval ≤ 0 ∧ c.sequence ≤ 0
  · simp only [spent, decide_true, Bool.and_self, if_true, and_self, EStateM.run_pure]
    exact ⟨w, rfl, ⟨hi, hs⟩, rfl⟩
  · have notBoth : (decide (c.interval ≤ 0) && decide (c.sequence ≤ 0)) = false := by
      simpa using spent
    simp only [notBoth, spent, if_false, Bool.false_eq_true, EStateM.run_bind, counterOf_run hs,
      isGreater, Value.greater_int]
    by_cases running : 0 < c.sequence
    · simp only [running, decide_true, if_true, EStateM.run_bind, counterOf_run hs, minusIn_int_run,
        EStateM.run_pure, setCounter_run]
      refine ⟨_, rfl, ⟨?_, ?_⟩, by simp⟩
      · rw [keptCounter_withCounter_other _ _ _ _ (by decide)]; exact hi
      · exact keptCounter_withCounter_self _ _ _ _
    · simp only [running, decide_false, if_false, Bool.false_eq_true, EStateM.run_bind,
        counterOf_run hi, minusIn_int_run, EStateM.run_pure, setCounter_run]
      refine ⟨_, rfl, ⟨?_, ?_⟩, by simp⟩
      · exact keptCounter_withCounter_self _ _ _ _
      · rw [keptCounter_withCounter_other _ _ _ _ (by decide)]; exact hs

/-- The whole question: load both counters, count down, mirror the pair to the cache. It
cannot fail while the cache is reachable and the pair is whole. -/
theorem requestDue_run {w : World} {n : Int} {c : RequestCounters}
    (conn : w.cache.connected = true) (hc : countersOf w (.int n) = some c) :
    ∃ w', (requestDue (.int n)).run w = .ok c.ask.1 w' ∧
      countersOf w' (.int n) = some c.ask.2 ∧ w'.cache.connected = true := by
  obtain ⟨si, ss⟩ := countersOf_eq_some.mp hc
  obtain ⟨di, ti⟩ := table_of_startingCounter si
  obtain ⟨ds, ts⟩ := table_of_startingCounter ss
  obtain ⟨w1, r1, k1, o1, c1⟩ := loadCounter_run n ti conn
  have ts1 : counterTable w1 false = .dict ds := (o1 false (by decide)).trans ts
  obtain ⟨w2, r2, k2, o2, c2⟩ := loadCounter_run n ts1 (c1 ▸ conn)
  -- after loading, both counters are kept with the values the station started from
  have holds : Holds w2 (.int n) c := by
    constructor
    · rw [← si, ← k1]
      simp only [keptCounter, o2 true (by decide)]
    · rw [k2, startingCounter_congr _ (o1 false (by decide)) c1, ss]
  obtain ⟨w3, r3, h3, c3⟩ := countDown_run holds
  have conn3 : w3.cache.connected = true := by rw [c3, c2, c1]; exact conn
  let mirrored := (w3.cache.store (Cache.stationKey (.int n) "request_interval")
    (.int c.ask.2.interval) false).store (Cache.stationKey (.int n) "request_sequence")
    (.int c.ask.2.sequence) false
  refine ⟨{ w3 with cache := mirrored }, ?_, countersOf_of_holds ⟨h3.1, h3.2⟩,
    by simp [mirrored, conn3]⟩
  simp only [requestDue, EStateM.run_bind, r1, r2, r3, Cache.putStation, counterOf_run h3.1,
    Cache.put_run _ _ _ conn3, counterOf_cache_run _ h3.2]
  rw [Cache.put_run _ _ _ (by simp [conn3])]
  rfl

theorem eventOf_run {w : World} {h : Nat} {e : Event} (he : w.store[h]? = some (.event e)) :
    (Events.eventOf (.ref h)).run w = .ok e w := by
  simp [Events.eventOf, eventAt, deref, he]

/-- An ordinary election's question answers `ask`'s decision and leaves `ask`'s pair. -/
theorem isRequestNeeded_run {w : World} {h : Nat} {e : Event} {n : Int} {c : RequestCounters}
    (hstore : w.store[h]? = some (.event e)) (hkind : e.kind ≠ .pvpElection) (hsid : e.sid = .int n)
    (conn : w.cache.connected = true) (hc : countersOf w (.int n) = some c) :
    ∃ w', (isRequestNeeded (.ref h)).run w = .ok c.ask.1 w' ∧
      countersOf w' (.int n) = some c.ask.2 ∧ w'.cache.connected = true := by
  have hk : (e.kind == .pvpElection) = false := by
    cases hkd : e.kind <;> simp_all <;> rfl
  obtain ⟨w', run, rest⟩ := requestDue_run conn hc
  refine ⟨w', ?_, rest⟩
  simp only [isRequestNeeded, EStateM.run_bind, eventOf_run hstore, hk, hsid, Bool.false_eq_true,
    if_false, run]

/-- A head-to-head election forces a request: it always gets one and leaves the station
spent, whatever the counters were. -/
theorem isRequestNeeded_pvp_run {w : World} {h : Nat} {e : Event} {n : Int}
    (hstore : w.store[h]? = some (.event e)) (hkind : e.kind = .pvpElection) (hsid : e.sid = .int n)
    (conn : w.cache.connected = true) :
    ∃ w', (isRequestNeeded (.ref h)).run w = .ok true w' ∧
      countersOf w' (.int n) = some ⟨0, 0⟩ ∧ w'.cache.connected = true := by
  let forced := withCounter (withCounter w true (.int n) (.int 0)) false (.int n) (.int 0)
  have holds : Holds forced (.int n) ⟨0, 0⟩ := by
    constructor
    · rw [keptCounter_withCounter_other _ _ _ _ (by decide), keptCounter_withCounter_self]
    · exact keptCounter_withCounter_self _ _ _ _
  have connected : forced.cache.connected = true := by simpa [forced] using conn
  obtain ⟨w', run, rest⟩ := requestDue_run connected (countersOf_of_holds holds)
  refine ⟨w', ?_, rest⟩
  simp only [isRequestNeeded, EStateM.run_bind, eventOf_run hstore, hkind, hsid, forceRequest]
  exact run

/-! ### Starting a new sequence -/

/-- A whole number not below zero. -/
def Count (v : Value) : Prop := ∃ m : Int, v = .int m ∧ 0 ≤ m

/-- What the cache may hold as a station's number of valid request places: nothing, or a
count. -/
def CountOrNone (v : Value) : Prop := v = .none ∨ Count v

theorem lineLength_readOnly (sid : Value) : ReadOnly (lineLength sid) := by
  unfold lineLength Cache.readStation col plusIn
  repeat' first
    | split
    | with_reducible exact ReadOnly.pure _
    | with_reducible exact ReadOnly.raise _
    | with_reducible exact Cache.read_readOnly _
    | with_reducible exact itemsOf_readOnly _
    | with_reducible exact itemOf_readOnly _ _
    | with_reducible exact ReadOnly.lift _
    | with_reducible apply ReadOnly.bind
    | with_reducible apply ReadOnly.forIn
    | intro _

/-- The line length is the cached count, or that count grown by one per entry with a song; a
cache that holds nothing leaves nothing, since `None += 1` fails. -/
theorem lineLength_countOrNone {w w' : World} {n : Int} {v : Value}
    (conn : w.cache.connected = true)
    (cached : CountOrNone (w.cache.peek (Cache.stationKey (.int n) "request_valid_positions")))
    (run : (lineLength (.int n)).run w = .ok v w') : CountOrNone v := by
  rw [lineLength] at run
  obtain ⟨length, w0, read, run⟩ := run_bind_eq_ok run
  rw [Cache.readStation, Cache.read_run _ conn, EStateM.Result.ok.injEq] at read
  obtain ⟨rfl, rfl⟩ := read
  split at run
  · obtain ⟨line, w1, -, run⟩ := run_bind_eq_ok run
    obtain ⟨items, w2, -, run⟩ := run_bind_eq_ok run
    obtain ⟨s, w3, loop, run⟩ := run_bind_eq_ok run
    obtain ⟨rfl, -⟩ := run_pure_eq_ok run
    refine forIn_run_invariant (fun b _ => CountOrNone b) _ ?_ items _ _ w2 w3 cached loop
    rintro entry b r w4 w5 hb body
    obtain ⟨songId, w6, -, body⟩ := run_bind_eq_ok body
    split at body
    · obtain ⟨next, w7, grown, body⟩ := run_bind_eq_ok body
      obtain ⟨rfl, -⟩ := run_pure_eq_ok body
      rcases hb with hb | ⟨m, hb, hm⟩
      · exact absurd (hb ▸ grown) (plusIn_none_fails _ _ _ _)
      · rw [hb, plusIn_int_run, EStateM.Result.ok.injEq] at grown
        rw [← grown.1]
        exact .inr ⟨m + 1, rfl, by omega⟩
    · obtain ⟨rfl, -⟩ := run_pure_eq_ok body
      exact hb
  · obtain ⟨rfl, -⟩ := run_pure_eq_ok run
    exact cached

/-- A reset that goes through leaves the cache as it was. While either counter runs it does
nothing; on a spent station it sets the configured interval and a sequence of the line length
over the scale, which is not negative. -/
theorem resetRequestSequence_run_inv {w w' : World} {h : Nat} {e : Event} {n I k : Int}
    {c : RequestCounters}
    (hstore : w.store[h]? = some (.event e)) (hsid : e.sid = .int n)
    (conn : w.cache.connected = true) (hc : countersOf w (.int n) = some c)
    (cached : CountOrNone (w.cache.peek (Cache.stationKey (.int n) "request_valid_positions")))
    (scale : (Config.stationGet (.int n) "request_sequence_scale").run w = .ok (.int k) w)
    (hk : 0 < k)
    (interval : (Config.stationGet (.int n) "request_interval").run w = .ok (.int I) w)
    (run : (resetRequestSequence (.ref h)).run w = .ok () w') :
    w'.cache = w.cache ∧
      if c.interval ≤ 0 ∧ c.sequence ≤ 0 then ∃ S, 0 ≤ S ∧ countersOf w' (.int n) = some ⟨I, S⟩
      else w' = w := by
  obtain ⟨si, ss⟩ := countersOf_eq_some.mp hc
  obtain ⟨di, ti⟩ := table_of_startingCounter si
  obtain ⟨ds, ts⟩ := table_of_startingCounter ss
  rw [resetRequestSequence] at run
  obtain ⟨e', w1, ev, run1⟩ := run_bind_eq_ok run
  rw [eventOf_run hstore, EStateM.Result.ok.injEq] at ev
  obtain ⟨rfl, rfl⟩ := ev
  dsimp only at run1
  rw [hsid] at run1
  -- the interval guard
  obtain ⟨xi, w2, ri, run2⟩ := run_bind_eq_ok run1
  obtain ⟨rfl, ki⟩ := counterOf_run_of_dict ti ri
  rw [← startingCounter_of_kept ki, si] at run2
  obtain ⟨bi, w3, rbi, run3⟩ := run_bind_eq_ok run2
  obtain ⟨rfl, rfl⟩ := run_pure_eq_ok rbi
  rw [Value.lessEq_int] at run3
  by_cases hi : c.interval ≤ 0
  swap
  · simp only [hi, decide_false, Bool.false_eq_true, if_false] at run3
    simp [hi, (run_pure_eq_ok run3).2]
  simp only [hi, decide_true, if_true] at run3
  -- the sequence guard
  obtain ⟨xs, w4, rs, run4⟩ := run_bind_eq_ok run3
  obtain ⟨rfl, ks⟩ := counterOf_run_of_dict ts rs
  rw [← startingCounter_of_kept ks, ss] at run4
  obtain ⟨bs, w5, rbs, run5⟩ := run_bind_eq_ok run4
  obtain ⟨rfl, rfl⟩ := run_pure_eq_ok rbs
  rw [Value.lessEq_int] at run5
  by_cases hs : c.sequence ≤ 0
  swap
  · simp only [hs, decide_false, Bool.false_eq_true, if_false] at run5
    simp [hs, (run_pure_eq_ok run5).2]
  simp only [hs, decide_true, if_true] at run5
  -- a spent station: the new sequence is the line length over the scale
  obtain ⟨len, w6, rl, run6⟩ := run_bind_eq_ok run5
  have counted := lineLength_countOrNone conn cached rl
  obtain rfl := lineLength_readOnly _ _ _ _ rl
  obtain ⟨sc, w7, rsc, run7⟩ := run_bind_eq_ok run6
  rw [scale, EStateM.Result.ok.injEq] at rsc
  obtain ⟨rfl, rfl⟩ := rsc
  obtain ⟨scaled, w8, rd, run8⟩ := run_bind_eq_ok run7
  obtain ⟨m, rfl, hm⟩ : Count len := by
    rcases counted with rfl | count
    · cases rd
    · exact count
  rw [divide_int_run _ _ (by omega), EStateM.Result.ok.injEq] at rd
  obtain ⟨rfl, rfl⟩ := rd
  have quotient : 0 ≤ m.fdiv k :=
    Int.fdiv_eq_ediv_of_nonneg m (Int.le_of_lt hk) ▸ Int.ediv_nonneg hm (Int.le_of_lt hk)
  obtain ⟨sv, w9, rS, run9⟩ := run_bind_eq_ok run8
  cases hf : Value.floorToInt (.int (m.fdiv k)) with
  | error f => rw [hf] at rS; cases rS
  | ok v =>
    rw [hf] at rS
    obtain ⟨rfl, rfl⟩ := run_pure_eq_ok rS
    obtain ⟨S, rfl, hS⟩ := Value.floorToInt_int_nonneg quotient hf
    obtain ⟨u, w10, rset, run10⟩ := run_bind_eq_ok run9
    rw [setCounter_run, EStateM.Result.ok.injEq] at rset
    obtain ⟨-, rfl⟩ := rset
    obtain ⟨iv, w11, riv, run11⟩ := run_bind_eq_ok run10
    rw [stationGet_run_transfer interval (by simp), EStateM.Result.ok.injEq] at riv
    obtain ⟨rfl, rfl⟩ := riv
    rw [setCounter_run, EStateM.Result.ok.injEq] at run11
    obtain ⟨-, rfl⟩ := run11
    refine ⟨by simp, ?_⟩
    simp only [hi, hs, and_self, if_true]
    exact ⟨S, hS, countersOf_of_holds (holds_withCounter _ _ _ _)⟩

end Airwaves.Elections
