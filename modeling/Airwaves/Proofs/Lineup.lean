import Airwaves.Proofs.TimelineFrame
import Airwaves.Schedule.Timeline
/-!
# A station's lineup

A station's timeline read as a queue: the event on air, the plan after it and the history before
it, moved by planning, advancing and finishing.
-/

namespace Airwaves

/-- A station's timeline read as a queue: the event on air, the planned events in the order they
are to play, and the events played before, newest first. -/
structure Lineup where
  current : Value
  upnext : List Value
  history : List Value

/-- One change to a station's lineup. -/
inductive Change where
  /-- Events appended to the plan. -/
  | plan (added : List Value)
  /-- The head of the plan dropped without playing. -/
  | drop (e : Value)
  /-- The head of the plan put on air. -/
  | air (e : Value)

namespace Change

/-- The event a change takes off the plan. -/
def departed : Change → List Value
  | .plan _ => []
  | .drop e => [e]
  | .air e => [e]

/-- The events a change appends to the plan. -/
def planned : Change → List Value
  | .plan added => added
  | _ => []

/-- The event a change puts on air. -/
def aired : Change → List Value
  | .air e => [e]
  | _ => []

/-- A change that only appends to the plan. -/
def IsPlan : Change → Prop
  | .plan _ => True
  | _ => False

theorem isPlan_plan (added : List Value) : (plan added).IsPlan := trivial

end Change

namespace Lineup

/-- How each change moves a lineup. Dropping and finishing take the head of the plan; finishing
keeps five events of history. -/
inductive Step : Lineup → Change → Lineup → Prop
  | plan (l : Lineup) (added : List Value) :
      Step l (.plan added) { l with upnext := l.upnext ++ added }
  | drop (c e : Value) (upnext history : List Value) :
      Step ⟨c, e :: upnext, history⟩ (.drop e) ⟨c, upnext, history⟩
  | air (c e : Value) (upnext history : List Value) :
      Step ⟨c, e :: upnext, history⟩ (.air e) ⟨e, upnext, (c :: history).take 5⟩

/-- A sequence of changes, first to last. -/
inductive Steps : Lineup → List Change → Lineup → Prop
  | nil (l : Lineup) : Steps l [] l
  | cons {l l1 l' : Lineup} {ch : Change} {log : List Change} :
      Step l ch l1 → Steps l1 log l' → Steps l (ch :: log) l'

variable {l l' : Lineup} {ch : Change} {log : List Change}

/-- A change takes from the head of the plan and appends at its end. -/
theorem Step.order (s : Step l ch l') : ch.departed ++ l'.upnext = l.upnext ++ ch.planned := by
  cases s <;> simp [Change.departed, Change.planned]

/-- Keeping five events of history twice keeps five of the whole. -/
theorem take_append_take (front back : List Value) (n : Nat) :
    (front ++ back.take n).take n = (front ++ back).take n := by
  simp [List.take_append, List.take_take]

theorem Steps.order (s : Steps l log l') :
    log.flatMap Change.departed ++ l'.upnext = l.upnext ++ log.flatMap Change.planned := by
  induction s with
  | nil => simp
  | @cons l l1 l' ch log step _ ih =>
    calc (ch :: log).flatMap Change.departed ++ l'.upnext
        = ch.departed ++ (log.flatMap Change.departed ++ l'.upnext) := by simp
      _ = (ch.departed ++ l1.upnext) ++ log.flatMap Change.planned := by
        rw [ih, List.append_assoc]
      _ = l.upnext ++ (ch :: log).flatMap Change.planned := by simp [step.order]

theorem Steps.current_eq (s : Steps l log l') :
    l'.current = (l.current :: log.flatMap Change.aired).getLast (List.cons_ne_nil _ _) := by
  induction s with
  | nil => simp
  | cons step _ ih =>
    rw [ih]
    cases step <;> simp [Change.aired]

theorem Steps.history_eq (s : Steps l log l') :
    l'.history = if log.flatMap Change.aired = [] then l.history
      else ((l.current :: log.flatMap Change.aired).dropLast.reverse ++ l.history).take 5 := by
  induction s with
  | nil => simp
  | @cons l l1 l' ch log step _ ih =>
    cases step with
    | plan => simpa [Change.aired] using ih
    | drop => simpa [Change.aired] using ih
    | air c e upnext history =>
      by_cases none : log.flatMap Change.aired = []
      · simp [Change.aired, none] at ih ⊢
        exact ih
      · simp only [none, if_false] at ih
        rw [ih, take_append_take]
        -- the event that was on air joins the history behind the ones aired after it
        simp [Change.aired, List.dropLast_cons_cons]

theorem Steps.history_length (s : Steps l log l') (aired : log.flatMap Change.aired ≠ []) :
    l'.history.length ≤ 5 := by
  rw [s.history_eq, if_neg aired]
  exact List.length_take_le _ _

/-- Changes that only plan leave everything but the end of the plan alone. -/
theorem Steps.eq_plan (s : Steps l log l') (plans : ∀ ch ∈ log, ch.IsPlan) :
    l' = { l with upnext := l.upnext ++ log.flatMap Change.planned } := by
  induction s with
  | nil => simp
  | cons step _ ih =>
    cases step with
    | plan l added =>
      rw [ih fun ch mem => plans ch (.tail _ mem)]
      simp [Change.planned]
    | drop => exact False.elim (plans _ (.head _))
    | air => exact False.elim (plans _ (.head _))

end Lineup

namespace Timeline

/-! ## The lineup of a world -/

/-- The table of a part of the timeline. -/
def tableIn (p : Part) (w : World) : Value :=
  match p with
  | .current => w.globals.current
  | .upnext => w.globals.upnext
  | .history => w.globals.history

/-- A station's entry of a table, when the table maps stations. -/
def entryIn (t sid : Value) : Option Value :=
  match t with
  | .dict d => Dict.lookup? d sid
  | _ => none

/-- A station's lineup in a world: its entries of the three tables, the plan and the history
lists. -/
def lineupIn (sid : Value) (w : World) : Option Lineup :=
  match entryIn (tableIn .current w) sid, entryIn (tableIn .upnext w) sid,
      entryIn (tableIn .history w) sid with
  | some c, some (.list upnext), some (.list history) => some ⟨c, upnext, history⟩
  | _, _, _ => none

/-- The world with a station's entry of a part of the timeline set. -/
def setIn (p : Part) (sid x : Value) (w : World) : World :=
  { w with globals := match p with
    | .current => { w.globals with current := withEntry (tableIn p w) sid x }
    | .upnext => { w.globals with upnext := withEntry (tableIn p w) sid x }
    | .history => { w.globals with history := withEntry (tableIn p w) sid x } }

variable {sid : Value} {w w' : World} {l : Lineup}

theorem table_run (p : Part) (w : World) : (table p).run w = .ok (tableIn p w) w := by
  cases p <;> rfl

theorem setPart_run (p : Part) (sid x : Value) (w : World) :
    (setPart p sid x).run w = .ok () (setIn p sid x w) := by
  cases p <;> rfl

theorem partOf_run {p : Part} {x : Value} (found : entryIn (tableIn p w) sid = some x) :
    (partOf p sid).run w = .ok x w := by
  rw [partOf, run_bind_ok (table_run p w)]
  generalize tableIn p w = t at found ⊢
  cases t <;> simp [entryIn] at found
  simp [itemOf, found]

theorem eventsOf_run {p : Part} {xs : List Value}
    (found : entryIn (tableIn p w) sid = some (.list xs)) : (eventsOf p sid).run w = .ok xs w := by
  rw [eventsOf, run_bind_ok (partOf_run found)]
  rfl

theorem entryIn_setIn_self (p : Part) (x : Value) (hsid : Value.equals sid sid = true) :
    entryIn (tableIn p (setIn p sid x w)) sid = some x := by
  obtain ⟨d, written, found⟩ := withEntry_lookup (tableIn p w) x hsid
  cases p <;> simp [setIn, tableIn, entryIn] at written ⊢ <;> simp [written, found]

theorem tableIn_setIn_other {p q : Part} (other : p ≠ q) (x : Value) :
    tableIn q (setIn p sid x w) = tableIn q w := by
  cases p <;> cases q <;> simp_all [setIn, tableIn]

theorem lineupIn_eq_some :
    lineupIn sid w = some l ↔ entryIn (tableIn .current w) sid = some l.current ∧
      entryIn (tableIn .upnext w) sid = some (.list l.upnext) ∧
      entryIn (tableIn .history w) sid = some (.list l.history) := by
  constructor
  · intro found
    unfold lineupIn at found
    split at found
    · cases found
      exact ⟨‹_›, ‹_›, ‹_›⟩
    · cases found
  · rintro ⟨current, upnext, history⟩
    simp [lineupIn, current, upnext, history]

section Reads

variable (found : lineupIn sid w = some l)
include found

theorem partOf_current_run : (partOf .current sid).run w = .ok l.current w :=
  partOf_run (lineupIn_eq_some.1 found).1

theorem partOf_upnext_run : (partOf .upnext sid).run w = .ok (.list l.upnext) w :=
  partOf_run (lineupIn_eq_some.1 found).2.1

theorem eventsOf_upnext_run : (eventsOf .upnext sid).run w = .ok l.upnext w :=
  eventsOf_run (lineupIn_eq_some.1 found).2.1

theorem eventsOf_history_run : (eventsOf .history sid).run w = .ok l.history w :=
  eventsOf_run (lineupIn_eq_some.1 found).2.2

end Reads

/-- The lineup is read from the three tables alone. -/
theorem lineupIn_of_tables (same : tables w' = tables w) : lineupIn sid w' = lineupIn sid w := by
  simp only [tables, Prod.mk.injEq] at same
  obtain ⟨current, upnext, history⟩ := same
  simp [lineupIn, tableIn, current, upnext, history]

section Writes

variable (hsid : Value.equals sid sid = true)
include hsid

theorem lineupIn_set_current (found : lineupIn sid w = some l) (x : Value) :
    lineupIn sid (setIn .current sid x w) = some { l with current := x } := by
  obtain ⟨_, upnext, history⟩ := lineupIn_eq_some.1 found
  refine lineupIn_eq_some.2 ⟨entryIn_setIn_self _ _ hsid, ?_, ?_⟩
  · rwa [tableIn_setIn_other (by simp)]
  · rwa [tableIn_setIn_other (by simp)]

theorem lineupIn_set_upnext (found : lineupIn sid w = some l) (xs : List Value) :
    lineupIn sid (setIn .upnext sid (.list xs) w) = some { l with upnext := xs } := by
  obtain ⟨current, _, history⟩ := lineupIn_eq_some.1 found
  refine lineupIn_eq_some.2 ⟨?_, entryIn_setIn_self _ _ hsid, ?_⟩
  · rwa [tableIn_setIn_other (by simp)]
  · rwa [tableIn_setIn_other (by simp)]

theorem lineupIn_set_history (found : lineupIn sid w = some l) (xs : List Value) :
    lineupIn sid (setIn .history sid (.list xs) w) = some { l with history := xs } := by
  obtain ⟨current, upnext, _⟩ := lineupIn_eq_some.1 found
  refine lineupIn_eq_some.2 ⟨?_, ?_, entryIn_setIn_self _ _ hsid⟩
  · rwa [tableIn_setIn_other (by simp)]
  · rwa [tableIn_setIn_other (by simp)]

end Writes

end Timeline

/-! ## Runs seen from a station's lineup -/

/-- What a change asks of the world it is made from: an event is dropped only when asking whether
it is spent there answers yes. -/
def Change.Justified : Change → World → Prop
  | .drop e, w => ∃ w', (Timeline.isSpent e).run w = .ok true w'
  | _, _ => True

namespace Timeline

/-- How a station's lineup moves between two worlds of a run: changes one after another, each
made from a world of the run where it is justified, with the lineup left as it is between
them. -/
inductive Shifts (sid : Value) : World → List Change → World → Prop
  | done (w : World) : Shifts sid w [] w
  | pause {w w1 w' : World} {log : List Change} :
      lineupIn sid w1 = lineupIn sid w → Shifts sid w1 log w' → Shifts sid w log w'
  | shift {w w1 w' : World} {l l1 : Lineup} {ch : Change} {log : List Change} :
      lineupIn sid w = some l → Lineup.Step l ch l1 → ch.Justified w →
      lineupIn sid w1 = some l1 → Shifts sid w1 log w' → Shifts sid w (ch :: log) w'

namespace Shifts

variable {w1 w2 : World} {log log' : List Change}

theorem of_lineup (same : lineupIn sid w' = lineupIn sid w) : Shifts sid w [] w' :=
  .pause same (.done w')

theorem single {l1 : Lineup} {ch : Change} (found : lineupIn sid w = some l)
    (step : Lineup.Step l ch l1) (justified : ch.Justified w) (found' : lineupIn sid w' = some l1) :
    Shifts sid w [ch] w' :=
  .shift found step justified found' (.done w')

theorem trans (first : Shifts sid w log w1) (rest : Shifts sid w1 log' w2) :
    Shifts sid w (log ++ log') w2 := by
  induction first with
  | done => exact rest
  | pause same _ ih => exact .pause same (ih rest)
  | shift found step justified found' _ ih => exact .shift found step justified found' (ih rest)

/-- The lineups at the two ends of a run are related by the run's changes. -/
theorem lineup (run : Shifts sid w log w') (found : lineupIn sid w = some l) :
    ∃ l', lineupIn sid w' = some l' ∧ Lineup.Steps l log l' := by
  induction run generalizing l with
  | done w => exact ⟨l, found, .nil l⟩
  | pause same _ ih => exact ih (same.trans found)
  | shift found0 step _ found1 _ ih =>
    cases found.symm.trans found0
    obtain ⟨l', found', steps⟩ := ih found1
    exact ⟨l', found', .cons step steps⟩

end Shifts

end Timeline

end Airwaves
