import Airwaves.Proofs.Lineup
import Airwaves.Proofs.TimelineFrame.Schedule
/-!
# A station's lineup moves as a queue

Over any run of planning, advancing and finishing, events go on air in the order they were
planned, and the history holds the five before, newest first.
-/

namespace Airwaves.Timeline

open KeepsTimeline

variable {α β γ : Type} {sid : Value} {ok ok' : Change → Prop}

/-- Between two worlds a station's lineup moves by changes that `ok` allows; a world without a
lineup asks nothing. -/
def Moves (sid : Value) (ok : Change → Prop) (w w' : World) : Prop :=
  ∀ l, lineupIn sid w = some l → ∃ log, Shifts sid w log w' ∧ ∀ ch ∈ log, ok ch

namespace Moves

variable {w w1 w2 : World}

theorem trans (first : Moves sid ok w w1) (rest : Moves sid ok w1 w2) : Moves sid ok w w2 := by
  intro l found
  obtain ⟨log, shifts, allowed⟩ := first l found
  obtain ⟨l1, found1, _⟩ := shifts.lineup found
  obtain ⟨log', shifts', allowed'⟩ := rest l1 found1
  refine ⟨log ++ log', shifts.trans shifts', fun ch mem => ?_⟩
  rcases List.mem_append.1 mem with first | rest
  · exact allowed ch first
  · exact allowed' ch rest

theorem of_tables (same : tables w1 = tables w) : Moves sid ok w w1 :=
  fun _ _ => ⟨[], Shifts.of_lineup (lineupIn_of_tables same), by simp⟩

theorem mono (weaker : ∀ ch, ok ch → ok' ch) (moves : Moves sid ok w w1) :
    Moves sid ok' w w1 := by
  intro l found
  obtain ⟨log, shifts, allowed⟩ := moves l found
  exact ⟨log, shifts, fun ch mem => weaker ch (allowed ch mem)⟩

end Moves

/-- Every successful run of the action relates the world it starts from to the world it ends
in. -/
def Leads (R : World → World → Prop) (x : Act α) : Prop :=
  ∀ w r w', x.run w = .ok r w' → R w w'

namespace Leads

theorem of_keeps {x : Act α} [KeepsTimeline x] : Leads (Moves sid ok) x :=
  fun _ _ _ run => Moves.of_tables (ok_tables run)

theorem mono {x : Act α} (weaker : ∀ ch, ok ch → ok' ch) (leads : Leads (Moves sid ok) x) :
    Leads (Moves sid ok') x :=
  fun w r w' run => (leads w r w' run).mono weaker

theorem bind {x : Act α} {f : α → Act β} (hx : Leads (Moves sid ok) x)
    (hf : ∀ a, Leads (Moves sid ok) (f a)) : Leads (Moves sid ok) (x >>= f) := by
  intro w r w' run
  obtain ⟨a, w1, first, rest⟩ := run_bind_eq_ok run
  exact (hx w a w1 first).trans (hf a w1 r w' rest)

theorem forIn (xs : List γ) (b : β) {f : γ → β → Act (ForInStep β)}
    (hf : ∀ x b, Leads (Moves sid ok) (f x b)) : Leads (Moves sid ok) (forIn xs b f) := by
  induction xs generalizing b with
  | nil =>
    rw [List.forIn_nil]
    exact of_keeps
  | cons x rest ih =>
    rw [List.forIn_cons]
    refine bind (hf x b) fun step => ?_
    cases step with
    | done b' => exact of_keeps
    | yield b' => exact ih b'

/-- A handled action whose handler never returns succeeds only when the action does. -/
theorem attempt_bind {x : Act α} {k : Except Fault α → Act β} (hx : Leads (Moves sid ok) x)
    (hk : ∀ a, Leads (Moves sid ok) (k (.ok a)))
    (failed : ∀ f w r w', (k (.error f)).run w = .ok r w' → False) :
    Leads (Moves sid ok) (Act.attempt x >>= k) := by
  intro w r w' run
  obtain ⟨e, w1, attempted, rest⟩ := run_bind_eq_ok run
  rw [attempt_run] at attempted
  cases ran : x.run w with
  | ok a w2 =>
    rw [ran] at attempted
    cases attempted
    exact (hx w a _ ran).trans (hk a _ r w' rest)
  | error f w2 =>
    rw [ran] at attempted
    cases attempted
    exact (failed f _ r w' rest).elim

end Leads

/-- Reading the head of a list succeeds only on a list that has one. -/
theorem head_run {xs : List Value} {a : Value} {w w' : World}
    (run : (itemOf (.list xs) (.int 0)).run w = .ok a w') :
    ∃ rest, xs = a :: rest ∧ w' = w := by
  cases xs with
  | nil => simp [itemOf] at run
  | cons x rest =>
    simp [itemOf] at run
    obtain ⟨rfl, rfl⟩ := run
    exact ⟨rest, rfl, rfl⟩

/-! ## The three writes -/

section Writes

variable (hsid : Value.equals sid sid = true)
include hsid

/-- Appending an event to the plan as read. -/
theorem append_leads {next : Value} {k : Unit → Act β} (plan : ok (.plan [next]))
    (hk : Leads (Moves sid ok) (k ())) :
    Leads (Moves sid ok)
      (eventsOf .upnext sid >>= fun xs => setPart .upnext sid (.list (xs ++ [next])) >>= k) := by
  intro w r w' run
  obtain ⟨xs, w1, read, rest⟩ := run_bind_eq_ok run
  rw [run_bind_ok (setPart_run _ _ _ _)] at rest
  refine Moves.trans ?_ (hk _ r w' rest)
  intro l found
  rw [eventsOf_upnext_run found] at read
  cases read
  have planned := lineupIn_set_upnext hsid found (l.upnext ++ [next])
  exact ⟨[.plan [next]], .single found (.plan l [next]) trivial planned, by simpa using plan⟩

/-- Dropping the head of the plan once it is found spent. -/
theorem drop_leads {k : Value → Act β} {kept : Act β} (drop : ∀ e, ok (.drop e))
    (hk : ∀ head, Leads (Moves sid ok) (k head)) (hkept : Leads (Moves sid ok) kept) :
    Leads (Moves sid ok)
      (partOf .upnext sid >>= fun plan => itemOf plan (.int 0) >>= fun head =>
        isSpent head >>= fun spent =>
          if spent = true then
            Schedule.deleteEvent head >>= fun _ => eventsOf .upnext sid >>= fun xs =>
              setPart .upnext sid (.list (xs.drop 1)) >>= fun _ => k head
          else kept) := by
  intro w r w' run
  obtain ⟨plan, w1, readPlan, run⟩ := run_bind_eq_ok run
  obtain ⟨head, w2, readHead, run⟩ := run_bind_eq_ok run
  obtain ⟨spent, w3, asked, run⟩ := run_bind_eq_ok run
  have unread : tables w3 = tables w :=
    (ok_tables asked).trans ((ok_tables readHead).trans (ok_tables readPlan))
  cases spent with
  | false => exact (Moves.of_tables unread).trans (hkept w3 r w' run)
  | true =>
    obtain ⟨_, w4, deleted, run⟩ := run_bind_eq_ok run
    obtain ⟨xs, w5, read, run⟩ := run_bind_eq_ok run
    rw [run_bind_ok (setPart_run _ _ _ _)] at run
    refine Moves.trans ?_ (hk head _ r w' run)
    intro l found
    obtain ⟨c, upnext, history⟩ := l
    -- the head read is the head of the plan, and nothing the check and the deletion do moves it
    rw [partOf_upnext_run found] at readPlan
    cases readPlan
    obtain ⟨rest, rfl, rfl⟩ := head_run readHead
    have still : lineupIn sid w4 = some ⟨c, head :: rest, history⟩ := by
      rw [lineupIn_of_tables ((ok_tables deleted).trans unread), found]
    rw [eventsOf_upnext_run still] at read
    cases read
    exact ⟨[.drop head], .single found (.drop c head rest history) ⟨w3, asked⟩
      (lineupIn_set_upnext hsid still _), by simpa using drop head⟩

/-- Moving the event on air to the history, keeping five, and putting the head of the plan on
air. -/
theorem air_leads {k : Value → Act β} (air : ∀ e, ok (.air e))
    (hk : ∀ next, Leads (Moves sid ok) (k next)) :
    Leads (Moves sid ok)
      (partOf .current sid >>= fun c => eventsOf .history sid >>= fun played =>
        setPart .history sid (.list (c :: played)) >>= fun _ =>
        eventsOf .history sid >>= fun played =>
        setPart .history sid (.list (played.take 5)) >>= fun _ =>
        eventsOf .upnext sid >>= fun upnext => itemOf (.list upnext) (.int 0) >>= fun next =>
        setPart .upnext sid (.list (upnext.drop 1)) >>= fun _ =>
        setPart .current sid next >>= fun _ => k next) := by
  intro w r w' run
  obtain ⟨c, w1, readCurrent, run⟩ := run_bind_eq_ok run
  obtain ⟨played, w2, readHistory, run⟩ := run_bind_eq_ok run
  rw [run_bind_ok (setPart_run _ _ _ _)] at run
  obtain ⟨played', w3, readHistory', run⟩ := run_bind_eq_ok run
  rw [run_bind_ok (setPart_run _ _ _ _)] at run
  obtain ⟨upnext, w4, readPlan, run⟩ := run_bind_eq_ok run
  obtain ⟨next, w5, readHead, run⟩ := run_bind_eq_ok run
  rw [run_bind_ok (setPart_run _ _ _ _), run_bind_ok (setPart_run _ _ _ _)] at run
  refine Moves.trans ?_ (hk next _ r w' run)
  intro l found
  obtain ⟨c0, upnext0, history⟩ := l
  -- each read sees the writes before it
  rw [partOf_current_run found] at readCurrent
  cases readCurrent
  rw [eventsOf_history_run found] at readHistory
  cases readHistory
  have pushed := lineupIn_set_history hsid found (c0 :: history)
  rw [eventsOf_history_run pushed] at readHistory'
  cases readHistory'
  have kept := lineupIn_set_history hsid pushed ((c0 :: history).take 5)
  rw [eventsOf_upnext_run kept] at readPlan
  cases readPlan
  obtain ⟨rest, rfl, rfl⟩ := head_run readHead
  have taken := lineupIn_set_upnext hsid kept ((next :: rest).drop 1)
  have aired := lineupIn_set_current hsid taken next
  exact ⟨[.air next], .single found (.air c0 next rest history) trivial aired,
    by simpa using air next⟩

end Writes

/-! ## The three actions -/

section Actions

variable (hsid : Value.equals sid sid = true)
include hsid

/-- Planning only appends to the plan. -/
theorem manageNext_leads : Leads (Moves sid Change.IsPlan) (manageNext sid) := by
  unfold manageNext
  repeat' first
    | exact Leads.of_keeps
    | with_reducible refine append_leads hsid (Change.isPlan_plan _) ?_
    | with_reducible refine Leads.bind ?_ fun _ => ?_
    | with_reducible refine Leads.forIn _ _ fun _ _ => ?_
    | split

/-- Advancing drops spent events from the head of the plan and plans more. -/
theorem advance_leads : Leads (Moves sid fun _ => True) (advance sid) := by
  unfold advance
  dsimp only
  refine Leads.attempt_bind ?_ (fun _ => ?_) fun f w r w' run => ?_
  · repeat' first
      | exact Leads.of_keeps
      | with_reducible refine drop_leads hsid (fun _ => trivial) (fun _ => ?_) ?_
      | with_reducible refine Leads.bind ?_ fun _ => ?_
      | with_reducible refine Leads.forIn _ _ fun _ _ => ?_
      | split
      | exact (manageNext_leads hsid).mono fun _ _ => trivial
  · exact Leads.of_keeps
  · cases run

/-- Finishing puts the head of the plan on air and plans more. -/
theorem postProcess_leads : Leads (Moves sid fun _ => True) (postProcess sid) := by
  unfold postProcess
  dsimp only
  refine Leads.attempt_bind ?_ (fun _ => ?_) fun f w r w' run => ?_
  · repeat' first
      | exact Leads.of_keeps
      | with_reducible refine air_leads hsid (fun _ => trivial) fun _ => ?_
      | with_reducible refine Leads.bind ?_ fun _ => ?_
      | with_reducible refine Leads.forIn _ _ fun _ _ => ?_
      | split
      | exact (manageNext_leads hsid).mono fun _ _ => trivial
  · exact Leads.of_keeps
  · cases run

end Actions

/-! ## Runs -/

/-- The three actions that move a station's lineup. -/
inductive Move where
  /-- Planning events ahead. -/
  | plan
  /-- Dropping spent events and preparing the next. -/
  | advance
  /-- Finishing the event that played and starting the next. -/
  | finish

/-- What a move does on a station. -/
def Move.act (sid : Value) : Move → Act Unit
  | .plan => manageNext sid
  | .advance => Timeline.advance sid
  | .finish => postProcess sid

/-- The changes a run of moves may make: any, and only plans when every move plans. -/
def Move.allows (moves : List Move) (ch : Change) : Prop :=
  (∀ m ∈ moves, m = .plan) → ch.IsPlan

section Runs

variable (hsid : Value.equals sid sid = true)
include hsid

theorem Move.act_leads (m : Move) (rest : List Move) :
    Leads (Moves sid (Move.allows (m :: rest))) (m.act sid) := by
  cases m with
  | plan => exact (manageNext_leads hsid).mono fun _ planned _ => planned
  | advance => exact (advance_leads hsid).mono fun _ _ plans => by cases plans _ (.head _)
  | finish => exact (postProcess_leads hsid).mono fun _ _ plans => by cases plans _ (.head _)

/-- Every run of moves moves the lineup by its three changes, and by plans alone when it only
plans. -/
theorem runs_leads (moves : List Move) :
    Leads (Moves sid (Move.allows moves)) (forM moves (Move.act sid)) := by
  induction moves with
  | nil =>
    rw [List.forM_nil]
    exact Leads.of_keeps
  | cons m rest ih =>
    rw [List.forM_cons]
    refine Leads.bind (Move.act_leads hsid m rest) fun _ => ?_
    exact ih.mono fun _ allowed plans => allowed fun m' mem => plans m' (.tail _ mem)

end Runs

/-- A station with nothing planned or played. -/
def quietStation : World where
  globals :=
    { current := .dict [(.int 1, .none)]
      upnext := .dict [(.int 1, .list [])]
      history := .dict [(.int 1, .list [])] }

end Airwaves.Timeline
