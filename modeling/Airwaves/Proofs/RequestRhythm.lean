import Airwaves.Proofs.RequestCounters
/-!
# The rhythm of requests

After a sequence of `S` requests starts with an interval of `I`, a station's elections take
requests `S` times, then wait `I` times, then take one on every later call (`FollowsRhythm`).
-/

namespace Airwaves.Elections

/-! ### The rhythm on its own -/

/-- The counters `j` questions after a sequence of `S` requests with an interval of `I` was
set: the sequence counts down first, then the interval, and both stop at zero. -/
def phase (I S : Int) (j : Nat) : RequestCounters :=
  ⟨max 0 (min I (S + I - j)), max 0 (S - j)⟩

/-- The answer to the `j`-th question after a sequence of `S` requests with an interval of `I`
was set: yes while the sequence lasts, no through the interval, and yes from then on. -/
def rhythm (I S : Int) (j : Nat) : Bool := decide ((j : Int) < S ∨ S + I ≤ j)

theorem phase_zero {I S : Int} (hI : 0 ≤ I) (hS : 0 ≤ S) : phase I S 0 = ⟨I, S⟩ := by
  simp only [phase, RequestCounters.mk.injEq]
  omega

theorem phase_nonneg (I S : Int) (j : Nat) :
    0 ≤ (phase I S j).interval ∧ 0 ≤ (phase I S j).sequence :=
  ⟨Int.le_max_left _ _, Int.le_max_left _ _⟩

theorem phase_spent_iff {I S : Int} (hI : 0 ≤ I) (j : Nat) :
    ((phase I S j).interval ≤ 0 ∧ (phase I S j).sequence ≤ 0) ↔ S + I ≤ j := by
  simp only [phase]
  omega

/-- One question moves the counters one place along the rhythm and answers as it says. -/
theorem RequestCounters.ask_phase {I S : Int} (hI : 0 ≤ I) (j : Nat) :
    (phase I S j).ask = (rhythm I S j, phase I S (j + 1)) := by
  unfold RequestCounters.ask
  by_cases spent : S + I ≤ j
  · -- a spent station stays at zero and wants a request
    rw [if_pos ((phase_spent_iff hI j).mpr spent)]
    simp only [rhythm, phase, Prod.mk.injEq, RequestCounters.mk.injEq]
    refine ⟨by simp [spent], ?_, ?_⟩ <;> omega
  rw [if_neg (mt (phase_spent_iff hI j).mp spent)]
  by_cases running : (j : Int) < S
  · -- the sequence counts down
    have left : 0 < (phase I S j).sequence := by simp only [phase]; omega
    rw [if_pos left]
    simp only [rhythm, phase, Prod.mk.injEq, RequestCounters.mk.injEq]
    refine ⟨by simp [running], ?_, ?_⟩ <;> omega
  · -- the interval counts down
    have spentSequence : ¬0 < (phase I S j).sequence := by simp only [phase]; omega
    rw [if_neg spentSequence]
    simp only [rhythm, phase, Prod.mk.injEq, RequestCounters.mk.injEq]
    refine ⟨by simp [running, spent], ?_, ?_⟩ <;> omega

/-- The rhythm spelled out: `S` times yes, `I` times no, then yes. -/
theorem rhythm_spelled (I S r : Nat) :
    (List.range (S + I + r)).map (rhythm I S) =
      List.replicate S true ++ List.replicate I false ++ List.replicate r true := by
  apply List.ext_getElem
  · simp only [List.length_map, List.length_range, List.length_append, List.length_replicate]
  · intro j inRange _
    simp only [List.length_map, List.length_range] at inRange
    simp only [List.getElem_map, List.getElem_range, List.getElem_append, List.length_append,
      List.length_replicate, List.getElem_replicate, rhythm]
    split_ifs <;> simp <;> omega

/-! ### Runs of a station's elections -/

/-- What a run of a station's elections lets one see of its requests. -/
inductive Heard where
  /-- An ordinary election asked whether to take a request and got this answer. -/
  | asked (answer : Bool)
  /-- A head-to-head election asked, forcing a request, and got this answer. -/
  | forced (answer : Bool)
  /-- A request was fulfilled while the station's configured interval was this. -/
  | fulfilled (interval : Int)
  deriving DecidableEq, Repr

/-- A run of the elections of station `n`, step by step, with what it lets one see. The
station's ordinary and head-to-head elections ask their question, and a fulfilled request
resets the sequence; any other step leaves the station's counters and its cache client as they
were. A request is fulfilled under a whole interval that is not negative, a positive whole
scale, and a cache that holds nothing or a count for the request line's valid places. -/
inductive RequestRun (n : Int) : World → List Heard → World → Prop
  | stop (w : World) : RequestRun n w [] w
  | ask {w w1 w' : World} {h : Nat} {e : Event} {b : Bool} {hs : List Heard}
      (hstore : w.store[h]? = some (.event e)) (hsid : e.sid = .int n)
      (hkind : e.kind ≠ .pvpElection)
      (run : (isRequestNeeded (.ref h)).run w = .ok b w1) (rest : RequestRun n w1 hs w') :
      RequestRun n w (.asked b :: hs) w'
  | force {w w1 w' : World} {h : Nat} {e : Event} {b : Bool} {hs : List Heard}
      (hstore : w.store[h]? = some (.event e)) (hsid : e.sid = .int n)
      (hkind : e.kind = .pvpElection)
      (run : (isRequestNeeded (.ref h)).run w = .ok b w1) (rest : RequestRun n w1 hs w') :
      RequestRun n w (.forced b :: hs) w'
  | fulfil {w w1 w' : World} {h : Nat} {e : Event} {I k : Int} {hs : List Heard}
      (hstore : w.store[h]? = some (.event e)) (hsid : e.sid = .int n)
      (interval : (Config.stationGet (.int n) "request_interval").run w = .ok (.int I) w)
      (hI : 0 ≤ I)
      (scale : (Config.stationGet (.int n) "request_sequence_scale").run w = .ok (.int k) w)
      (hk : 0 < k)
      (cached : CountOrNone (w.cache.peek (Cache.stationKey (.int n) "request_valid_positions")))
      (run : (resetRequestSequence (.ref h)).run w = .ok () w1) (rest : RequestRun n w1 hs w') :
      RequestRun n w (.fulfilled I :: hs) w'
  | other {w w1 w' : World} {hs : List Heard}
      (counters : countersOf w1 (.int n) = countersOf w (.int n))
      (client : w1.cache.connected = w.cache.connected) (rest : RequestRun n w1 hs w') :
      RequestRun n w hs w'

/-- What a station owes from `j` questions into a sequence of `S` requests with an interval of
`I`: each question gets the rhythm's answer; a head-to-head election gets a request and leaves
the station spent; a fulfilled request changes nothing while the station is not spent, and on
a spent station starts a sequence of some length with the configured interval. -/
inductive FollowsRhythm : Int → Int → Nat → List Heard → Prop
  | stop {I S : Int} {j : Nat} : FollowsRhythm I S j []
  | asked {I S : Int} {j : Nat} {hs : List Heard} :
      FollowsRhythm I S (j + 1) hs → FollowsRhythm I S j (.asked (rhythm I S j) :: hs)
  | forced {I S : Int} {j : Nat} {hs : List Heard} :
      FollowsRhythm 0 0 0 hs → FollowsRhythm I S j (.forced true :: hs)
  | running {I S I' : Int} {j : Nat} {hs : List Heard} :
      (j : Int) < S + I → FollowsRhythm I S j hs → FollowsRhythm I S j (.fulfilled I' :: hs)
  | restart {I S I' S' : Int} {j : Nat} {hs : List Heard} :
      S + I ≤ j → 0 ≤ S' → FollowsRhythm I' S' 0 hs → FollowsRhythm I S j (.fulfilled I' :: hs)

/-- Along a run, from any place in a rhythm: the run follows it, and the counters at the end
are whole and not negative. -/
theorem requestRun_follows {n : Int} {w w' : World} {hs : List Heard}
    (run : RequestRun n w hs w') :
    ∀ {I S : Int} {j : Nat}, 0 ≤ I → w.cache.connected = true →
      countersOf w (.int n) = some (phase I S j) →
      FollowsRhythm I S j hs ∧
        ∃ c, countersOf w' (.int n) = some c ∧ 0 ≤ c.interval ∧ 0 ≤ c.sequence := by
  induction run with
  | stop w =>
    intro I S j _ _ hc
    exact ⟨.stop, _, hc, phase_nonneg I S j⟩
  | ask hstore hsid hkind run _ ih =>
    intro I S j hI conn hc
    obtain ⟨w1, asked, hc1, conn1⟩ := isRequestNeeded_run hstore hkind hsid conn hc
    rw [run, EStateM.Result.ok.injEq] at asked
    obtain ⟨rfl, rfl⟩ := asked
    rw [RequestCounters.ask_phase hI] at hc1 ⊢
    obtain ⟨follows, final⟩ := ih hI conn1 hc1
    exact ⟨.asked follows, final⟩
  | force hstore hsid hkind run _ ih =>
    intro I S j _ conn _
    obtain ⟨w1, forced, hc1, conn1⟩ := isRequestNeeded_pvp_run hstore hkind hsid conn
    rw [run, EStateM.Result.ok.injEq] at forced
    obtain ⟨rfl, rfl⟩ := forced
    rw [← phase_zero (Int.le_refl 0) (Int.le_refl 0)] at hc1
    obtain ⟨follows, final⟩ := ih (Int.le_refl 0) conn1 hc1
    exact ⟨.forced follows, final⟩
  | fulfil hstore hsid interval hI' scale hk cached run _ ih =>
    intro I S j hI conn hc
    obtain ⟨sameCache, reset⟩ :=
      resetRequestSequence_run_inv hstore hsid conn hc cached scale hk interval run
    have conn1 := sameCache ▸ conn
    by_cases spent : S + I ≤ j
    · -- a spent station starts the next sequence
      rw [if_pos ((phase_spent_iff hI j).mpr spent)] at reset
      obtain ⟨S', hS', hc1⟩ := reset
      rw [← phase_zero hI' hS'] at hc1
      obtain ⟨follows, final⟩ := ih hI' conn1 hc1
      exact ⟨.restart spent hS' follows, final⟩
    · -- a running one is left alone
      rw [if_neg (mt (phase_spent_iff hI j).mp spent)] at reset
      subst reset
      obtain ⟨follows, final⟩ := ih hI conn hc
      exact ⟨.running (by omega) follows, final⟩
  | other counters client _ ih =>
    intro I S j hI conn hc
    exact ih hI (client.trans conn) (counters.trans hc)

/-- Every run of a station's elections from whole counters `(I, S)` that are not negative
follows the rhythm of `S` requests, `I` elections without, and then requests, starting over
with each sequence a fulfilled request starts on a spent station; head-to-head elections always
take a request; and the counters at the end are whole and not negative. -/
theorem requestRun_rhythm {n I S : Int} {w w' : World} {hs : List Heard}
    (run : RequestRun n w hs w') (conn : w.cache.connected = true)
    (start : countersOf w (.int n) = some ⟨I, S⟩) (hI : 0 ≤ I) (hS : 0 ≤ S) :
    FollowsRhythm I S 0 hs ∧
      ∃ c, countersOf w' (.int n) = some c ∧ 0 ≤ c.interval ∧ 0 ≤ c.sequence :=
  requestRun_follows run hI conn (phase_zero hI hS ▸ start)

/-- Station 1 with an interval of two elections, a scale of three and six valid places in its
request line, and one ordinary election. -/
def sampleStation : World :=
  { config := { opts := [(.str "stations", .dict [(.int 1, .dict [(.str "request_interval", .int 2),
      (.str "request_sequence_scale", .int 3)])])] },
    cache := { entries := [(.str "sid1_request_valid_positions", .int 6)] },
    store := #[.event { kind := .election, sid := .int 1 }] }

/-- From spent counters, a request is due; fulfilling it starts a sequence of `6 / 3 = 2`
requests with an interval of 2, after which requests are due again. -/
theorem sampleStation_rhythm :
    ∃ w', RequestRun 1 sampleStation [.asked true, .fulfilled 2, .asked true, .asked true,
      .asked false, .asked false, .asked true] w' ∧
    FollowsRhythm 0 0 0 [.asked true, .fulfilled 2, .asked true, .asked true, .asked false,
      .asked false, .asked true] := by
  have run : RequestRun 1 sampleStation [.asked true, .fulfilled 2, .asked true, .asked true,
      .asked false, .asked false, .asked true] _ :=
    @RequestRun.ask 1 sampleStation _ _ 0 _ true _ rfl rfl (by decide) rfl <|
    @RequestRun.fulfil 1 _ _ _ 0 _ 2 3 _ rfl rfl rfl (by decide) rfl (by decide)
      (.inr ⟨6, rfl, by decide⟩) rfl <|
    @RequestRun.ask 1 _ _ _ 0 _ true _ rfl rfl (by decide) rfl <|
    @RequestRun.ask 1 _ _ _ 0 _ true _ rfl rfl (by decide) rfl <|
    @RequestRun.ask 1 _ _ _ 0 _ false _ rfl rfl (by decide) rfl <|
    @RequestRun.ask 1 _ _ _ 0 _ false _ rfl rfl (by decide) rfl <|
    @RequestRun.ask 1 _ _ _ 0 _ true _ rfl rfl (by decide) rfl <| .stop _
  exact ⟨_, run, (requestRun_rhythm run rfl rfl (by decide) (by decide)).1⟩

end Airwaves.Elections
