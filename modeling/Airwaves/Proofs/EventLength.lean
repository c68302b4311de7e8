import Airwaves.Proofs.ElectionOrder
import Airwaves.Schedule.Slot
/-!
# How long a single song lasts

An unused event measures its song's length; once used, its start less its end, which is negative
when it finished a second or more after it started.
-/

namespace Airwaves

/-! ### Playing a song leaves every event alone -/

/-- Every event stored is still there, unchanged. -/
def EventsKept (w w' : World) : Prop :=
  ∀ (h : Nat) (ev : Event), w.store[h]? = some (.event ev) → w'.store[h]? = some (.event ev)

theorem eventsKept_of_set {w w' : World} {i : Nat} {o : Obj} (stored : w.store[i]? = some o)
    (other : ∀ ev, o ≠ .event ev) (x : Obj) (rewritten : w'.store = w.store.set! i x) :
    EventsKept w w' := by
  intro h ev found
  have differ : i ≠ h := by
    rintro rfl
    rw [stored] at found
    cases found
    exact other ev rfl
  rw [rewritten, getElem?_set!_of_ne _ differ, found]

theorem eventsKept_loaderFrame : LoaderFrame EventsKept where
  trans first second h ev found := second h ev (first h ev found)
  same same h ev found := by rw [same]; exact found
  push x pushed h ev found := by rw [pushed]; exact getElem?_push_of_some found x
  rewrite m' stored rewritten := eventsKept_of_set stored (fun _ same => by cases same) _ rewritten

namespace EventsKept

open Elections

theorem frame : Frame EventsKept := eventsKept_loaderFrame.toFrame

theorem changeSong (m : Nat) (f : Song → Song) : Guards EventsKept (Songs.changeSong (.ref m) f) :=
  Songs.changeSong_guards frame fun _ _ stored => eventsKept_of_set stored (fun _ same => by cases same) _ rfl

theorem setData (v : Value) (key : String) (x : Value) : Guards EventsKept (Songs.setData v key x) :=
  changeSong_guards_any eventsKept_loaderFrame changeSong v _

theorem songData (s : Song) (key : String) : Guards EventsKept (Songs.dataOf s key) := by
  unfold Songs.dataOf
  split
  · exact Guards.pure frame _
  · exact Guards.raise frame _

theorem metadataData (m : Metadata) (key : String) : Guards EventsKept (Catalog.dataOf m key) := by
  unfold Catalog.dataOf
  split
  · exact Guards.pure frame _
  · exact Guards.raise frame _

theorem table : Guards EventsKept Cooldown.table := Guards.bind frame (Guards.get frame) fun _ => Guards.pure frame _

theorem timestamp : Guards EventsKept timestamp :=
  Guards.bind frame (Guards.bind frame (Guards.get frame) fun _ => Guards.pure frame _) fun _ => Guards.pure frame _

theorem ageMultiplier (addedOn : Value) : Guards EventsKept (Cooldown.ageMultiplier addedOn) := by
  unfold Cooldown.ageMultiplier
  repeat' first
    | with_reducible refine Guards.bind frame ?_ fun _ => ?_
    | split
    | dsimp only
    | exact Guards.pure frame _
    | exact Guards.raise frame _
    | exact Guards.lift frame _
    | exact timestampInt_guards frame
    | exact configGet_guards frame _

theorem albumCoolTime (v sid : Value) : Guards EventsKept (Catalog.albumCoolTime v sid) := by
  unfold Catalog.albumCoolTime
  repeat' first
    | with_reducible refine Guards.bind frame ?_ fun _ => ?_
    | split
    | exact Guards.pure frame _
    | exact Guards.lift frame _
    | exact metadataOf_guards frame _
    | exact noMember_guards frame _ _
    | exact itemOf_guards frame _ _
    | exact col_guards frame _ _
    | exact table
    | exact albumSongCount_guards frame _ _
    | exact stationGet_guards frame _ _
    | exact metadataData _ _
    | exact ageMultiplier _

theorem cooldownRows (v sid coolTime : Value) : Guards EventsKept (Catalog.cooldownRows v sid coolTime) := by
  unfold Catalog.cooldownRows
  repeat' first
    | with_reducible refine Guards.bind frame ?_ fun _ => ?_
    | with_reducible refine Guards.forIn frame _ _ fun _ _ => ?_
    | split
    | exact Guards.pure frame _
    | exact Guards.lift frame _
    | exact metadataOf_guards frame _
    | exact timestamp
    | exact joinsOnUpdate_guards frame
    | exact query_guards frame _ _
    | exact itemsOf_guards frame _
    | exact stationGet_guards frame _ _

theorem catalogCooldown (v sid coolTime : Value) : Guards EventsKept (Catalog.startCooldown v sid coolTime) := by
  unfold Catalog.startCooldown
  repeat' first
    | with_reducible refine Guards.bind frame ?_ fun _ => ?_
    | split
    | exact Guards.pure frame _
    | exact metadataOf_guards frame _
    | exact metadataData _ _
    | exact albumCoolTime _ _
    | exact markUpdated_guards frame _ _
    | exact cooldownRows _ _ _

theorem songCooldown (v sid : Value) : Guards EventsKept (Songs.startCooldown v sid) := by
  unfold Songs.startCooldown Songs.stationOf
  repeat' first
    | with_reducible refine Guards.bind frame ?_ fun _ => ?_
    | with_reducible refine Guards.forIn frame _ _ fun _ _ => ?_
    | split
    | exact Guards.pure frame _
    | exact Guards.lift frame _
    | exact songOf_guards frame _
    | exact noMember_guards frame _ _
    | exact isIn_guards frame _ _
    | exact songData _ _
    | exact itemsOf_guards frame _
    | exact catalogCooldown _ _ _
    | exact itemOf_guards frame _ _
    | exact table
    | exact col_guards frame _ _
    | exact ageMultiplier _
    | exact timestamp
    | exact query_guards frame _ _
    | exact setData _ _ _
    | exact stationGet_guards frame _ _

theorem lastPlayed (v sid : Value) : Guards EventsKept (Songs.updateLastPlayed v sid) := by
  unfold Songs.updateLastPlayed Albums.updateLastPlayed
  repeat' first
    | with_reducible refine Guards.bind frame ?_ fun _ => ?_
    | with_reducible refine Guards.forIn frame _ _ fun _ _ => ?_
    | exact Guards.pure frame _
    | exact songOf_guards frame _
    | exact metadataOf_guards frame _
    | exact itemsOf_guards frame _
    | exact timestamp
    | exact query_guards frame _ _

theorem length (v : Value) : Guards EventsKept (Events.length v) := by
  unfold Events.length Events.firstSong Events.songLength
  repeat' first
    | with_reducible refine Guards.bind frame ?_ fun _ => ?_
    | split
    | exact Guards.pure frame _
    | exact Guards.lift frame _
    | exact eventOf_guards frame _
    | exact itemOf_guards frame _ _
    | exact attributeOf_guards frame _ _

end EventsKept

namespace Events

/-! ### One call on an event -/

/-- The whole second a clock reading stands for, as events stamp it. -/
def wholeSecond (now : Double) : Int := (Value.floatToInt? now).getD 0

/-- A call on a single-song event, made when the clock reads `now`. -/
inductive Call where
  | start (now : Double)
  | finish (now : Double)
  | length (now : Double)

/-- The clock moves to a reading. -/
def setClock (now : Double) : Act Unit := modify fun w => { w with now := now }

/-- Sets the clock, then makes the call on the event under `h`. -/
def Call.run (h : Nat) : Call → Act Unit
  | .start now => do setClock now; Schedule.startEvent (.ref h)
  | .finish now => do setClock now; Schedule.finishEvent (.ref h)
  | .length now => do setClock now; discard (Schedule.eventLength (.ref h))

/-- What a call writes on the event: a start stamps the actual start with the clock's whole
second, a finish marks the event used and stamps its end. -/
def Call.stamp (ev : Event) : Call → Event
  | .start now => { ev with startActual := .int (wholeSecond now), inProgress := .bool true }
  | .finish now => { ev with used := .bool true, inProgress := .bool false, «end» := .int (wholeSecond now) }
  | .length _ => ev

/-- A single song and a song of a power hour are no elections. -/
theorem isElection_of_single {k : EventKind} (kind : k = .singleSong ∨ k = .oneUp) : k.isElection = false := by
  rcases kind with same | same <;> rw [same] <;> rfl

theorem Call.stamp_kind (ev : Event) (c : Call) : (c.stamp ev).kind = ev.kind := by cases c <;> rfl

theorem Call.stamp_songs (ev : Event) (c : Call) : (c.stamp ev).songs = ev.songs := by cases c <;> rfl

theorem setClock_run (now : Double) (w : World) : (setClock now).run w = .ok () { w with now := now } := rfl

theorem timestampInt_run (w : World) : timestampInt.run w = .ok (.int (wholeSecond w.now)) w := rfl

theorem isElectionEvent_run {h : Nat} {w : World} {ev : Event} (stored : w.store[h]? = some (.event ev)) :
    (Schedule.isElectionEvent (.ref h)).run w = .ok ev.kind.isElection w := by
  simp [Schedule.isElectionEvent, eventOf, run_map, eventAt_ref_run_of stored]

theorem startEvent_run {h : Nat} {w : World} {ev : Event} (stored : w.store[h]? = some (.event ev))
    (plain : ev.kind.isElection = false) :
    (Schedule.startEvent (.ref h)).run w =
      .ok () { w with store := w.store.set! h (.event ((Call.start w.now).stamp ev)) } := by
  rw [Schedule.startEvent, run_bind_ok (isElectionEvent_run stored), plain]
  simp only [Bool.false_eq_true, if_false]
  rw [Events.start, run_bind_ok (timestampInt_run w)]
  exact changeEvent_ref_run_of stored _

/-- Finishing stamps the event first; playing its song afterwards leaves every event alone. -/
theorem finish_run {h : Nat} {w w' : World} {ev : Event} (stored : w.store[h]? = some (.event ev))
    (run : (finish (.ref h)).run w = .ok () w') :
    w'.store[h]? = some (.event ((Call.finish w.now).stamp ev)) := by
  rw [finish, run_bind_ok (timestampInt_run w), run_bind_ok (changeEvent_ref_run_of stored _)] at run
  refine (?played : Guards EventsKept _) _ |>.1 _ _ run h _ (getElem?_set!_self stored _)
  case played =>
    unfold playedSong firstSong
    repeat' first
      | with_reducible refine Guards.bind EventsKept.frame ?_ fun _ => ?_
      | split
      | exact Guards.pure EventsKept.frame _
      | exact Elections.eventOf_guards EventsKept.frame _
      | exact itemOf_guards EventsKept.frame _ _
      | exact EventsKept.lastPlayed _ _
      | exact EventsKept.songCooldown _ _

/-- A single song finishes as a plain event; a song of a power hour also marks its entry used,
which writes only to the database. -/
theorem finishEvent_run {h : Nat} {w w' : World} {ev : Event} (stored : w.store[h]? = some (.event ev))
    (kind : ev.kind = .singleSong ∨ ev.kind = .oneUp)
    (run : (Schedule.finishEvent (.ref h)).run w = .ok () w') :
    w'.store[h]? = some (.event ((Call.finish w.now).stamp ev)) := by
  rw [Schedule.finishEvent, run_bind_ok (Elections.eventOf_run stored)] at run
  rcases kind with single | oneUp
  · simp only [single] at run
    exact finish_run stored run
  · simp only [oneUp] at run
    rw [finishOneUp] at run
    obtain ⟨_, w1, finished, rest⟩ := run_bind_eq_ok run
    refine (?marked : Guards EventsKept _) _ |>.1 _ _ rest h _ (finish_run stored finished)
    case marked =>
      exact Guards.bind EventsKept.frame (Elections.eventOf_guards EventsKept.frame _) fun _ =>
        Guards.bind EventsKept.frame (query_guards EventsKept.frame _ _) fun _ => Guards.pure EventsKept.frame _

theorem eventLength_keeps {h : Nat} {w w' : World} {ev : Event} {x : Value}
    (stored : w.store[h]? = some (.event ev)) (plain : ev.kind.isElection = false)
    (run : (Schedule.eventLength (.ref h)).run w = .ok x w') : w'.store[h]? = some (.event ev) := by
  rw [Schedule.eventLength, run_bind_ok (isElectionEvent_run stored), plain] at run
  exact (EventsKept.length _ _).1 _ _ run h ev stored

theorem minus_int_run (a b : Int) (w : World) : (minus (.int a) (.int b)).run w = .ok (.int (a - b)) w := rfl

/-- An event that was used and actually started at a second other than zero measures its actual
start less its end. -/
theorem eventLength_used {h : Nat} {w : World} {ev : Event} (stored : w.store[h]? = some (.event ev))
    (plain : ev.kind.isElection = false) (used : ev.used.truthy = true) {s t : Int}
    (started : ev.startActual = .int s) (nonzero : s ≠ 0) (ended : ev.«end» = .int t) :
    (Schedule.eventLength (.ref h)).run w = .ok (.int (s - t)) w := by
  rw [Schedule.eventLength, run_bind_ok (isElectionEvent_run stored), plain]
  simp only [Bool.false_eq_true, if_false]
  have truthy : (Value.int s).truthy = true := by simp [Value.truthy, nonzero]
  rw [Events.length, run_bind_ok (Elections.eventOf_run stored)]
  simp [used, started, ended, truthy, minus_int_run]

/-- An unused event measures its song's length. -/
theorem eventLength_unused {h : Nat} {w : World} {ev : Event} (stored : w.store[h]? = some (.event ev))
    (plain : ev.kind.isElection = false) (unused : ev.used.truthy = false) :
    (Schedule.eventLength (.ref h)).run w = (firstSong ev >>= songLength).run w := by
  rw [Schedule.eventLength, run_bind_ok (isElectionEvent_run stored), plain]
  simp only [Bool.false_eq_true, if_false]
  rw [Events.length, run_bind_ok (Elections.eventOf_run stored)]
  simp [unused]

/-- One call: the event ends as the call stamps it, of the same kind. -/
theorem Call.run_stamp {h : Nat} {w w' : World} {ev : Event} (stored : w.store[h]? = some (.event ev))
    (kind : ev.kind = .singleSong ∨ ev.kind = .oneUp) (c : Call) (run : (c.run h).run w = .ok () w') :
    w'.store[h]? = some (.event (c.stamp ev)) := by
  have plain := isElection_of_single kind
  cases c with
  | start now =>
    rw [Call.run, run_bind_ok (setClock_run now w), startEvent_run (w := { w with now := now }) stored plain] at run
    cases run
    exact getElem?_set!_self stored _
  | finish now =>
    rw [Call.run, run_bind_ok (setClock_run now w)] at run
    exact finishEvent_run (w := { w with now := now }) stored kind run
  | length now =>
    rw [Call.run, run_bind_ok (setClock_run now w)] at run
    obtain ⟨_, w1, measured, rest⟩ := run_bind_eq_ok run
    obtain ⟨-, rfl⟩ := run_pure_eq_ok rest
    exact eventLength_keeps (w := { w with now := now }) stored plain measured

/-! ### A run of calls -/

/-- A run of calls: the event ends as the calls stamp it, one after another. -/
theorem Call.runAll_stamp {h : Nat} (calls : List Call) :
    ∀ {w w' : World} {ev : Event}, w.store[h]? = some (.event ev) →
      (ev.kind = .singleSong ∨ ev.kind = .oneUp) → (calls.forM (Call.run h)).run w = .ok () w' →
      w'.store[h]? = some (.event (calls.foldl Call.stamp ev)) := by
  induction calls with
  | nil =>
    intro w w' ev stored _ run
    obtain ⟨-, rfl⟩ := run_pure_eq_ok run
    exact stored
  | cons c rest ih =>
    intro w w' ev stored kind run
    rw [List.forM_eq_forM, List.forM_cons] at run
    obtain ⟨_, w1, first, later⟩ := run_bind_eq_ok run
    -- a stamp keeps the kind, so the next call meets an event of the same kind
    exact ih (Call.run_stamp stored kind c first) (Call.stamp_kind ev c ▸ kind) later


/-- No stamp touches the event's kind or its songs. -/
theorem Call.foldl_kind_songs (calls : List Call) (ev : Event) :
    (calls.foldl Call.stamp ev).kind = ev.kind ∧ (calls.foldl Call.stamp ev).songs = ev.songs := by
  induction calls generalizing ev with
  | nil => exact ⟨rfl, rfl⟩
  | cons c rest ih =>
    obtain ⟨kind, songs⟩ := ih (c.stamp ev)
    exact ⟨kind.trans (Call.stamp_kind ev c), songs.trans (Call.stamp_songs ev c)⟩

/-- Only a finish marks the event used. -/
theorem Call.foldl_used {calls : List Call} (unfinished : ∀ t, Call.finish t ∉ calls) (ev : Event) :
    (calls.foldl Call.stamp ev).used = ev.used := by
  induction calls generalizing ev with
  | nil => rfl
  | cons c rest ih =>
    have later : ∀ t, Call.finish t ∉ rest := fun t mem => unfinished t (List.mem_cons_of_mem _ mem)
    rw [List.foldl_cons, ih later]
    cases c with
    | finish t => exact absurd List.mem_cons_self (unfinished t)
    | start _ | length _ => rfl

/-- Measuring writes nothing. -/
theorem Call.foldl_lengths {mid : List Call} (lengths : ∀ c ∈ mid, ∃ t, c = .length t) (ev : Event) :
    mid.foldl Call.stamp ev = ev := by
  induction mid generalizing ev with
  | nil => rfl
  | cons c rest ih =>
    obtain ⟨t, rfl⟩ := lengths c List.mem_cons_self
    exact ih (fun c' mem => lengths c' (List.mem_cons_of_mem _ mem)) ev

/-- A run that ends with a start, some measuring and a finish leaves the event used, with the
start's second as its actual start and the finish's second as its end. -/
theorem Call.foldl_started_finished (pre mid : List Call) (t₀ t₁ : Double)
    (lengths : ∀ c ∈ mid, ∃ t, c = .length t) (ev : Event) :
    let last := (pre ++ Call.start t₀ :: mid ++ [Call.finish t₁]).foldl Call.stamp ev
    last.used = .bool true ∧ last.startActual = .int (wholeSecond t₀) ∧ last.«end» = .int (wholeSecond t₁) := by
  simp only [List.foldl_append, List.foldl_cons, List.foldl_nil, Call.foldl_lengths lengths]
  exact ⟨rfl, rfl, rfl⟩

/-- **The length of a single song across its calls.** For a single song or a song of a power
hour, after any run of starts, finishes and measurings: while no finish has marked it used it
measures its first song's length, and once it was started at a second other than zero and
finished later, it measures the second it started less the second it ended, which is negative
whenever the clock moved on by a second or more between the two. -/
theorem eventLength_after_calls (h : Nat) (ev : Event) (w w' : World)
    (stored : w.store[h]? = some (.event ev)) (kind : ev.kind = .singleSong ∨ ev.kind = .oneUp)
    (calls : List Call) (run : (calls.forM (Call.run h)).run w = .ok () w') :
    (ev.used.truthy = false → (∀ t, Call.finish t ∉ calls) →
      (Schedule.eventLength (.ref h)).run w' = (firstSong ev >>= songLength).run w') ∧
    ∀ pre mid t₀ t₁, calls = pre ++ Call.start t₀ :: mid ++ [Call.finish t₁] → (∀ c ∈ mid, ∃ t, c = .length t) →
      wholeSecond t₀ ≠ 0 →
      (Schedule.eventLength (.ref h)).run w' = .ok (.int (wholeSecond t₀ - wholeSecond t₁)) w' := by
  -- the run leaves the event as its calls stamped it, still of its kind and with its songs
  have last := Call.runAll_stamp calls stored kind run
  obtain ⟨kept, songs⟩ := Call.foldl_kind_songs calls ev
  have plain : (calls.foldl Call.stamp ev).kind.isElection = false := by
    rw [kept]
    exact isElection_of_single kind
  constructor
  · intro unused unfinished
    rw [eventLength_unused last plain (by rw [Call.foldl_used unfinished, unused]), firstSong, songs]
    rfl
  · rintro pre mid t₀ t₁ rfl lengths nonzero
    obtain ⟨used, started, ended⟩ := Call.foldl_started_finished pre mid t₀ t₁ lengths ev
    exact eventLength_used last plain (by rw [used]; rfl) started nonzero ended

/-- A single song under 0 whose one song is missing, so that finishing it plays nothing. -/
def songlessSingle : World :=
  { store := #[.event { kind := .singleSong, songs := .list [.none] }] }

/-- Started at one reading and finished at a later one, the song measures the difference of the
two seconds, start first: a hundred seconds later it measures `-100`. -/
theorem songlessSingle_started_finished :
    ∃ w', ([Call.start 1500000000.0, Call.finish 1500000100.0].forM (Call.run 0)).run songlessSingle =
        .ok () w' ∧
      wholeSecond 1500000000.0 ≠ 0 ∧
      (Schedule.eventLength (.ref 0)).run w' = .ok (.int (-100)) w' := by
  obtain ⟨w', run⟩ : ∃ w', ([Call.start 1500000000.0, Call.finish 1500000100.0].forM
      (Call.run 0)).run songlessSingle = .ok () w' := ⟨_, rfl⟩
  have nonzero : wholeSecond 1500000000.0 ≠ 0 := by decide +kernel
  have measured := (eventLength_after_calls 0 _ songlessSingle _ rfl (.inl rfl) _ run).2 [] []
    1500000000.0 1500000100.0 rfl (by simp) nonzero
  have seconds : wholeSecond 1500000000.0 - wholeSecond 1500000100.0 = -100 := by decide +kernel
  rw [seconds] at measured
  exact ⟨w', run, nonzero, measured⟩

end Events
end Airwaves
