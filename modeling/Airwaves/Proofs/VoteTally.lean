import Mathlib.Data.List.Nodup
import Mathlib.Tactic.Common
import Mathlib.Algebra.BigOperators.Ring.Finset
/-!
# Vote tallies

One vote keeps `Tally` (`Tally.write`), so each entry's count is the standing votes of distinct
voters, plus its requester's until that listener votes (`Tally.countsVoters`).
-/

namespace Airwaves.Tallies

/-- An entry of an election: its id and, for a request entry, the listener who asked for it. -/
structure Entry where
  id : Int
  requester : Option Int
  deriving DecidableEq

/-- An election as a vote sees it: its id and its entries, in order. -/
structure Ballot where
  id : Int
  entries : List Entry

namespace Ballot

/-- The ids of the entries. -/
def ids (E : Ballot) : List Int := E.entries.map (·.id)

/-- The first entry a listener asked for. -/
def requestOf (E : Ballot) (u : Int) : Option Int :=
  (E.entries.find? (·.requester == some u)).map (·.id)

/-- Entry ids are positive and distinct, as the entries table's serial key makes them, and no
listener asked for two entries. -/
structure WellFormed (E : Ballot) : Prop where
  pos : ∀ x ∈ E.entries, 0 < x.id
  ids_nodup : E.ids.Nodup
  requesters_nodup : ((E.entries.filter (·.requester.isSome)).map (·.requester)).Nodup

variable {E : Ballot}

/-- The entry a listener asked for is the one whose requester they are. -/
theorem requestOf_eq_some_iff (wf : E.WellFormed) {x : Entry} (mem : x ∈ E.entries) (u : Int) :
    E.requestOf u = some x.id ↔ x.requester = some u := by
  unfold requestOf
  constructor
  · intro found
    obtain ⟨y, hy, same⟩ := Option.map_eq_some_iff.mp found
    have asked : y.requester = some u := by simpa using List.find?_some hy
    -- ids are distinct, so the entry found is `x`
    have : y = x := List.inj_on_of_nodup_map wf.ids_nodup (List.mem_of_find?_eq_some hy) mem same
    exact this ▸ asked
  · intro asked
    cases hy : E.entries.find? (·.requester == some u) with
    | none => exact absurd (by simp [asked]) (List.find?_eq_none.mp hy x mem)
    | some y =>
      have yAsked : y.requester = some u := by simpa using List.find?_some hy
      -- requesters are distinct, so the entry found is `x`
      have : y = x := List.inj_on_of_nodup_map wf.requesters_nodup
        (List.mem_filter.mpr ⟨List.mem_of_find?_eq_some hy, by simp [yAsked]⟩)
        (List.mem_filter.mpr ⟨mem, by simp [asked]⟩) (yAsked.trans asked.symm)
      simp [this]

end Ballot

/-- A row of the vote history: a registered listener's vote in an election. -/
structure HistoryRow where
  user : Int
  elec : Int
  entry : Int
  deriving DecidableEq

/-- Who votes: a registered listener, by user id, or an anonymous one, by listener record. -/
inductive Voter where
  | registered (user : Int)
  | anonymous (listener : Int)
  deriving DecidableEq

/-- The columns votes read and write in three tables: the vote count of every entry, the rows of
the vote history, and each listener record with the entry it last voted for. -/
structure Tables where
  votes : Int → Int
  history : List HistoryRow
  listeners : List (Int × Option Int)

namespace Tables

variable (T : Tables)

/-- The entry of a registered listener's row in an election. -/
def rowEntry (u elec : Int) : Option Int :=
  (T.history.find? fun r => r.user == u && r.elec == elec).map (·.entry)

/-- The entry a listener record voted for. -/
def recordVote (l : Int) : Option Int := (T.listeners.lookup l).join

/-- The entry a voter's vote in the election stands on. -/
def ballotOf (E : Ballot) : Voter → Option Int
  | .registered u => T.rowEntry u E.id
  | .anonymous l => T.recordVote l

/-! ### The statements a vote runs -/

/-- Adds `n` to the count of entry `x`. -/
def addVotes (x n : Int) : Tables := { T with votes := Function.update T.votes x (T.votes x + n) }

/-- Moves a listener's history rows on entry `a` to entry `e`. -/
def moveRows (u a e : Int) : Tables :=
  { T with history := T.history.map fun r => if r.user = u ∧ r.entry = a then { r with entry := e } else r }

/-- Adds a row to the vote history. -/
def insertRow (r : HistoryRow) : Tables := { T with history := T.history ++ [r] }

/-- Sets the entry a listener record voted for. -/
def setRecordVote (l e : Int) : Tables :=
  { T with listeners := T.listeners.map fun p => if p.1 = l then (p.1, some e) else p }

/-- What a vote for entry `e` writes. A vote for the entry the voter's vote stands on writes
nothing. Otherwise a standing vote is taken back from its entry and moved, on the listener record
of an anonymous listener and in the history row of a registered one; a registered listener's first
vote adds a history row and takes back the vote of the entry they asked for. Then the entry gains
the vote. -/
def write (E : Ballot) : Voter → Int → Tables
  | .anonymous l, e =>
    match T.recordVote l with
    | some a => if a = e then T else ((T.addVotes a (-1)).setRecordVote l e).addVotes e 1
    | none => (T.setRecordVote l e).addVotes e 1
  | .registered u, e =>
    match T.rowEntry u E.id with
    | some a => if a = e then T else ((T.addVotes a (-1)).moveRows u a e).addVotes e 1
    | none =>
      (((E.requestOf u).elim (T.insertRow ⟨u, E.id, e⟩) fun r =>
        (T.insertRow ⟨u, E.id, e⟩).addVotes r (-1))).addVotes e 1

/-! ### What the counts say -/

/-- Whether a request entry still holds its requester's vote: the requester has not voted in the
election. -/
def holdsRequestVote (E : Ballot) (x : Entry) : Bool :=
  match x.requester with
  | some u => (T.rowEntry u E.id).isNone
  | none => false

/-- The votes standing on entry `x`: history rows and listener records on it. -/
def standing (x : Int) : Nat := T.history.countP (·.entry == x) + T.listeners.countP (·.2 == some x)

/-- The voters of the election: the registered listeners with a row in it and the listener records
on one of its entries. -/
def voters (E : Ballot) : List Voter :=
  (T.history.filter (·.elec == E.id)).map (fun r => .registered r.user) ++
    (T.listeners.filter fun p => p.2.any (· ∈ E.ids)).map fun p => .anonymous p.1

end Tables

/-- The tables know a voter: an anonymous listener votes from their listener record. -/
def Tables.Knows (T : Tables) : Voter → Prop
  | .registered _ => True
  | .anonymous l => l ∈ T.listeners.map (·.1)

/-- Each vote is for an entry of the election, by a voter the tables know when it is made. -/
def Admits (E : Ballot) : Tables → List (Voter × Int) → Prop
  | _, [] => True
  | T, (v, e) :: rest => T.Knows v ∧ e ∈ E.ids ∧ Admits E (T.write E v e) rest

/-- The entry of a voter's last vote among votes made in order. -/
def lastVote (votes : List (Voter × Int)) (v : Voter) : Option Int :=
  (votes.reverse.find? (·.1 == v)).map (·.2)

/-- The tables after votes, made in order. -/
def Tables.after (T : Tables) (E : Ballot) : List (Voter × Int) → Tables
  | [] => T
  | (v, e) :: rest => (T.write E v e).after E rest

/-! ### What each statement changes -/

namespace Tables

variable {T : Tables}

@[simp] theorem addVotes_votes (x n y : Int) :
    (T.addVotes x n).votes y = T.votes y + if x = y then n else 0 := by
  by_cases here : x = y
  · subst here
    simp [addVotes]
  · simp [addVotes, Ne.symm here, here]

@[simp] theorem addVotes_history (x n : Int) : (T.addVotes x n).history = T.history := rfl
@[simp] theorem addVotes_listeners (x n : Int) : (T.addVotes x n).listeners = T.listeners := rfl
@[simp] theorem moveRows_votes (u a e : Int) : (T.moveRows u a e).votes = T.votes := rfl
@[simp] theorem moveRows_listeners (u a e : Int) : (T.moveRows u a e).listeners = T.listeners := rfl
@[simp] theorem insertRow_votes (r : HistoryRow) : (T.insertRow r).votes = T.votes := rfl
@[simp] theorem insertRow_history (r : HistoryRow) : (T.insertRow r).history = T.history ++ [r] := rfl
@[simp] theorem insertRow_listeners (r : HistoryRow) : (T.insertRow r).listeners = T.listeners := rfl
@[simp] theorem setRecordVote_votes (l e : Int) : (T.setRecordVote l e).votes = T.votes := rfl
@[simp] theorem setRecordVote_history (l e : Int) : (T.setRecordVote l e).history = T.history := rfl
@[simp] theorem setRecordVote_listeners (l e : Int) :
    (T.setRecordVote l e).listeners = T.listeners.map fun p => if p.1 = l then (p.1, some e) else p := rfl
@[simp] theorem moveRows_history (u a e : Int) : (T.moveRows u a e).history =
    T.history.map fun r => if r.user = u ∧ r.entry = a then { r with entry := e } else r := rfl
@[simp] theorem addVotes_holdsRequestVote (x n : Int) (E : Ballot) :
    (T.addVotes x n).holdsRequestVote E = T.holdsRequestVote E := rfl
@[simp] theorem setRecordVote_holdsRequestVote (l e : Int) (E : Ballot) :
    (T.setRecordVote l e).holdsRequestVote E = T.holdsRequestVote E := rfl

/-- Moving rows keeps who each row belongs to, so a search by listener and election finds the same
row, moved. -/
theorem rowEntry_moveRows (u a e u' elec : Int) :
    (T.moveRows u a e).rowEntry u' elec =
      (T.rowEntry u' elec).map fun b => if u' = u ∧ b = a then e else b := by
  unfold rowEntry moveRows
  rw [List.find?_map]
  have blind : ((fun r : HistoryRow => r.user == u' && r.elec == elec) ∘
      fun r => if r.user = u ∧ r.entry = a then { r with entry := e } else r) =
      fun r => r.user == u' && r.elec == elec := by
    funext r
    by_cases moved : r.user = u ∧ r.entry = a <;> simp [moved]
  rw [blind]
  cases found : T.history.find? (fun r => r.user == u' && r.elec == elec) with
  | none => rfl
  | some r =>
    have owner : r.user = u' := (by simpa using List.find?_some found : r.user = u' ∧ r.elec = elec).1
    subst owner
    by_cases moved : r.user = u ∧ r.entry = a <;> simp [moved]

theorem rowEntry_insertRow (r : HistoryRow) (u elec : Int) :
    (T.insertRow r).rowEntry u elec =
      (T.rowEntry u elec).or (if r.user = u ∧ r.elec = elec then some r.entry else none) := by
  unfold rowEntry insertRow
  rw [List.find?_append]
  cases T.history.find? (fun r => r.user == u && r.elec == elec) <;>
    by_cases mine : r.user = u ∧ r.elec = elec <;> simp [mine]

theorem lookup_setRecord_other (ps : List (Int × Option Int)) {l l' : Int} (other : l' ≠ l) (e : Int) :
    (ps.map fun p => if p.1 = l then (p.1, some e) else p).lookup l' = ps.lookup l' := by
  induction ps with
  | nil => rfl
  | cons p ps ih =>
    obtain ⟨k, b⟩ := p
    by_cases here : k = l
    · subst here
      have skip : (l' == k) = false := beq_false_of_ne other
      simp [List.lookup_cons, skip, ih]
    · simp [List.lookup_cons, here, ih]

theorem lookup_setRecord_self {ps : List (Int × Option Int)} {l : Int} (known : l ∈ ps.map (·.1)) (e : Int) :
    (ps.map fun p => if p.1 = l then (p.1, some e) else p).lookup l = some (some e) := by
  induction ps with
  | nil => simp at known
  | cons p ps ih =>
    obtain ⟨k, b⟩ := p
    by_cases here : k = l
    · subst here
      simp
    · have later : l ∈ ps.map (·.1) := by simpa [Ne.symm here] using known
      have skip : (l == k) = false := beq_false_of_ne (Ne.symm here)
      simp [List.lookup_cons, here, skip, ih later]

theorem recordVote_setRecordVote (known : l ∈ T.listeners.map (·.1)) (e l' : Int) :
    (T.setRecordVote l e).recordVote l' = if l' = l then some e else T.recordVote l' := by
  unfold recordVote setRecordVote
  split
  · rename_i same
    subst same
    simp [lookup_setRecord_self known]
  · rename_i other
    simp [lookup_setRecord_other _ other]

/-- Moving a listener's rows on `a` to `e` moves as many votes from `a` to `e` as the listener has
rows on `a`. -/
theorem countP_moveRows (rows : List HistoryRow) (u a e x : Int) :
    (rows.map fun r => if r.user = u ∧ r.entry = a then { r with entry := e } else r).countP
        (·.entry == x) + (rows.countP fun r => r.user == u && r.entry == a) * (if a = x then 1 else 0) =
      rows.countP (·.entry == x) + (rows.countP fun r => r.user == u && r.entry == a) *
        (if e = x then 1 else 0) := by
  induction rows with
  | nil => simp
  | cons r rows ih =>
    simp only [List.map_cons, List.countP_cons]
    by_cases moved : r.user = u ∧ r.entry = a
    · have hit : (r.user == u && r.entry == a) = true := by simp [moved]
      rw [if_pos moved, if_pos hit]
      by_cases toX : e = x <;> by_cases fromX : a = x <;> simp [toX, fromX, moved.2] at ih ⊢ <;> omega
    · have miss : (r.user == u && r.entry == a) = false := by simpa using moved
      rw [if_neg moved, miss]
      simp only [Bool.false_eq_true, if_false, Nat.add_zero]
      omega

/-- Setting a known listener record's vote to `e` takes it from the entry it voted for and gives
it to `e`. -/
theorem countP_setRecord {ps : List (Int × Option Int)} (keys : (ps.map (·.1)).Nodup) {l : Int}
    (known : l ∈ ps.map (·.1)) (e x : Int) :
    (ps.map fun p => if p.1 = l then (p.1, some e) else p).countP (·.2 == some x) +
        (if (ps.lookup l).join = some x then 1 else 0) =
      ps.countP (·.2 == some x) + if e = x then 1 else 0 := by
  induction ps with
  | nil => simp at known
  | cons p ps ih =>
    obtain ⟨k, b⟩ := p
    rw [List.map_cons, List.nodup_cons] at keys
    by_cases here : k = l
    · -- the record is the first one, and no later record has its key
      subst here
      have rest : (ps.map fun p => if p.1 = k then (p.1, some e) else p) = ps := by
        refine (List.map_congr_left fun q mem => if_neg fun same => ?_).trans (List.map_id ps)
        have listed : q.1 ∈ ps.map (·.1) := List.mem_map_of_mem mem
        exact keys.1 (by simpa [same] using listed)
      simp only [List.map_cons, if_true, rest, List.countP_cons, List.lookup_cons, beq_self_eq_true,
        Option.join_some]
      by_cases toX : e = x <;> by_cases fromX : b = some x <;> simp [toX, fromX]
    · have later : l ∈ ps.map (·.1) := by simpa [Ne.symm here] using known
      have skip : (l == k) = false := beq_false_of_ne (Ne.symm here)
      have step := ih keys.2 later
      simp only [List.map_cons, here, if_false, List.countP_cons, List.lookup_cons, skip]
      omega

@[simp] theorem standing_addVotes (x n y : Int) : (T.addVotes x n).standing y = T.standing y := rfl

/-- Setting a known listener record's vote to `e` moves its standing vote to `e`. -/
theorem standing_setRecordVote (keys : (T.listeners.map (·.1)).Nodup) {l : Int}
    (known : l ∈ T.listeners.map (·.1)) (e x : Int) :
    (T.setRecordVote l e).standing x + (if T.recordVote l = some x then 1 else 0) =
      T.standing x + if e = x then 1 else 0 := by
  have moved := countP_setRecord keys known e x
  unfold standing
  rw [setRecordVote_history, setRecordVote_listeners]
  unfold recordVote
  omega

/-- Moving a listener's one row on `a` to `e` moves its standing vote to `e`. -/
theorem standing_moveRows {u a : Int} (one : (T.history.countP fun r => r.user == u && r.entry == a) = 1)
    (e x : Int) :
    (T.moveRows u a e).standing x + (if a = x then 1 else 0) = T.standing x + if e = x then 1 else 0 := by
  have moved := countP_moveRows T.history u a e x
  simp only [one, Nat.one_mul] at moved
  simp only [standing, moveRows_history, moveRows_listeners]
  omega

theorem standing_insertRow (r : HistoryRow) (x : Int) :
    (T.insertRow r).standing x = T.standing x + if r.entry = x then 1 else 0 := by
  unfold standing
  rw [insertRow_history, insertRow_listeners, List.countP_append]
  by_cases on : r.entry = x
  · simp only [on, List.countP_singleton, beq_self_eq_true, if_true]
    omega
  · simp [on]

@[simp] theorem moveRows_holdsRequestVote (u a e : Int) (E : Ballot) :
    (T.moveRows u a e).holdsRequestVote E = T.holdsRequestVote E := by
  funext x
  unfold holdsRequestVote
  cases x.requester <;> simp [rowEntry_moveRows]

/-- A row added for listener `u` takes the vote of the entry `u` asked for. -/
theorem insertRow_holdsRequestVote (u e : Int) (E : Ballot) (x : Entry) :
    (T.insertRow ⟨u, E.id, e⟩).holdsRequestVote E x = (T.holdsRequestVote E x && x.requester != some u) := by
  unfold holdsRequestVote
  cases x.requester with
  | none => rfl
  | some v =>
    by_cases same : u = v
    · simp [rowEntry_insertRow, same]
    · simp [rowEntry_insertRow, same, Ne.symm same]

theorem rowEntry_eq_some {u elec a : Int} (found : T.rowEntry u elec = some a) :
    ∃ r ∈ T.history, r.user = u ∧ r.elec = elec ∧ r.entry = a := by
  obtain ⟨r, hr, rfl⟩ := Option.map_eq_some_iff.mp found
  have owner : r.user = u ∧ r.elec = elec := by simpa using List.find?_some hr
  exact ⟨r, List.mem_of_find?_eq_some hr, owner.1, owner.2, rfl⟩

theorem rowEntry_eq_none {u elec : Int} :
    T.rowEntry u elec = none ↔ ∀ r ∈ T.history, ¬(r.user = u ∧ r.elec = elec) := by
  simp [rowEntry, List.find?_eq_none]

theorem mem_of_recordVote {l a : Int} (found : T.recordVote l = some a) : (l, some a) ∈ T.listeners := by
  obtain ⟨before, after, listed, -⟩ := List.lookup_eq_some_iff.mp (Option.join_eq_some_iff.mp found)
  simp [listed]

theorem lookup_of_mem {ps : List (Int × Option Int)} (keys : (ps.map (·.1)).Nodup) {p : Int × Option Int}
    (mem : p ∈ ps) : ps.lookup p.1 = some p.2 := by
  induction ps with
  | nil => cases mem
  | cons q qs ih =>
    obtain ⟨k, b⟩ := q
    rw [List.map_cons, List.nodup_cons] at keys
    rcases List.mem_cons.mp mem with rfl | later
    · exact List.lookup_cons_self
    · have other : p.1 ≠ k := fun same => keys.1 (List.mem_map.mpr ⟨p, later, same⟩)
      simp [List.lookup_cons, beq_false_of_ne other, ih keys.2 later]

/-! ### Where each vote stands -/

@[simp] theorem addVotes_ballotOf (x n : Int) (E : Ballot) (v : Voter) :
    (T.addVotes x n).ballotOf E v = T.ballotOf E v := rfl

theorem setRecordVote_ballotOf {l : Int} (known : l ∈ T.listeners.map (·.1)) (E : Ballot) (e : Int)
    (v : Voter) : (T.setRecordVote l e).ballotOf E v = if v = .anonymous l then some e else T.ballotOf E v := by
  cases v with
  | registered u => simp [ballotOf, rowEntry]
  | anonymous l' => simp [ballotOf, recordVote_setRecordVote known]

theorem moveRows_ballotOf {E : Ballot} {u a : Int} (found : T.rowEntry u E.id = some a) (e : Int) (v : Voter) :
    (T.moveRows u a e).ballotOf E v = if v = .registered u then some e else T.ballotOf E v := by
  cases v with
  | registered u' =>
    by_cases same : u' = u
    · subst same
      simp [ballotOf, rowEntry_moveRows, found]
    · simp [ballotOf, rowEntry_moveRows, same]
  | anonymous l => simp [ballotOf, recordVote]

theorem insertRow_ballotOf {E : Ballot} {u : Int} (fresh : T.rowEntry u E.id = none) (e : Int) (v : Voter) :
    (T.insertRow ⟨u, E.id, e⟩).ballotOf E v = if v = .registered u then some e else T.ballotOf E v := by
  cases v with
  | registered u' =>
    by_cases same : u' = u
    · subst same
      simp [ballotOf, rowEntry_insertRow, fresh]
    · simp [ballotOf, rowEntry_insertRow, same, Ne.symm same]
  | anonymous l => simp [ballotOf, recordVote]

/-- After a vote, the voter's vote stands on the entry voted for, and every other voter's where it
stood. -/
theorem ballotOf_write {E : Ballot} {v : Voter} (knows : T.Knows v) (e : Int) (v' : Voter) :
    (T.write E v e).ballotOf E v' = if v' = v then some e else T.ballotOf E v' := by
  cases v with
  | anonymous l =>
    have known (x n : Int) : l ∈ (T.addVotes x n).listeners.map (·.1) := knows
    unfold write
    cases voted : T.recordVote l with
    | some a =>
      by_cases same : a = e
      · subst same
        by_cases mine : v' = .anonymous l
        · subst mine
          simp [ballotOf, voted]
        · simp [voted, mine]
      · simp [voted, same, setRecordVote_ballotOf (known a (-1))]
    | none => simp [voted, setRecordVote_ballotOf (T := T) knows]

  | registered u =>
    unfold write
    cases found : T.rowEntry u E.id with
    | some a =>
      by_cases same : a = e
      · subst same
        by_cases mine : v' = .registered u
        · subst mine
          simp [ballotOf, found]
        · simp [found, mine]
      · have moved : (T.addVotes a (-1)).rowEntry u E.id = some a := found
        simp [found, same, moveRows_ballotOf moved]
    | none => cases asked : E.requestOf u <;> simp [found, asked, insertRow_ballotOf found]

theorem lastVote_cons (voter : Voter) (e : Int) (rest : List (Voter × Int)) (v : Voter) :
    lastVote ((voter, e) :: rest) v = (lastVote rest v).or (if voter = v then some e else none) := by
  unfold lastVote
  rw [List.reverse_cons, List.find?_append]
  cases rest.reverse.find? (·.1 == v) <;> by_cases mine : voter = v <;> simp [mine]

/-- After votes made in order, each voter's vote stands on the entry of their last vote, or where
it stood when they did not vote. -/
theorem ballotOf_after {E : Ballot} {votes : List (Voter × Int)} (admits : Admits E T votes) (v : Voter) :
    (T.after E votes).ballotOf E v = (lastVote votes v).or (T.ballotOf E v) := by
  induction votes generalizing T with
  | nil => simp [after, lastVote]
  | cons vote rest ih =>
    obtain ⟨voter, e⟩ := vote
    obtain ⟨knows, -, later⟩ := admits
    rw [after, ih later, ballotOf_write knows, lastVote_cons]
    by_cases mine : v = voter
    · subst mine
      cases lastVote rest v <;> simp
    · simp [mine, Ne.symm mine]

end Tables

/-- The facts about the tables votes rely on: the rows on the election's entries are the
election's own, one per listener; listener records are keyed by id and hold entry ids. -/
structure Consistent (E : Ballot) (T : Tables) : Prop where
  rows : ∀ r ∈ T.history, r.elec = E.id ↔ r.entry ∈ E.ids
  one_row : ((T.history.filter (·.elec == E.id)).map (·.user)).Nodup
  records : (T.listeners.map (·.1)).Nodup
  recorded : ∀ p ∈ T.listeners, ∀ a ∈ p.2, 0 < a

/-- The counts of an election's entries are what the votes say: each entry holds one vote per
history row and listener record on it, and one more while it holds its requester's vote. -/
structure Tally (E : Ballot) (T : Tables) : Prop extends Consistent E T where
  count : ∀ x ∈ E.entries, T.votes x.id = (T.holdsRequestVote E x).toNat + T.standing x.id

namespace Consistent

variable {E : Ballot} {T : Tables}

theorem addVotes (c : Consistent E T) (x n : Int) : Consistent E (T.addVotes x n) :=
  ⟨c.rows, c.one_row, c.records, c.recorded⟩

theorem setRecordVote (c : Consistent E T) (l : Int) {e : Int} (pos : 0 < e) :
    Consistent E (T.setRecordVote l e) := by
  have keys : (T.setRecordVote l e).listeners.map (·.1) = T.listeners.map (·.1) := by
    simp only [Tables.setRecordVote, List.map_map]
    exact List.map_congr_left fun p _ => by by_cases here : p.1 = l <;> simp [here]
  refine ⟨c.rows, c.one_row, keys ▸ c.records, fun p mem a held => ?_⟩
  obtain ⟨q, hq, rfl⟩ := List.mem_map.mp mem
  by_cases here : q.1 = l
  · simp only [here, if_true, Option.mem_def, Option.some.injEq] at held
    exact held ▸ pos
  · simp only [here, if_false] at held
    exact c.recorded q hq a held

/-- A listener's row in the election is on one of its entries. -/
theorem rowEntry_mem (c : Consistent E T) {u a : Int} (found : T.rowEntry u E.id = some a) : a ∈ E.ids := by
  obtain ⟨r, mem, -, elec, rfl⟩ := Tables.rowEntry_eq_some found
  exact (c.rows r mem).mp elec

/-- A listener with a row in the election has exactly one row on that row's entry: every row on
an entry of the election is the election's, where the listener has one row. -/
theorem rows_on_one (c : Consistent E T) {u a : Int} (found : T.rowEntry u E.id = some a) :
    (T.history.countP fun r => r.user == u && r.entry == a) = 1 := by
  obtain ⟨r0, mem0, user0, -, entry0⟩ := Tables.rowEntry_eq_some found
  have onIds := c.rowEntry_mem found
  have atMost : (T.history.countP fun r => r.user == u && r.entry == a) ≤ 1 :=
    calc (T.history.countP fun r => r.user == u && r.entry == a)
        ≤ T.history.countP (fun r => r.user == u && r.elec == E.id) :=
          List.countP_mono_left fun r mem hit => by
            simp only [Bool.and_eq_true, beq_iff_eq] at hit ⊢
            exact ⟨hit.1, (c.rows r mem).mpr (hit.2 ▸ onIds)⟩
      _ = ((T.history.filter (·.elec == E.id)).map (·.user)).count u := by
          rw [List.count_eq_countP, List.countP_map, List.countP_filter]
          exact List.countP_congr fun r _ => by simp
      _ ≤ 1 := List.nodup_iff_count_le_one.mp c.one_row u
  have atLeast : 0 < (T.history.countP fun r => r.user == u && r.entry == a) :=
    List.countP_pos_iff.mpr ⟨r0, mem0, by simp [user0, entry0]⟩
  omega

theorem moveRows (c : Consistent E T) {u a e : Int} (left : a ∈ E.ids) (joined : e ∈ E.ids) :
    Consistent E (T.moveRows u a e) := by
  have users : ((T.moveRows u a e).history.filter (·.elec == E.id)).map (·.user) =
      (T.history.filter (·.elec == E.id)).map (·.user) := by
    simp only [Tables.moveRows, List.filter_map, List.map_map]
    have keep : ((fun r : HistoryRow => r.elec == E.id) ∘
        fun r => if r.user = u ∧ r.entry = a then { r with entry := e } else r) = (·.elec == E.id) := by
      funext r
      by_cases moved : r.user = u ∧ r.entry = a <;> simp [moved]
    rw [keep]
    exact List.map_congr_left fun r _ => by
      by_cases moved : r.user = u ∧ r.entry = a <;> simp [moved]
  refine ⟨fun r mem => ?_, users ▸ c.one_row, c.records, c.recorded⟩
  obtain ⟨q, hq, rfl⟩ := List.mem_map.mp mem
  by_cases moved : q.user = u ∧ q.entry = a
  · -- the moved row was on the election's entry `a`, so it is the election's
    have own : q.elec = E.id := (c.rows q hq).mpr (moved.2 ▸ left)
    simp [moved, own, joined]
  · simpa [moved] using c.rows q hq

theorem insertRow (c : Consistent E T) {u e : Int} (fresh : T.rowEntry u E.id = none) (joined : e ∈ E.ids) :
    Consistent E (T.insertRow ⟨u, E.id, e⟩) := by
  have absent : u ∉ (T.history.filter (·.elec == E.id)).map (·.user) := by
    simp only [List.mem_map, List.mem_filter, beq_iff_eq, not_exists, not_and]
    exact fun r ⟨mem, elec⟩ user => Tables.rowEntry_eq_none.mp fresh r mem ⟨user, elec⟩
  refine ⟨fun r mem => ?_, ?_, c.records, c.recorded⟩
  · rcases List.mem_append.mp mem with old | new
    · exact c.rows r old
    · obtain rfl := List.mem_singleton.mp new
      simp [joined]
  · have single : ([⟨u, E.id, e⟩] : List HistoryRow).filter (·.elec == E.id) = [⟨u, E.id, e⟩] := by simp
    rw [Tables.insertRow_history, List.filter_append, single, List.map_append, List.nodup_append]
    refine ⟨c.one_row, List.nodup_singleton _, fun a mem b new same => absent ?_⟩
    simp only [List.map_cons, List.map_nil, List.mem_singleton] at new
    exact new ▸ same ▸ mem

theorem rowEntry_of_mem (c : Consistent E T) {r : HistoryRow} (mem : r ∈ T.history) (own : r.elec = E.id) :
    T.rowEntry r.user E.id = some r.entry := by
  cases found : T.rowEntry r.user E.id with
  | none => exact absurd ⟨rfl, own⟩ (Tables.rowEntry_eq_none.mp found r mem)
  | some a =>
    obtain ⟨r', mem', user, elec, rfl⟩ := Tables.rowEntry_eq_some found
    -- the election has one row per listener
    have same : r' = r :=
      List.inj_on_of_nodup_map c.one_row (by simp [mem', elec]) (by simp [mem, own]) user
    rw [same]

theorem recordVote_of_mem (c : Consistent E T) {p : Int × Option Int} (mem : p ∈ T.listeners) :
    T.recordVote p.1 = p.2 := by
  simp [Tables.recordVote, Tables.lookup_of_mem c.records mem]

/-- The votes standing on an entry of the election are its voters whose vote stands on it. -/
theorem standing_eq (c : Consistent E T) {x : Int} (listed : x ∈ E.ids) :
    T.standing x = (T.voters E).countP (T.ballotOf E · == some x) := by
  unfold Tables.standing Tables.voters
  rw [List.countP_append, List.countP_map, List.countP_map, List.countP_filter, List.countP_filter]
  congr 1
  · refine List.countP_congr fun r mem => ?_
    by_cases own : r.elec = E.id
    · simp [Tables.ballotOf, c.rowEntry_of_mem mem own, own]
    · -- a row of another election is on none of this election's entries
      have off : r.entry ≠ x := fun on => own ((c.rows r mem).mpr (on ▸ listed))
      simp [off, own]
  · refine List.countP_congr fun p mem => ?_
    have recorded := c.recordVote_of_mem mem
    obtain ⟨l, vote⟩ := p
    cases vote with
    | none => simp [Tables.ballotOf, recorded]
    | some a =>
      by_cases on : a = x
      · subst on
        simp [Tables.ballotOf, recorded, listed]
      · simp [Tables.ballotOf, recorded, on]

/-- No voter is listed twice: one row per registered listener, one record per listener id. -/
theorem voters_nodup (c : Consistent E T) : (T.voters E).Nodup := by
  unfold Tables.voters
  rw [List.nodup_append]
  refine ⟨?_, ?_, ?_⟩
  · have registered : Function.Injective Voter.registered := fun _ _ same => by cases same; rfl
    simpa [List.map_map, Function.comp_def] using c.one_row.map registered
  · have anonymous : Function.Injective Voter.anonymous := fun _ _ same => by cases same; rfl
    have keys := c.records.sublist
      ((List.filter_sublist (p := fun p : Int × Option Int => p.2.any (· ∈ E.ids))).map Prod.fst)
    simpa [List.map_map, Function.comp_def] using keys.map anonymous
  · rintro _ registered _ anonymous rfl
    obtain ⟨r, -, rfl⟩ := List.mem_map.mp registered
    obtain ⟨p, -, same⟩ := List.mem_map.mp anonymous
    cases same

end Consistent

theorem sum_toNat_eq_countP {α : Type} (p : α → Bool) (l : List α) :
    (l.map fun a => (p a).toNat).sum = l.countP p := by
  induction l with
  | nil => rfl
  | cons a l ih => cases h : p a <;> simp [h, ih, Nat.add_comm]

/-- Counting key by key the elements that match a key counts the elements that match one of the
keys, when no element matches two. -/
theorem sum_countP_keys {α : Type} {ks : List Int} (nodup : ks.Nodup) (l : List α) (p : α → Int → Bool)
    (unique : ∀ a k k', p a k → p a k' → k = k') :
    (ks.map fun k => l.countP (p · k)).sum = l.countP fun a => ks.any (p a) := by
  induction ks with
  | nil => simp
  | cons k ks ih =>
    rw [List.nodup_cons] at nodup
    rw [List.map_cons, List.sum_cons, ih nodup.2]
    clear ih
    induction l with
    | nil => rfl
    | cons a l ihl =>
      simp only [List.countP_cons, List.any_cons] at ihl ⊢
      by_cases hit : p a k
      · -- an element on `k` is on no later key
        have none : ks.any (p a) = false := by
          rw [List.any_eq_false]
          exact fun k' mem hit' => nodup.1 (unique a k k' hit hit' ▸ mem)
        simp [hit, none]
        omega
      · simp [hit]
        omega

namespace Consistent

variable {E : Ballot} {T : Tables}

/-- The votes standing on the election's entries are one per voter. -/
theorem sum_standing (c : Consistent E T) (wf : E.WellFormed) :
    (E.ids.map T.standing).sum = (T.voters E).length := by
  have rows := sum_countP_keys wf.ids_nodup T.history (fun r k => r.entry == k) (by simp)
  have records := sum_countP_keys wf.ids_nodup T.listeners (fun p k => p.2 == some k) fun p k k' hit hit' => by
    simp only [beq_iff_eq] at hit hit'
    simpa [hit] using hit'
  unfold Tables.standing Tables.voters
  rw [List.sum_map_add, rows, records, List.length_append, List.length_map, List.length_map,
    ← List.countP_eq_length_filter, ← List.countP_eq_length_filter]
  congr 1
  · exact List.countP_congr fun r mem => by simpa using (c.rows r mem).symm
  · refine List.countP_congr fun p _ => ?_
    cases p.2 <;> simp

end Consistent

namespace Tally

variable {E : Ballot} {T : Tables}

theorem pos_of_mem_ids (wf : E.WellFormed) {e : Int} (joined : e ∈ E.ids) : 0 < e := by
  obtain ⟨x, mem, rfl⟩ := List.mem_map.mp joined
  exact wf.pos x mem

/-- An anonymous vote keeps the counts what the votes say. -/
theorem write_anonymous (tally : Tally E T) (wf : E.WellFormed) {l e : Int}
    (known : l ∈ T.listeners.map (·.1)) (joined : e ∈ E.ids) : Tally E (T.write E (.anonymous l) e) := by
  have pos := pos_of_mem_ids wf joined
  cases voted : T.recordVote l with
  | some a =>
    by_cases same : a = e
    · simpa [Tables.write, voted, same] using tally
    · -- the vote moves from `a` to `e`
      simp only [Tables.write, voted, if_neg same]
      refine ⟨((tally.addVotes a (-1)).setRecordVote l pos).addVotes e 1, fun x mem => ?_⟩
      have counted := tally.count x mem
      have moved := Tables.standing_setRecordVote (T := T.addVotes a (-1)) tally.records known e x.id
      rw [show (T.addVotes a (-1)).recordVote l = some a from voted, Tables.standing_addVotes] at moved
      simp only [Tables.addVotes_votes, Tables.setRecordVote_votes, Tables.standing_addVotes,
        Tables.addVotes_holdsRequestVote, Tables.setRecordVote_holdsRequestVote] at counted ⊢
      by_cases fromX : a = x.id <;> by_cases toX : e = x.id <;>
        simp only [fromX, toX, if_true, if_false, Option.some.injEq] at moved ⊢ <;> omega
  | none =>
    simp only [Tables.write, voted]
    refine ⟨(tally.setRecordVote l pos).addVotes e 1, fun x mem => ?_⟩
    have counted := tally.count x mem
    have moved := Tables.standing_setRecordVote tally.records known e x.id
    simp only [voted, reduceCtorEq, if_false] at moved
    simp only [Tables.addVotes_votes, Tables.setRecordVote_votes, Tables.standing_addVotes,
      Tables.addVotes_holdsRequestVote, Tables.setRecordVote_holdsRequestVote] at counted ⊢
    by_cases toX : e = x.id <;> simp only [toX, if_true, if_false] at moved ⊢ <;> omega

/-- A registered listener's vote keeps the counts what the votes say. -/
theorem write_registered (tally : Tally E T) (wf : E.WellFormed) {u e : Int} (joined : e ∈ E.ids) :
    Tally E (T.write E (.registered u) e) := by
  cases found : T.rowEntry u E.id with
  | some a =>
    by_cases same : a = e
    · simpa [Tables.write, found, same] using tally
    · -- the listener's row moves from `a` to `e`
      simp only [Tables.write, found, if_neg same]
      refine ⟨((tally.addVotes a (-1)).moveRows (tally.rowEntry_mem found) joined).addVotes e 1,
        fun x mem => ?_⟩
      have counted := tally.count x mem
      have moved := Tables.standing_moveRows (T := T.addVotes a (-1)) (tally.rows_on_one found) e x.id
      rw [Tables.standing_addVotes] at moved
      simp only [Tables.addVotes_votes, Tables.moveRows_votes, Tables.standing_addVotes,
        Tables.addVotes_holdsRequestVote, Tables.moveRows_holdsRequestVote] at counted ⊢
      by_cases fromX : a = x.id <;> by_cases toX : e = x.id <;>
        simp only [fromX, toX, if_true, if_false] at moved ⊢ <;> omega
  | none =>
    -- a first vote: a new row, and the vote of the listener's own request taken back
    simp only [Tables.write, found]
    have added := tally.insertRow found joined
    -- the counts once the row is added: the entry asked for loses its requester's vote, and `e`
    -- stands one vote more
    have shifted (x : Entry) (mem : x ∈ E.entries) :
        T.votes x.id - (if E.requestOf u = some x.id then 1 else 0) + (if e = x.id then 1 else 0) =
          ((T.insertRow ⟨u, E.id, e⟩).holdsRequestVote E x).toNat +
            (T.insertRow ⟨u, E.id, e⟩).standing x.id := by
      have before := tally.count x mem
      rw [Tables.insertRow_holdsRequestVote, Tables.standing_insertRow]
      by_cases asker : x.requester = some u
      · have holds : T.holdsRequestVote E x = true := by simp [Tables.holdsRequestVote, asker, found]
        rw [if_pos ((E.requestOf_eq_some_iff wf mem u).mpr asker), holds, asker]
        rw [holds] at before
        by_cases toX : e = x.id <;> simp [toX] at before ⊢ <;> omega
      · rw [if_neg fun h => asker ((E.requestOf_eq_some_iff wf mem u).mp h)]
        have keep : (x.requester != some u) = true := by simpa using asker
        rw [keep, Bool.and_true]
        by_cases toX : e = x.id <;> simp [toX] at before ⊢ <;> omega
    cases asked : E.requestOf u with
    | none =>
      refine ⟨added.addVotes e 1, fun x mem => ?_⟩
      have := shifted x mem
      simp only [asked, reduceCtorEq, if_false, Int.sub_zero, Option.elim, Tables.addVotes_votes,
        Tables.insertRow_votes, Tables.addVotes_holdsRequestVote, Tables.standing_addVotes] at this ⊢
      by_cases toX : e = x.id <;> simp only [toX, if_true, if_false] at this ⊢ <;> omega
    | some r =>
      refine ⟨(added.addVotes r (-1)).addVotes e 1, fun x mem => ?_⟩
      have := shifted x mem
      simp only [asked, Option.some.injEq, Option.elim, Tables.addVotes_votes,
        Tables.insertRow_votes, Tables.addVotes_holdsRequestVote, Tables.standing_addVotes] at this ⊢
      by_cases toX : e = x.id <;> by_cases fromX : r = x.id <;>
        simp only [toX, fromX, if_true, if_false] at this ⊢ <;> omega

/-- A vote for an entry of the election, by a voter the tables know, keeps the counts what the
votes say. -/
theorem write (tally : Tally E T) (wf : E.WellFormed) {v : Voter} (knows : T.Knows v) {e : Int}
    (joined : e ∈ E.ids) : Tally E (T.write E v e) := by
  cases v with
  | registered u => exact tally.write_registered wf joined
  | anonymous l => exact tally.write_anonymous wf knows joined

/-- Votes for entries of the election, each by a voter the tables know when it is made, keep the
counts what the votes say. -/
theorem after (tally : Tally E T) (wf : E.WellFormed) {votes : List (Voter × Int)}
    (admits : Admits E T votes) : Tally E (T.after E votes) := by
  induction votes generalizing T with
  | nil => exact tally
  | cons vote rest ih =>
    obtain ⟨knows, joined, later⟩ := admits
    exact ih (tally.write wf knows joined) later

/-- The entries' counts add up to the request entries still holding their requester's vote and
one vote per voter. -/
theorem sum_votes (tally : Tally E T) (wf : E.WellFormed) :
    (E.entries.map fun x => T.votes x.id).sum =
      ((E.entries.countP (T.holdsRequestVote E) + (T.voters E).length : Nat) : Int) := by
  have each : (E.entries.map fun x => T.votes x.id) =
      (E.entries.map fun x => (T.holdsRequestVote E x).toNat + T.standing x.id).map Nat.cast := by
    rw [List.map_map]
    exact List.map_congr_left fun x mem => by simp [tally.count x mem]
  rw [each, ← Nat.cast_list_sum, List.sum_map_add, sum_toNat_eq_countP, ← tally.sum_standing wf,
    Ballot.ids, List.map_map]
  rfl

end Tally

/-- What the counts of an election's entries say of its voters: each entry holds its requester's
vote while the requester has not voted, and one vote per voter whose vote stands on it; the counts
add up to the request votes held and one per voter; and no voter is counted twice. -/
structure CountsVoters (E : Ballot) (T : Tables) : Prop where
  count : ∀ x ∈ E.entries,
    T.votes x.id = (T.holdsRequestVote E x).toNat + (T.voters E).countP (T.ballotOf E · == some x.id)
  total : (E.entries.map fun x => T.votes x.id).sum =
    ((E.entries.countP (T.holdsRequestVote E) + (T.voters E).length : Nat) : Int)
  nodup : (T.voters E).Nodup

theorem Tally.countsVoters {E : Ballot} {T : Tables} (tally : Tally E T) (wf : E.WellFormed) :
    CountsVoters E T where
  count x mem := by rw [tally.count x mem, tally.standing_eq (List.mem_map_of_mem mem)]
  total := tally.sum_votes wf
  nodup := tally.voters_nodup

end Airwaves.Tallies
