import Airwaves.Proofs.ListenerIndex
import Airwaves.Proofs.BacklogTurns
import Airwaves.Api.Rating
import Mathlib.Data.Nat.Find
/-!
# The rating window of a station

A song keeps its rating entry while its latest play is among the last six and no older play of
it has left the window since (`Kept`).
-/

namespace Airwaves.Cache

open Airwaves.Live

/-! ### The update as a function on the cache -/

/-- The listeners a fetched column admits, each mapped to `true`. -/
def admitted (listeners : Value) : Dict :=
  ((listeners.items?).getD []).foldl (fun acc u => Dict.put acc u (.bool true)) []

/-- The mapping a cached value reads as when the update starts: nothing unless it is one. -/
def aclOf : Value → Dict
  | .dict d => d
  | _ => []

/-- The index a cached value reads as when the update starts: nothing unless it is a list. -/
def indexOf : Value → List Value
  | .list xs => xs
  | _ => []

@[simp] theorem aclOf_dict (d : Dict) : aclOf (.dict d) = d := rfl

@[simp] theorem indexOf_list (xs : List Value) : indexOf (.list xs) = xs := rfl

/-- One play recorded on the mapping and the index: the songs beyond the last five leave the
index and lose their entries, and the song joins it with the listeners fetched now. -/
def recordPlay (users : Dict) (songs : List Value) (song listeners : Value) : Dict × List Value :=
  (Dict.put ((songs.take (songs.length - 5)).foldl Dict.without users) song
      (.dict (admitted listeners)),
    songs.drop (songs.length - 5) ++ [song])

/-- The cache key of a station's mapping from songs to admitted listeners. -/
def aclKey (sid : Value) : String := stationKey sid "user_rating_acl"

/-- The cache key of a station's index of recently played songs. -/
def indexKey (sid : Value) : String := stationKey sid "user_rating_acl_song_index"

/-- The world after a station records a play of a song. -/
def afterPlay (w : World) (sid song : Value) : World :=
  let (listeners, db) := w.db.call .list (some [sid]) ""
  let (users, songs) := recordPlay (aclOf (w.cache.peek (aclKey sid)))
    (indexOf (w.cache.peek (indexKey sid))) song listeners
  let c := w.cache.store (aclKey sid) (.dict users) true
  { w with db := db, cache := c.store (indexKey sid) (.list songs) true }

theorem query_run (w : World) (k : QueryKind) (params : List Value) :
    (query k params).run w =
      .ok (w.db.call k (some params) "").1 { w with db := (w.db.call k (some params) "").2 } := rfl

theorem updateRatingAcl_run {w : World} (sid song : Value) (conn : w.cache.connected = true) :
    (updateRatingAcl sid song).run w = .ok () (afterPlay w sid song) := by
  simp only [updateRatingAcl, readStation, EStateM.run_bind, read_run _ conn, fetchList, query_run,
    putStation, put_run, conn, store_connected]
  rfl

theorem put_connected {w w' : World} {key : String} {v : Value} {keepLocal : Bool} {u : Unit}
    (run : (put key v keepLocal).run w = .ok u w') : w.cache.connected = true := by
  by_contra off
  simp only [Bool.not_eq_true] at off
  simp only [put, state, change, requireClient, EStateM.run_bind] at run
  split at run
  · split at run <;> simp_all [EStateM.run_bind, EStateM.run_get]
  · cases run

/-- Recording a play needs a cache client: the entries are written through it. -/
theorem updateRatingAcl_connected {w w' : World} {sid song : Value} {u : Unit}
    (run : (updateRatingAcl sid song).run w = .ok u w') : w.cache.connected = true := by
  obtain ⟨_, w1, readAcl, run⟩ := run_bind_eq_ok run
  obtain ⟨_, w2, readIndex, run⟩ := run_bind_eq_ok run
  obtain ⟨_, w3, fetched, run⟩ := run_bind_eq_ok run
  obtain ⟨_, _, written, _⟩ := run_bind_eq_ok run
  have same1 : w1 = w := read_readOnly _ _ _ _ readAcl
  have same2 : w2 = w1 := read_readOnly _ _ _ _ readIndex
  rw [fetchList, query_run] at fetched
  obtain ⟨-, rfl⟩ := EStateM.Result.ok.inj fetched
  rw [putStation] at written
  have conn := put_connected written
  rw [← same1, ← same2]
  exact conn

/-! ### Reading entries back -/

theorem lookup?_replace_str_other (d : Dict) {a b : String} (ne : a ≠ b) (v : Value) :
    Dict.lookup? (d.map fun e => if Value.equals e.1 (.str a) then (e.1, v) else e) (.str b) =
      Dict.lookup? d (.str b) := by
  induction d with
  | nil => rfl
  | cons e rest ih =>
    by_cases ha : Value.equals e.1 (.str a)
    · -- the entry of `a` changes its value and keeps its key, so a lookup of `b` passes it by
      have key_a : e.1 = .str a := Value.equals_str_right.mp ha
      simp [Dict.lookup?_cons, key_a, ne, ih, Value.equals]
    · simp [Dict.lookup?_cons, ha, ih]

theorem lookup?_put_str_other (d : Dict) {a b : String} (ne : a ≠ b) (v : Value) :
    Dict.lookup? (Dict.put d (.str a) v) (.str b) = Dict.lookup? d (.str b) := by
  have differ : Value.equals (.str a) (.str b) = false := by simp [Value.equals, ne]
  unfold Dict.put
  split
  · exact lookup?_replace_str_other d ne v
  · simp [Dict.lookup?_append, Dict.lookup?_cons, differ, Dict.lookup?_nil]

theorem peek_store_self (c : Cache) (key : String) (v : Value) : (c.store key v true).peek key = v := by
  simp [Cache.store, Cache.peek, Dict.putField, Dict.field?,
    Dict.lookup?_put_self _ _ (show Value.equals (.str key) (.str key) = true by simp [Value.equals])]

theorem peek_store_other (c : Cache) {key other : String} (ne : key ≠ other) (v : Value)
    (keepLocal : Bool) : (c.store key v keepLocal).peek other = c.peek other := by
  by_cases keeps : (keepLocal || Dict.hasKey c.localEntries (.str key)) = true
  · simp [Cache.store, Cache.peek, keeps, Dict.putField, Dict.field?, lookup?_put_str_other _ ne]
  · simp only [Bool.not_eq_true] at keeps
    simp [Cache.store, Cache.peek, keeps, Dict.putField, Dict.field?, lookup?_put_str_other _ ne]

theorem aclKey_ne_indexKey (sid : Value) : aclKey sid ≠ indexKey sid := by
  intro same
  have lengths := congrArg String.length same
  simp only [aclKey, indexKey, stationKey, String.length_append, Nat.add_left_cancel_iff] at lengths
  exact absurd lengths (by decide)

theorem afterPlay_acl (w : World) (sid song : Value) :
    (afterPlay w sid song).cache.peek (aclKey sid) =
      .dict (recordPlay (aclOf (w.cache.peek (aclKey sid))) (indexOf (w.cache.peek (indexKey sid)))
        song (w.db.call .list (some [sid]) "").1).1 := by
  simp only [afterPlay]
  rw [peek_store_other _ (aclKey_ne_indexKey sid).symm, peek_store_self]

theorem afterPlay_index (w : World) (sid song : Value) :
    (afterPlay w sid song).cache.peek (indexKey sid) =
      .list (recordPlay (aclOf (w.cache.peek (aclKey sid))) (indexOf (w.cache.peek (indexKey sid)))
        song (w.db.call .list (some [sid]) "").1).2 := by
  simp only [afterPlay]
  rw [peek_store_self]

theorem lookup?_without_int {d : Dict} (hk : IntKeyed d) (k s : Int) :
    Dict.lookup? (Dict.without d (.int k)) (.int s) =
      if k = s then none else Dict.lookup? d (.int s) := by
  induction d with
  | nil => simp [Dict.without, Dict.lookup?_nil]
  | cons e rest ih =>
    have rest_keyed : IntKeyed rest := fun e' mem => hk e' (by simp [mem])
    obtain ⟨n, hn⟩ := hk e (by simp)
    obtain ⟨key, x⟩ := e
    subst hn
    have ih' := ih rest_keyed
    simp only [Dict.without] at ih' ⊢
    -- the head entry is dropped when its key is `k`, and found when its key is `s`
    by_cases nk : n = k
    · subst nk
      by_cases ns : n = s
      · simp [ns] at ih' ⊢
        exact ih'
      · simp [ns, Dict.lookup?_cons, ih']
    · by_cases ns : n = s
      · subst ns
        simp [nk, Dict.lookup?_cons, Ne.symm nk]
      · simp [nk, ns, Dict.lookup?_cons, ih']

theorem intKeyed_without {d : Dict} (hk : IntKeyed d) (k : Value) : IntKeyed (Dict.without d k) :=
  fun e mem => hk e (List.mem_of_mem_filter mem)

/-! ### Histories of plays -/

/-- A play recorded in the window: the song and the listener column the database answered. -/
structure Play where
  song : Int
  listeners : Value

/-- The song of the play at a position of a history, oldest first. -/
def songAt? (h : List Play) (i : Nat) : Option Int := h[i]?.map Play.song

/-- The songs of the last six plays, oldest first: what the index holds. -/
def recentSongs (h : List Play) : List Value := (h.drop (h.length - 6)).map fun p => .int p.song

/-- The listener column fetched at the latest play of a song. -/
def latestListeners (h : List Play) (s : Int) : Option Value :=
  (h.reverse.find? fun p => p.song = s).map Play.listeners

/-- A song keeps its entry after the plays `h`: at its latest play `j` the entry was made, and
every other play `i` of the song either left the window no later than the step that made
play `j` (`i + 6 ≤ j`) or has not left it yet (`h.length ≤ i + 6`). -/
def Kept (h : List Play) (s : Int) : Prop :=
  ∃ j, songAt? h j = some s ∧
    ∀ i, songAt? h i = some s → i ≤ j ∧ (i + 6 ≤ j ∨ h.length ≤ i + 6)

theorem lt_of_songAt? {h : List Play} {i : Nat} {s : Int} (at_i : songAt? h i = some s) :
    i < h.length := by
  unfold songAt? at at_i
  obtain ⟨p, found, _⟩ := Option.map_eq_some_iff.mp at_i
  exact (List.getElem?_eq_some_iff.mp found).1

theorem songAt?_snoc (h : List Play) (p : Play) (i : Nat) :
    songAt? (h ++ [p]) i =
      if i < h.length then songAt? h i else if i = h.length then some p.song else none := by
  unfold songAt?
  rw [List.getElem?_append]
  split
  · rfl
  · rename_i beyond
    by_cases at_end : i = h.length
    · simp [at_end]
    · have past : i - h.length ≠ 0 := by omega
      simp [at_end, past]

theorem songAt?_snoc_of_lt {h : List Play} (p : Play) {i : Nat} (hi : i < h.length) :
    songAt? (h ++ [p]) i = songAt? h i := by
  rw [songAt?_snoc, if_pos hi]

/-- A play of `s` in the longer history is one in `h` or the new play itself. -/
theorem songAt?_snoc_cases {h : List Play} {p : Play} {i : Nat} {s : Int}
    (at_i : songAt? (h ++ [p]) i = some s) :
    (i < h.length ∧ songAt? h i = some s) ∨ (i = h.length ∧ p.song = s) := by
  rw [songAt?_snoc] at at_i
  split at at_i
  · exact .inl ⟨‹_›, at_i⟩
  · split at at_i
    · exact .inr ⟨‹_›, Option.some.inj at_i⟩
    · cases at_i

theorem latestListeners_snoc (h : List Play) (p : Play) (s : Int) :
    latestListeners (h ++ [p]) s = if p.song = s then some p.listeners else latestListeners h s := by
  unfold latestListeners
  by_cases same : p.song = s <;> simp [same]

/-- The song just played keeps its entry: every earlier play of it has either left the window
or is still in it. -/
theorem kept_snoc_self (h : List Play) (p : Play) : Kept (h ++ [p]) p.song := by
  refine ⟨h.length, by simp [songAt?_snoc], fun i at_i => ?_⟩
  have bound := lt_of_songAt? at_i
  simp only [List.length_append, List.length_singleton] at bound ⊢
  omega

/-- Another song keeps its entry after one more play exactly when it kept it before and the
play now leaving a full window is not one of its plays. -/
theorem kept_snoc_other {h : List Play} {p : Play} {s : Int} (other : s ≠ p.song) :
    Kept (h ++ [p]) s ↔ Kept h s ∧ ¬(6 ≤ h.length ∧ songAt? h (h.length - 6) = some s) := by
  constructor
  · rintro ⟨j, at_j, latest⟩
    have old_j : j < h.length ∧ songAt? h j = some s := by
      rcases songAt?_snoc_cases at_j with old | ⟨_, rfl⟩
      · exact old
      · exact absurd rfl other
    refine ⟨⟨j, old_j.2, fun i at_i => ?_⟩, ?_⟩
    · have before := latest i (by rw [songAt?_snoc_of_lt p (lt_of_songAt? at_i)]; exact at_i)
      simp only [List.length_append, List.length_singleton] at before
      omega
    · rintro ⟨full, leaving⟩
      have before := latest (h.length - 6)
        (by rw [songAt?_snoc_of_lt p (by omega)]; exact leaving)
      simp only [List.length_append, List.length_singleton] at before
      omega
  · rintro ⟨⟨j, at_j, latest⟩, staying⟩
    have j_old := lt_of_songAt? at_j
    refine ⟨j, by rw [songAt?_snoc_of_lt p j_old]; exact at_j, fun i at_i => ?_⟩
    rcases songAt?_snoc_cases at_i with ⟨i_old, old_i⟩ | ⟨_, rfl⟩
    · have before := latest i old_i
      simp only [List.length_append, List.length_singleton]
      -- the play that left with this step is not one of `s`
      have not_leaving : ¬(6 ≤ h.length ∧ i = h.length - 6) := fun ⟨full, leaving⟩ =>
        staying ⟨full, leaving ▸ old_i⟩
      omega
    · exact absurd rfl other

/-- No song is played twice within six plays. -/
def Spaced (h : List Play) : Prop :=
  ∀ i j s, songAt? h i = some s → songAt? h j = some s → i < j → i + 6 ≤ j

/-- When no song comes back within six plays, the kept songs are the songs of the last six
plays. -/
theorem kept_iff_recent_of_spaced {h : List Play} (spaced : Spaced h) (s : Int) :
    Kept h s ↔ Value.int s ∈ recentSongs h := by
  constructor
  · rintro ⟨j, at_j, latest⟩
    have recent := (latest j at_j).2
    have bound := lt_of_songAt? at_j
    obtain ⟨p, found, rfl⟩ := Option.map_eq_some_iff.mp at_j
    simp only [recentSongs, List.mem_map, Value.int.injEq]
    refine ⟨p, ?_, rfl⟩
    rw [List.mem_iff_getElem?]
    exact ⟨j - (h.length - 6), by rw [List.getElem?_drop]; convert found using 2; omega⟩
  · intro recent
    simp only [recentSongs, List.mem_map, Value.int.injEq] at recent
    obtain ⟨p, member, rfl⟩ := recent
    obtain ⟨k, found⟩ := List.mem_iff_getElem?.mp member
    rw [List.getElem?_drop] at found
    have at_k : songAt? h (h.length - 6 + k) = some p.song := by simp [songAt?, found]
    have k_in := lt_of_songAt? at_k
    -- the latest play of the song is the greatest position that plays it
    let j := Nat.findGreatest (fun i => songAt? h i = some p.song) h.length
    have k_le : h.length - 6 + k ≤ j := Nat.le_findGreatest k_in.le at_k
    have at_j : songAt? h j = some p.song :=
      Nat.findGreatest_spec (P := fun i => songAt? h i = some p.song) k_in.le at_k
    refine ⟨j, at_j, fun i at_i => ?_⟩
    have i_le : i ≤ j := Nat.le_findGreatest (lt_of_songAt? at_i).le at_i
    refine ⟨i_le, ?_⟩
    rcases Nat.lt_or_eq_of_le i_le with earlier | rfl
    · exact .inl (spaced i j p.song at_i at_j earlier)
    · exact .inr (by omega)

/-! ### The index and the leaving song -/

theorem length_recentSongs (h : List Play) :
    (recentSongs h).length = h.length - (h.length - 6) := by
  simp [recentSongs]

/-- The index after one more play: the oldest song leaves a full window and the new one joins. -/
theorem recentSongs_snoc (h : List Play) (p : Play) :
    (recentSongs h).drop ((recentSongs h).length - 5) ++ [.int p.song] = recentSongs (h ++ [p]) := by
  have shift : h.length - 6 + (h.length - (h.length - 6) - 5) = h.length - 5 := by omega
  have kept : (recentSongs h).drop ((recentSongs h).length - 5) =
      (h.drop (h.length - 5)).map fun p => Value.int p.song := by
    rw [length_recentSongs, recentSongs, ← List.map_drop, List.drop_drop, shift]
  have joined : (h ++ [p]).drop ((h ++ [p]).length - 6) = h.drop (h.length - 5) ++ [p] := by
    rw [List.length_append, List.length_singleton, List.drop_append_of_le_length (by omega)]
    congr 2
  rw [kept, recentSongs, joined, List.map_append, List.map_singleton]

/-- The songs the index lets go when one more play is recorded: the oldest one of a full
window. -/
theorem leaving_songs (h : List Play) :
    (recentSongs h).take ((recentSongs h).length - 5) =
      if full : 6 ≤ h.length then [.int h[h.length - 6].song] else [] := by
  rw [length_recentSongs]
  split
  · rename_i full
    have one : h.length - (h.length - 6) - 5 = 1 := by omega
    rw [one, recentSongs, List.drop_eq_getElem_cons (by omega)]
    rfl
  · rename_i short
    have none_left : h.length - (h.length - 6) - 5 = 0 := by omega
    rw [none_left, List.take_zero]

/-- Letting the leaving songs go removes the entry of the song whose play leaves a full
window. -/
theorem lookup?_leaving {users : Dict} (hk : IntKeyed users) (h : List Play) (s : Int) :
    Dict.lookup? (((recentSongs h).take ((recentSongs h).length - 5)).foldl Dict.without users)
        (.int s) =
      if 6 ≤ h.length ∧ songAt? h (h.length - 6) = some s then none
      else Dict.lookup? users (.int s) := by
  rw [leaving_songs]
  split
  · rename_i full
    have at_leaving : songAt? h (h.length - 6) = some h[h.length - 6].song := by
      simp [songAt?, List.getElem?_eq_getElem (show h.length - 6 < h.length by omega)]
    simp only [List.foldl_cons, List.foldl_nil, lookup?_without_int hk, at_leaving, full, true_and,
      Option.some.injEq]
  · rename_i short
    simp [short]

theorem intKeyed_leaving {users : Dict} (hk : IntKeyed users) (h : List Play) :
    IntKeyed (((recentSongs h).take ((recentSongs h).length - 5)).foldl Dict.without users) := by
  rw [leaving_songs]
  split
  · exact intKeyed_without hk _
  · exact hk

/-! ### The window along a run -/

/-- What a station's two entries hold after the plays `h`, oldest first. -/
structure Window (sid : Value) (h : List Play) (c : Cache) : Prop where
  /-- The index holds the songs of the last six plays. -/
  index : indexOf (c.peek (indexKey sid)) = recentSongs h
  /-- Songs are whole numbers. -/
  keyed : IntKeyed (aclOf (c.peek (aclKey sid)))
  /-- A song has an entry exactly when it is kept. -/
  kept : ∀ s, (Dict.lookup? (aclOf (c.peek (aclKey sid))) (.int s)).isSome ↔ Kept h s
  /-- An entry admits the listeners fetched at the song's latest play. -/
  latest : ∀ s x, Dict.lookup? (aclOf (c.peek (aclKey sid))) (.int s) = some x →
    ∃ L, latestListeners h s = some L ∧ x = .dict (admitted L)
  /-- Once a play is recorded the mapping is stored as one. -/
  stored : h ≠ [] → c.peek (aclKey sid) = .dict (aclOf (c.peek (aclKey sid)))

/-- Entries that read as empty agree with a history of no plays. -/
theorem window_empty {sid : Value} {c : Cache} (noAcl : aclOf (c.peek (aclKey sid)) = [])
    (noIndex : indexOf (c.peek (indexKey sid)) = []) : Window sid [] c where
  index := noIndex
  keyed := by rw [noAcl]; exact fun _ mem => absurd mem List.not_mem_nil
  kept s := by
    simp only [noAcl, Dict.lookup?_nil, Option.isSome_none, Bool.false_eq_true, false_iff]
    rintro ⟨j, at_j, _⟩
    exact absurd (lt_of_songAt? at_j) (Nat.not_lt_zero j)
  latest s x found := by simp [noAcl, Dict.lookup?_nil] at found
  stored nonempty := absurd rfl nonempty

/-- One recorded play keeps the window in step with the plays. -/
theorem window_play {sid : Value} {h : List Play} {p : Play} {w w' : World}
    (before : Window sid h w.cache)
    (heard : (w.db.call .list (some [sid]) "").1 = p.listeners)
    (run : (updateRatingAcl sid (.int p.song)).run w = .ok () w') :
    Window sid (h ++ [p]) w'.cache := by
  rw [updateRatingAcl_run sid _ (updateRatingAcl_connected run)] at run
  obtain rfl := (EStateM.Result.ok.inj run).2
  have keyed : IntKeyed ((recentSongs h).take ((recentSongs h).length - 5) |>.foldl Dict.without
      (aclOf (w.cache.peek (aclKey sid)))) := intKeyed_leaving before.keyed h
  -- the entry of each song after the play: the new song's, or what was left of the old one
  have entry : ∀ s, Dict.lookup? (aclOf ((afterPlay w sid (.int p.song)).cache.peek (aclKey sid)))
      (.int s) =
      if p.song = s then some (.dict (admitted p.listeners))
      else if 6 ≤ h.length ∧ songAt? h (h.length - 6) = some s then none
      else Dict.lookup? (aclOf (w.cache.peek (aclKey sid))) (.int s) := by
    intro s
    rw [afterPlay_acl, aclOf_dict, recordPlay, heard, before.index, lookup?_put_int keyed,
      lookup?_leaving before.keyed]
  constructor
  · rw [afterPlay_index, indexOf_list, recordPlay, before.index, recentSongs_snoc]
  · rw [afterPlay_acl, aclOf_dict, recordPlay, before.index]
    exact intKeyed_put keyed _ _
  · intro s
    rw [entry s]
    by_cases same : p.song = s
    · subst same
      simp [kept_snoc_self]
    · rw [if_neg same, kept_snoc_other (Ne.symm same), ← before.kept s]
      split <;> simp_all
  · intro s x found
    rw [entry s] at found
    rw [latestListeners_snoc]
    by_cases same : p.song = s
    · simp only [if_pos same, Option.some.injEq] at found ⊢
      exact ⟨p.listeners, rfl, found.symm⟩
    · simp only [if_neg same] at found ⊢
      split at found
      · cases found
      · exact before.latest s x found
  · intro _
    rw [afterPlay_acl, aclOf_dict]

/-- The window depends on the two entries only. -/
theorem Window.congr {sid : Value} {h : List Play} {c c' : Cache} (window : Window sid h c)
    (sameAcl : c'.peek (aclKey sid) = c.peek (aclKey sid))
    (sameIndex : c'.peek (indexKey sid) = c.peek (indexKey sid)) : Window sid h c' := by
  obtain ⟨index, keyed, kept, latest, stored⟩ := window
  rw [← sameAcl, ← sameIndex] at *
  exact ⟨index, keyed, kept, latest, stored⟩

/-- A run of a station's plays, with the plays it records in order. A play records a song and
the listener column the database answered for it; any other step leaves the station's two
entries as they were. -/
inductive PlayRun (sid : Value) : World → List Play → World → Prop
  | stop (w : World) : PlayRun sid w [] w
  | play {w w1 w' : World} {p : Play} {ps : List Play}
      (heard : (w.db.call .list (some [sid]) "").1 = p.listeners)
      (run : (updateRatingAcl sid (.int p.song)).run w = .ok () w1)
      (rest : PlayRun sid w1 ps w') : PlayRun sid w (p :: ps) w'
  | other {w w1 w' : World} {ps : List Play}
      (keepsAcl : w1.cache.peek (aclKey sid) = w.cache.peek (aclKey sid))
      (keepsIndex : w1.cache.peek (indexKey sid) = w.cache.peek (indexKey sid))
      (rest : PlayRun sid w1 ps w') : PlayRun sid w ps w'

/-- Along every run, the entries follow the plays recorded so far. -/
theorem playRun_window {sid : Value} {w w' : World} {ps : List Play} (run : PlayRun sid w ps w') :
    ∀ {h : List Play}, Window sid h w.cache → Window sid (h ++ ps) w'.cache := by
  induction run with
  | stop w => intro h window; simpa using window
  | play heard step _ ih =>
    intro h window
    simpa using ih (window_play window heard step)
  | other keepsAcl keepsIndex _ ih =>
    intro h window
    exact ih (window.congr keepsAcl keepsIndex)

end Airwaves.Cache

namespace Airwaves.Api.Ratings

open Cache Airwaves.Live

/-! ### The rate check -/

/-- Whether a rating mapping admits a listener for a song: the song has an entry and the
entry holds the listener. -/
def admits (acl : Dict) (song uid : Int) : Bool :=
  match Dict.lookup? acl (.int song) with
  | some (.dict listeners) => Dict.hasKey listeners (.int uid)
  | _ => false

theorem deref_run_of {w : World} {h : Nat} {o : Obj} (found : w.store[h]? = some o) :
    (deref h).run w = .ok o w := by
  simp [deref, EStateM.run_bind, EStateM.run_get, found]

theorem userOf_run {w : World} {hv : Nat} {hd : Handler}
    (handler : w.store[hv]? = some (.handler hd)) : (userOf (.ref hv)).run w = .ok hd.user w := by
  simp [userOf, handlerOf, handlerAt, EStateM.run_bind, deref_run_of handler]

theorem stationOf_run {w : World} {hv : Nat} {hd : Handler}
    (handler : w.store[hv]? = some (.handler hd)) : (stationOf (.ref hv)).run w = .ok hd.sid w := by
  simp [stationOf, handlerOf, handlerAt, EStateM.run_bind, deref_run_of handler]

theorem listener_run {w : World} {hu : Nat} {u : User} (listener : w.store[hu]? = some (.user u)) :
    (Listeners.userOf (.ref hu)).run w = .ok u w := by
  simp [Listeners.userOf, userAt, EStateM.run_bind, deref_run_of listener]

theorem dataOf_run (w : World) {u : User} {key : String} {x : Value}
    (found : Dict.field? u.data key = some x) : (Listeners.dataOf u key).run w = .ok x w := by
  simp [Listeners.dataOf, found]

/-- A rate request on station `sid` through the handler `hv`, by the registered listener `uid`
who may not rate everything, for song `s` while another song plays. -/
structure LimitedRequest (w : World) (sid : Value) (hv : Nat) (uid s : Int) : Prop where
  caller : ∃ hd hu u x, w.store[hv]? = some (.handler hd) ∧ hd.user = .ref hu ∧ hd.sid = sid ∧
    w.store[hu]? = some (.user u) ∧ u.id = .int uid ∧ Dict.field? u.data "rate_anything" = some x ∧
    x.truthy = false
  playing : ∃ p c, (songPlaying (w.cache.peek (stationKey sid "sched_current"))).run w = .ok p w ∧
    (attributeOf p "id").run w = .ok c w ∧ Value.equals c (.int s) = false
  connected : w.cache.connected = true

/-- Once the station's mapping is stored and every entry of the song is a mapping, the rate
check for a song other than the one playing passes exactly when the mapping admits the
listener, and otherwise refuses with `cannot_rate_now`. -/
theorem checkMayRate_run {w : World} {sid : Value} {hv : Nat} {uid s : Int} {d : Dict}
    (request : LimitedRequest w sid hv uid s) (acl : w.cache.peek (aclKey sid) = .dict d)
    (entries : ∀ e, Dict.lookup? d (.int s) = some e → ∃ listeners, e = .dict listeners) :
    (checkMayRate (.ref hv) (.int s)).run w =
      if admits d s uid then .ok () w else .error (refuse "cannot_rate_now") w := by
  obtain ⟨⟨hd, hu, u, x, handler, user, station, listener, whole, limited, notAll⟩,
    ⟨playing, c, current, currentId, other⟩, conn⟩ := request
  have acl' : w.cache.peek (stationKey sid "user_rating_acl") = .dict d := acl
  simp only [checkMayRate, EStateM.run_bind, userOf_run handler, stationOf_run handler, user,
    listener_run listener, dataOf_run w limited, notAll, station, Bool.false_eq_true, if_false,
    readStation, read_run _ conn, acl', current, currentId, other, Bool.not_false, if_true,
    isIn_int_dict_run]
  unfold admits
  cases found : Dict.lookup? d (.int s) with
  | none => simp [Dict.hasKey, found]
  | some e =>
    -- the song has an entry: the check then asks whether the entry holds the listener
    obtain ⟨A, rfl⟩ := entries _ found
    have member := isIn_int_dict_run w uid A
    have present : Dict.hasKey d (.int s) = true := by simp [Dict.hasKey, found]
    cases listed : Dict.hasKey A (.int uid) <;>
      simp [present, listener_run listener, itemOf_dict_run found, whole, member, listed]

/-- A limited listener may rate a song other than the one playing after the plays `h`: the song
is kept, and the listener was among those fetched at its latest play. -/
def Rateable (h : List Play) (s uid : Int) : Prop :=
  Kept h s ∧ ∃ L, latestListeners h s = some L ∧ Dict.hasKey (admitted L) (.int uid) = true

theorem admits_iff_rateable {sid : Value} {h : List Play} {c : Cache} (window : Window sid h c)
    (s uid : Int) : admits (aclOf (c.peek (aclKey sid))) s uid = true ↔ Rateable h s uid := by
  unfold admits Rateable
  constructor
  · intro admitted_now
    split at admitted_now
    · rename_i A found
      obtain ⟨L, latest, same⟩ := window.latest s _ found
      have kept := (window.kept s).mp (by simp [found])
      cases same
      exact ⟨kept, L, latest, admitted_now⟩
    · cases admitted_now
  · rintro ⟨kept, L, latest, listed⟩
    obtain ⟨x, found⟩ := Option.isSome_iff_exists.mp ((window.kept s).mpr kept)
    obtain ⟨L', latest', rfl⟩ := window.latest s x found
    obtain rfl : L' = L := Option.some.inj (latest'.symm.trans latest)
    simp [found, listed]

/-- After the plays `h` (at least one), a limited listener's rate check for a song other than
the one playing passes exactly for the rateable songs and otherwise refuses with
`cannot_rate_now`. -/
theorem checkMayRate_of_window {w : World} {sid : Value} {h : List Play} {hv : Nat} {uid s : Int}
    (window : Window sid h w.cache) (played : h ≠ []) (request : LimitedRequest w sid hv uid s) :
    ((checkMayRate (.ref hv) (.int s)).run w = .ok () w ↔ Rateable h s uid) ∧
      (¬Rateable h s uid →
        (checkMayRate (.ref hv) (.int s)).run w = .error (refuse "cannot_rate_now") w) := by
  have entries : ∀ e, Dict.lookup? (aclOf (w.cache.peek (aclKey sid))) (.int s) = some e →
      ∃ listeners, e = .dict listeners := fun e found => by
    obtain ⟨L, _, rfl⟩ := window.latest s e found
    exact ⟨_, rfl⟩
  rw [checkMayRate_run request (window.stored played) entries, ← admits_iff_rateable window]
  constructor
  · cases admits (aclOf (w.cache.peek (aclKey sid))) s uid <;> simp
  · intro refused
    simp only [Bool.not_eq_true] at refused
    simp [refused]

/-! ### The rating list over a run -/

/-- Along every run of plays from empty entries, the station's entries follow `Kept`, and once a
play is recorded a limited listener may rate a song other than the one playing exactly when
the song is kept and the listener was fetched at its latest play; any other attempt ends in
`cannot_rate_now`. -/
theorem ratingWindow_admits {sid : Value} {w w' : World} {plays : List Play}
    (fresh : Window sid [] w.cache) (run : PlayRun sid w plays w') :
    Window sid plays w'.cache ∧
      ∀ (hv : Nat) (uid s : Int), plays ≠ [] → LimitedRequest w' sid hv uid s →
        ((checkMayRate (.ref hv) (.int s)).run w' = .ok () w' ↔ Rateable plays s uid) ∧
        (¬Rateable plays s uid →
          (checkMayRate (.ref hv) (.int s)).run w' = .error (refuse "cannot_rate_now") w') := by
  have window : Window sid plays w'.cache := by simpa using playRun_window run fresh
  exact ⟨window, fun _ _ _ played request => checkMayRate_of_window window played request⟩

/-- Station 1 just started: its rating entries are empty, listener 2 (who may not rate
everything) asks through handler 0 to rate a song while song 99 plays, and the database's next
column of listeners is `[2]`. -/
def sampleStation : World :=
  { cache := { entries := [(.str "sid1_sched_current", .ref 2)] }
    store := #[.handler { route := "/api4/rate", sid := .int 1, user := .ref 1 },
      .user { id := .int 2 },
      .event { kind := .oneUp, songs := .list [.ref 3] },
      .song { id := .int 99 }]
    db := { queues := { list := [.list [.int 2]] } } }

/-- After song 10 is played to listener 2, listener 2 may rate it. -/
theorem sampleStation_rates :
    Window (.int 1) [] sampleStation.cache ∧
      PlayRun (.int 1) sampleStation [⟨10, .list [.int 2]⟩] (afterPlay sampleStation (.int 1) (.int 10)) ∧
      LimitedRequest (afterPlay sampleStation (.int 1) (.int 10)) (.int 1) 0 2 10 ∧
      (checkMayRate (.ref 0) (.int 10)).run (afterPlay sampleStation (.int 1) (.int 10)) =
        .ok () (afterPlay sampleStation (.int 1) (.int 10)) := by
  have fresh : Window (.int 1) [] sampleStation.cache := window_empty rfl rfl
  have run : PlayRun (.int 1) sampleStation [⟨10, .list [.int 2]⟩]
      (afterPlay sampleStation (.int 1) (.int 10)) :=
    .play rfl (updateRatingAcl_run _ _ rfl) (.stop _)
  have request : LimitedRequest (afterPlay sampleStation (.int 1) (.int 10)) (.int 1) 0 2 10 :=
    ⟨⟨_, 1, _, .bool false, rfl, rfl, rfl, rfl, rfl, rfl, rfl⟩, ⟨.ref 3, .int 99, rfl, rfl, rfl⟩, rfl⟩
  have rateable : Rateable [⟨10, .list [.int 2]⟩] 10 2 :=
    ⟨kept_snoc_self [] ⟨10, .list [.int 2]⟩, .list [.int 2], rfl, rfl⟩
  obtain ⟨_, rates⟩ := ratingWindow_admits fresh run
  exact ⟨fresh, run, request, (rates 0 2 10 (List.cons_ne_nil _ _) request).1.mpr rateable⟩

/-- Seven plays on station 1, of songs 10, 11, 10, 12, 13, 14 and 15: song 10 comes back
within six plays. -/
def replayedPlays : List Play :=
  [⟨10, .list [.int 2]⟩, ⟨11, .list [.int 3]⟩, ⟨10, .list [.int 4]⟩, ⟨12, .list [.int 5]⟩,
    ⟨13, .list [.int 6]⟩, ⟨14, .list [.int 7]⟩, ⟨15, .list [.int 8]⟩]

/-- A started station whose database answers the listener columns of `replayedPlays`. -/
def replayedStation : World := { db := { queues := { list := replayedPlays.map Play.listeners } } }

/-- The station after the seven plays. -/
def replayedAfter : World :=
  replayedPlays.foldl (fun w p => afterPlay w (.int 1) (.int p.song)) replayedStation

theorem replayed_run : PlayRun (.int 1) replayedStation replayedPlays replayedAfter :=
  .play rfl (updateRatingAcl_run _ _ rfl) <| .play rfl (updateRatingAcl_run _ _ rfl) <|
    .play rfl (updateRatingAcl_run _ _ rfl) <| .play rfl (updateRatingAcl_run _ _ rfl) <|
    .play rfl (updateRatingAcl_run _ _ rfl) <| .play rfl (updateRatingAcl_run _ _ rfl) <|
    .play rfl (updateRatingAcl_run _ _ rfl) <| .stop _

/-- Song 10 was played third of the seven, so it is among the songs of the last six plays and
in the index; the first play of it left the window with the seventh play and took away the
entry of the third. -/
theorem replayed_song_loses_entry :
    Value.int 10 ∈ indexOf (replayedAfter.cache.peek (indexKey (.int 1))) ∧
      Dict.lookup? (aclOf (replayedAfter.cache.peek (aclKey (.int 1)))) (.int 10) = none := by
  have window : Window (.int 1) replayedPlays replayedAfter.cache := by
    simpa using playRun_window replayed_run (window_empty rfl rfl)
  have lost : ¬Kept replayedPlays 10 := by
    rintro ⟨j, at_j, latest⟩
    -- the third play is the latest, and the first one has left the window since
    have third := latest 2 rfl
    have first := latest 0 rfl
    have bound := lt_of_songAt? at_j
    simp only [replayedPlays, List.length_cons, List.length_nil] at first bound
    have j_six : j = 6 := by omega
    subst j_six
    cases at_j
  refine ⟨by rw [window.index]; simp [recentSongs, replayedPlays], ?_⟩
  have absent := (window.kept 10).not.mpr lost
  simpa using absent

end Airwaves.Api.Ratings
