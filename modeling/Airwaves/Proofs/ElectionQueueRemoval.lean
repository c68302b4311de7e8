import Airwaves.Proofs.ElectionOwnership
import Airwaves.Proofs.LineRebuild
/-!
# Removing a song from a queued DJ election

Removing a song by id walks the queue it edits, so the second of two adjacent copies stays.
-/

namespace Airwaves

variable {α : Type}

/-- What is left of a list when the items satisfying `p` are removed from it while it is walked:
a removed item's successor moves into its place and is passed over. -/
def walkOut (p : α → Bool) : List α → List α
  | [] => []
  | a :: rest =>
    if p a then
      match rest with
      | [] => []
      | b :: more => b :: walkOut p more
    else a :: walkOut p rest

/-- No two neighbouring items of a list both satisfy `p`. -/
def Apart (p : α → Bool) (l : List α) : Prop := l.IsChain fun a b => ¬(p a = true ∧ p b = true)

section Walk

variable (p : α → Bool)

theorem apart_cons_of_false {a : α} (l : List α) (ha : p a = false) : Apart p (a :: l) ↔ Apart p l := by
  cases l with
  | nil => simp [Apart]
  | cons b l => simp [Apart, List.isChain_cons_cons, ha]

theorem apart_cons_cons_of_true {a b : α} (l : List α) (ha : p a = true) :
    Apart p (a :: b :: l) ↔ p b = false ∧ Apart p (b :: l) := by
  simp [Apart, List.isChain_cons_cons, ha]

/-- The walk keeps only items of the list, in their order. -/
theorem walkOut_sublist (l : List α) : (walkOut p l).Sublist l := by
  fun_induction walkOut p l with
  | case1 => exact .slnil
  | case2 a _ => exact .cons a .slnil
  | case3 a _ b more ih => exact (ih.cons_cons b).cons a
  | case4 a rest _ ih => exact ih.cons_cons a

/-- The walk keeps every item that does not satisfy `p`, in order. -/
theorem filter_sublist_walkOut (l : List α) : (l.filter (fun a => !p a)).Sublist (walkOut p l) := by
  fun_induction walkOut p l with
  | case1 => exact .slnil
  | case2 a removed => simp [removed]
  | case3 a removed b more ih =>
    -- the successor stays whether it satisfies `p` or not
    cases passed : p b
    · simpa [removed, passed] using ih.cons_cons b
    · simpa [removed, passed] using ih.cons b
  | case4 a rest kept ih => simpa [kept] using ih.cons_cons a

/-- The walk removes exactly the items satisfying `p` when no two of them are neighbours. -/
theorem walkOut_eq_filter_iff (l : List α) :
    walkOut p l = l.filter (fun a => !p a) ↔ Apart p l := by
  fun_induction walkOut p l with
  | case1 => simp [Apart]
  | case2 a removed => simp [Apart, removed]
  | case3 a removed b more ih =>
    rw [apart_cons_cons_of_true p more removed]
    cases passed : p b
    · simp [removed, passed, ih, apart_cons_of_false p more passed]
    · -- the passed-over successor satisfies `p`, so the filter cannot hold it
      have absent : b ∉ more.filter (fun a => !p a) := by simp [passed]
      simp only [List.filter_cons, removed, passed, Bool.not_true, Bool.false_eq_true, ↓reduceIte,
        Bool.true_eq_false, false_and, iff_false]
      intro same
      exact absent (same ▸ List.mem_cons_self)
  | case4 a rest kept ih =>
    simp [kept, ih, apart_cons_of_false p rest (Bool.eq_false_iff.mpr kept)]

end Walk

/-! ### The queue in the world -/

/-- The id a queued song shows: the `id` field of the object it refers to. -/
def idIn (store : Array Obj) : Value → Option Value
  | .ref h => (store[h]?).bind (·.attribute? "id")
  | _ => none

/-- Whether a queued song shows the id `x`. -/
def hasId (store : Array Obj) (x song : Value) : Bool :=
  match idIn store song with
  | some i => Value.equals i x
  | none => false

theorem attributeOf_id_run {w : World} {song i : Value} (shown : idIn w.store song = some i) :
    (attributeOf song "id").run w = .ok i w := by
  cases song with
  | ref h =>
    simp only [idIn, Option.bind_eq_some_iff] at shown
    obtain ⟨o, stored, has⟩ := shown
    exact Api.attributeOf_ref_run stored has
  | _ => cases shown

theorem hasId_eq {store : Array Obj} {x song i : Value} (shown : idIn store song = some i) :
    hasId store x song = Value.equals i x := by
  simp [hasId, shown]

namespace Api.Blocks

/-- Removing by id reads each id it looks at and changes nothing: it leaves what the walk leaves. -/
theorem removeWalking_run {w : World} (x : Value) (songs : List Value)
    (shown : ∀ s ∈ songs, (idIn w.store s).isSome) :
    (removeWalking x songs).run w = .ok (walkOut (hasId w.store x) songs) w := by
  fun_induction walkOut (hasId w.store x) songs with
  | case1 => rfl
  | case2 a removed =>
    obtain ⟨i, found⟩ := Option.isSome_iff_exists.mp (shown a List.mem_cons_self)
    rw [removeWalking.eq_def]
    dsimp only
    rw [run_bind_ok (attributeOf_id_run found), if_pos (by rwa [hasId_eq found] at removed)]
    rfl
  | case3 a removed b more ih =>
    obtain ⟨i, found⟩ := Option.isSome_iff_exists.mp (shown a List.mem_cons_self)
    have rest := ih fun s mem => shown s (List.mem_cons_of_mem _ (List.mem_cons_of_mem _ mem))
    rw [removeWalking.eq_def]
    dsimp only
    rw [run_bind_ok (attributeOf_id_run found), if_pos (by rwa [hasId_eq found] at removed),
      run_bind_ok rest]
    rfl
  | case4 a rest kept ih =>
    obtain ⟨i, found⟩ := Option.isSome_iff_exists.mp (shown a List.mem_cons_self)
    have later := ih fun s mem => shown s (List.mem_cons_of_mem _ mem)
    rw [removeWalking.eq_def]
    dsimp only
    rw [run_bind_ok (attributeOf_id_run found), if_neg (by rwa [hasId_eq found] at kept),
      run_bind_ok later]
    rfl

/-- The cache entry that holds the songs queued by user `n` for a DJ election. -/
def djQueueKey (n : Int) : String := "u" ++ toString n ++ "_" ++ "dj_election"

section Removal

variable {w : World} {hv : Nat} {h : Handler} {u : User} {n : Int} {x : Value} {songs : List Value}

/-- Removing a song by id from a queue of songs that each show an id writes back what the walk
leaves, and then answers that it succeeded. -/
theorem removeFromDjElection_run (held : w.store[hv]? = some (.handler h)) (caller : Caller w h.user u)
    (uid : u.id = .int n) (named : Dict.field? h.cleanedArgs "song_id" = some x)
    (connected : w.cache.connected = true)
    (queued : w.cache.peek (djQueueKey n) = .list songs) (nonempty : songs ≠ [])
    (shown : ∀ s ∈ songs, (idIn w.store s).isSome) :
    (removeFromDjElection.serve (.ref hv)).run w =
      (answer (.ref hv) (Value.record [("success", .bool true)])).run
        { w with cache := w.cache.store (djQueueKey n) (.list (walkOut (hasId w.store x) songs)) false } := by
  have identified := (show Serving w hv h.user h.sid from ⟨h, held, rfl, rfl⟩).userIdOf_run caller
  rw [uid] at identified
  have keyed : (Cache.userKey (.int n) "dj_election").run w = .ok (djQueueKey n) w := rfl
  have read : (Cache.readUser (.int n) "dj_election").run w = .ok (.list songs) w := by
    rw [Cache.readUser, run_bind_ok keyed, Cache.read_run _ connected, queued]
  have argument_run : (argument (.ref hv) "song_id").run w = .ok x w := by
    simp [argument, argumentOr, handlerOf, handlerAt, EStateM.run_bind, Ratings.deref_run_of held, named]
  have full : (Value.list songs).truthy = true := by simpa [Value.truthy] using nonempty
  have written (left : Value) : (Cache.putUser (.int n) "dj_election" left).run w =
      .ok () { w with cache := w.cache.store (djQueueKey n) left false } := by
    rw [Cache.putUser, run_bind_ok keyed, Cache.put_run _ _ _ connected]
  simp only [removeFromDjElection]
  rw [run_bind_ok identified, run_bind_ok read, if_neg (by simp [full]), run_bind_ok argument_run,
    run_bind_ok (itemsOf_list_run songs w), run_bind_ok (removeWalking_run x songs shown),
    run_bind_ok identified, run_bind_ok (written _)]

/-- Removing a song from a DJ's queued election writes back a queue that keeps only queued songs,
in order, and keeps every song with another id; it is the queue less the songs with the id exactly
when no two of those stand next to each other. -/
theorem removeFromDjElection_leaves (held : w.store[hv]? = some (.handler h)) (caller : Caller w h.user u)
    (uid : u.id = .int n) (named : Dict.field? h.cleanedArgs "song_id" = some x)
    (connected : w.cache.connected = true)
    (queued : w.cache.peek (djQueueKey n) = .list songs) (nonempty : songs ≠ [])
    (shown : ∀ s ∈ songs, (idIn w.store s).isSome) :
    ∃ left, (removeFromDjElection.serve (.ref hv)).run w =
        (answer (.ref hv) (Value.record [("success", .bool true)])).run
          { w with cache := w.cache.store (djQueueKey n) (.list left) false } ∧
      left.Sublist songs ∧ (songs.filter fun s => !hasId w.store x s).Sublist left ∧
      (left = songs.filter (fun s => !hasId w.store x s) ↔ Apart (hasId w.store x) songs) :=
  ⟨_, removeFromDjElection_run held caller uid named connected queued nonempty shown,
    walkOut_sublist _ songs, filter_sublist_walkOut _ songs, walkOut_eq_filter_iff _ songs⟩

end Removal

/-- User 3 has queued song 10 twice in a row and asks through handler 0 to remove song 10. -/
def doubledQueue : World where
  cache := { entries := [(.str "u3_dj_election", .list [.ref 2, .ref 3])] }
  store := #[
    .handler { route := "/api4/admin/remove_from_dj_election", user := .ref 1,
               cleanedArgs := [(.str "song_id", .int 10)] },
    .user { id := .int 3 }, .song { id := .int 10 }, .song { id := .int 10 }]

theorem doubledSong_stays_queued :
    ∃ left, (removeFromDjElection.serve (.ref 0)).run doubledQueue =
        (answer (.ref 0) (Value.record [("success", .bool true)])).run
          { doubledQueue with cache := doubledQueue.cache.store (djQueueKey 3) (.list left) false } ∧
      left.Sublist [.ref 2, .ref 3] ∧
      ([Value.ref 2, .ref 3].filter fun s => !hasId doubledQueue.store (.int 10) s).Sublist left ∧
      (left = [Value.ref 2, .ref 3].filter (fun s => !hasId doubledQueue.store (.int 10) s) ↔
        Apart (hasId doubledQueue.store (.int 10)) [.ref 2, .ref 3]) :=
  removeFromDjElection_leaves rfl ⟨1, rfl, rfl⟩ rfl rfl rfl rfl (by simp) (by decide)

/-- The walk passes over the second copy of song 10: one copy is written back, where the queue
less song 10 is empty. -/
theorem doubledSong_left_behind :
    (removeFromDjElection.serve (.ref 0)).run doubledQueue =
        (answer (.ref 0) (Value.record [("success", .bool true)])).run
          { doubledQueue with cache := doubledQueue.cache.store (djQueueKey 3) (.list [.ref 3]) false } ∧
      [Value.ref 2, .ref 3].filter (fun s => !hasId doubledQueue.store (.int 10) s) = [] :=
  ⟨@removeFromDjElection_run doubledQueue 0 _ _ 3 (.int 10) [.ref 2, .ref 3] rfl ⟨1, rfl, rfl⟩ rfl rfl rfl rfl
    (by simp) (by decide), rfl⟩

end Api.Blocks

end Airwaves
