import Airwaves.Proofs.ElectionOwnership
import Airwaves.Proofs.RequestCounters
import Mathlib.Data.Prod.Lex
/-!
# The order an election plays its entries in

After the shuffle and the two stable sorts, entries stand by votes and then by entry type, most
first, and starting the election records each entry's place as its position.
-/

namespace Airwaves

theorem Value.order_int_ne_gt (a b : Int) :
    (Value.order (.int a) (.int b) != .gt) = decide (a ≤ b) := by
  by_cases h : a ≤ b
  · simp [Value.order, Value.number?, Value.Number.cmp, h, Int.compare_ne_gt.mpr h]
  · simp [Value.order, Value.number?, Value.Number.cmp, h,
      Int.compare_eq_gt.mpr (Int.lt_of_not_ge h)]

/-! ### Stable sorting -/

section Stable

variable {α : Type} {le : α → α → Bool}

/-- Sorting keeps the order of the items its comparison ties: the members of a class that all
compare as below one another come out in the order they went in. -/
theorem filter_mergeSort_tied (trans : ∀ a b c, le a b → le b c → le a c)
    (total : ∀ a b, le a b || le b a) {p : α → Bool} (tied : ∀ a b, p a → p b → le a b)
    (l : List α) : (l.mergeSort le).filter p = l.filter p := by
  have sorted : (l.filter p).Pairwise fun a b => le a b :=
    List.pairwise_of_forall_mem_list fun a ha b hb =>
      tied a b (List.of_mem_filter ha) (List.of_mem_filter hb)
  have kept : (l.filter p).Sublist ((l.mergeSort le).filter p) := by
    have sub := (List.sublist_mergeSort trans total sorted List.filter_sublist).filter p
    simpa only [List.filter_filter, Bool.and_self] using sub
  have same : ((l.mergeSort le).filter p).length = (l.filter p).length :=
    ((List.mergeSort_perm l le).filter p).length_eq
  exact (kept.eq_of_length same.symm).symm

/-- Sorting by one whole-number key a list already sorted by another orders it
lexicographically: by the new key, and among equal new keys by the old one. -/
theorem mergeSort_lex (t v : α → Int) {l : List α} (byT : l.Pairwise fun a b => t a ≤ t b) :
    (l.mergeSort fun a b => decide (v a ≤ v b)).Pairwise
      fun a b => toLex (v a, t a) ≤ toLex (v b, t b) := by
  have trans : ∀ a b c, decide (v a ≤ v b) → decide (v b ≤ v c) → decide (v a ≤ v c) := by
    intro a b c hab hbc
    simp only [decide_eq_true_eq] at hab hbc ⊢
    omega
  have total : ∀ a b, decide (v a ≤ v b) || decide (v b ≤ v a) := by
    intro a b
    simp only [Bool.or_eq_true, decide_eq_true_eq]
    omega
  have byV := List.pairwise_mergeSort trans total l
  rw [List.pairwise_iff_forall_sublist]
  intro a b ab
  have hv : v a ≤ v b := by simpa using List.pairwise_iff_forall_sublist.1 byV ab
  rw [Prod.Lex.toLex_le_toLex]
  rcases lt_or_eq_of_le hv with lt | eq
  · exact .inl lt
  · refine .inr ⟨eq, ?_⟩
    -- `a` and `b` tie on `v`, so the sort by `v` keeps them in the order sorted by `t`
    have tiedKept := filter_mergeSort_tied trans total (p := fun x => v x == v a)
      (fun x y hx hy => by simp_all) l
    have pair : [a, b].Sublist
        ((l.mergeSort fun a b => decide (v a ≤ v b)).filter (fun x => v x == v a)) := by
      simpa [eq] using ab.filter (fun x => v x == v a)
    rw [tiedKept] at pair
    exact List.pairwise_iff_forall_sublist.1 (byT.filter _) pair

end Stable

/-! ### Sorting in the kernel -/

section Within

variable {α : Type} (le : α → α → Bool)

/-- Merges `x` and then the list that `rest` merges with any list, into `ys`. -/
def mergeInto (x : α) (rest : List α → List α) : List α → List α
  | [] => x :: rest []
  | y :: ys => if le x y then x :: rest (y :: ys) else y :: mergeInto x rest ys

/-- `List.merge`, by structural recursion on both lists, so that the kernel evaluates it. -/
def mergeWithin : List α → List α → List α
  | [], ys => ys
  | x :: xs, ys => mergeInto le x (mergeWithin xs) ys

theorem mergeWithin_eq (xs ys : List α) : mergeWithin le xs ys = xs.merge ys le := by
  induction xs generalizing ys with
  | nil => simp [mergeWithin]
  | cons x xs ih =>
    -- the merge runs down `ys` until `x` goes in
    induction ys with
    | nil => simp [mergeWithin, mergeInto, ih]
    | cons y ys ih' =>
      rw [mergeWithin, mergeInto, List.cons_merge_cons, ih, ← ih', mergeWithin]

/-- `List.mergeSort` on a bound of the length: it splits and merges as the sort does, by
structural recursion on the bound, so that the kernel evaluates it. -/
def mergeSortWithin : Nat → List α → List α
  | 0, xs => xs
  | n + 1, xs => match xs with
    | [] => []
    | [a] => [a]
    | a :: b :: rest =>
      mergeWithin le (mergeSortWithin n ((a :: b :: rest).take ((rest.length + 2 + 1) / 2)))
        (mergeSortWithin n ((a :: b :: rest).drop ((rest.length + 2 + 1) / 2)))

theorem mergeSortWithin_eq :
    ∀ (n : Nat) (xs : List α), xs.length ≤ n → mergeSortWithin le n xs = xs.mergeSort le
  | 0, [], _ => by simp [mergeSortWithin]
  | n + 1, [], _ => by simp [mergeSortWithin]
  | n + 1, [a], _ => by simp [mergeSortWithin]
  | n + 1, a :: b :: rest, short => by
    simp only [List.length_cons] at short
    rw [mergeSortWithin, List.mergeSort, mergeWithin_eq, mergeSortWithin_eq n _ (by simp; omega),
      mergeSortWithin_eq n _ (by simp; omega)]
    simp [List.MergeSort.Internal.splitInTwo_fst, List.MergeSort.Internal.splitInTwo_snd]

end Within

/-! ### The ranking for play -/

namespace Elections

/-- Sorting pairs by whole-number keys is sorting their first parts by those numbers. -/
theorem sortByKey_int (xs : List Value) (key : Value → Int) :
    sortByKey (xs.map fun s => (s, .int (key s))) =
      (xs.mergeSort fun a b => decide (key a ≤ key b)).map fun s => (s, .int (key s)) := by
  unfold sortByKey
  exact (List.map_mergeSort fun a _ b _ => (Value.order_int_ne_gt (key a) (key b)).symm).symm

/-- The order preparation gives an election's entries, from their entry types and vote
counts: sorted by type, then by votes, both keeping ties in order, and read from the top. -/
def rankForPlay (type votes : Value → Value) (entries : List Value) : List Value :=
  ((sortByKey ((((sortByKey (entries.map fun s => (s, type s))).map (·.1))).map
    fun s => (s, votes s))).map (·.1)).reverse

/-- Sorting items by keys gives the items back. -/
theorem sortByKey_perm (xs : List Value) (key : Value → Value) :
    ((sortByKey (xs.map fun s => (s, key s))).map (·.1)).Perm xs := by
  have sorted := (List.mergeSort_perm (xs.map fun s => (s, key s))
    fun a b => Value.order a.2 b.2 != .gt).map (·.1)
  rwa [List.map_map, Function.comp_def, List.map_id'] at sorted

theorem rankForPlay_perm (type votes : Value → Value) (entries : List Value) :
    (rankForPlay type votes entries).Perm entries :=
  (List.reverse_perm _).trans ((sortByKey_perm _ votes).trans (sortByKey_perm entries type))

/-- Entries whose vote counts and entry types are whole numbers are ranked for play by votes
and then by entry type, most first. -/
theorem rankForPlay_sorted {type votes : Value → Value} {entries : List Value}
    (t v : Value → Int) (whole : ∀ s ∈ entries, votes s = .int (v s) ∧ type s = .int (t s)) :
    (rankForPlay type votes entries).Pairwise
      fun a b => toLex (v b, t b) ≤ toLex (v a, t a) := by
  set sortedByType := entries.mergeSort fun a b => decide (t a ≤ t b)
  have firstSort : (sortByKey (entries.map fun s => (s, type s))).map (·.1) = sortedByType := by
    have byType : entries.map (fun s => (s, type s)) = entries.map fun s => (s, .int (t s)) :=
      List.map_congr_left fun s hs => by rw [(whole s hs).2]
    rw [byType, sortByKey_int, List.map_map]
    exact List.map_id' _
  have secondSort : (sortByKey (sortedByType.map fun s => (s, votes s))).map (·.1) =
      sortedByType.mergeSort fun a b => decide (v a ≤ v b) := by
    have byVotes : sortedByType.map (fun s => (s, votes s)) =
        sortedByType.map fun s => (s, .int (v s)) :=
      List.map_congr_left fun s hs => by
        rw [(whole s ((List.mergeSort_perm _ _).mem_iff.1 hs)).1]
    rw [byVotes, sortByKey_int, List.map_map]
    exact List.map_id' _
  have typeOrder : sortedByType.Pairwise fun a b => t a ≤ t b := by
    refine (List.pairwise_mergeSort ?_ ?_ entries).imp (by simp)
    · intro a b c hab hbc
      simp only [decide_eq_true_eq] at hab hbc ⊢
      omega
    · intro a b
      simp only [Bool.or_eq_true, decide_eq_true_eq]
      omega
  unfold rankForPlay
  rw [firstSort, secondSort, List.pairwise_reverse]
  exact mergeSort_lex t v typeOrder

end Elections

/-! ### Shuffling -/

namespace Chance.Twister

theorem below_go_lt {n : Nat} (pos : 0 < n) (k : Nat) :
    ∀ (fuel : Nat) (g : Twister), (below.go n k fuel g).1 < n
  | 0, g => by simpa [below.go] using pos
  | fuel + 1, g => by
    simp only [below.go]
    split
    · assumption
    · exact below_go_lt pos k fuel _

/-- A draw below a positive bound is below it. -/
theorem below_lt {n : Nat} (pos : 0 < n) (g : Twister) : (below n g).1 < n := by
  unfold below
  rw [if_neg (by simp; omega)]
  exact below_go_lt pos _ _ _

/-- Shuffling gives the items back. -/
theorem shuffle_perm {α : Type} [Inhabited α] (xs : List α) (g : Twister) :
    (shuffle xs g).1.Perm xs := by
  unfold shuffle
  dsimp only
  -- each pass swaps two positions inside the array, which stays a permutation of the list
  refine (List.foldlRecOn (motive := fun acc : Array α × Twister =>
    acc.1.toList.Perm xs ∧ acc.1.size = xs.length) _ _ ⟨by simp, by simp⟩ ?_).1
  rintro ⟨arr, g⟩ ⟨perm, size⟩ step mem
  dsimp only at perm size ⊢
  simp only [List.mem_range, List.size_toArray] at mem ⊢
  have hi : xs.length - 1 - step < arr.size := by omega
  have hj : (below (xs.length - 1 - step + 1) g).1 < arr.size := by
    have := below_lt (n := xs.length - 1 - step + 1) (by omega) g
    omega
  simp only [Array.set!_eq_setIfInBounds, Array.toList_setIfInBounds, Array.size_setIfInBounds,
    Array.getD_eq_getD_getElem?, Array.getElem?_eq_getElem hi, Array.getElem?_eq_getElem hj]
  refine ⟨?_, size⟩
  have hi' : xs.length - 1 - step < arr.toList.length := by simpa using hi
  have hj' : (below (xs.length - 1 - step + 1) g).1 < arr.toList.length := by simpa using hj
  have swapped := List.set_set_perm hi' hj'
  simpa using swapped.trans perm

end Chance.Twister

theorem shuffled_run (xs : List Value) (w : World) :
    (shuffled xs).run w =
      .ok (Chance.Twister.shuffle xs w.rng).1 { w with rng := (Chance.Twister.shuffle xs w.rng).2 } :=
  rfl

/-! ### Actions that keep an invariant -/

/-- Every successful run of the action from a world where `R` holds ends in a world where `R`
holds. -/
def Preserves {α : Type} (R : World → Prop) (x : Act α) : Prop :=
  ∀ w r w', R w → x.run w = .ok r w' → R w'

namespace Preserves

variable {α β : Type} {R : World → Prop}

theorem of_readOnly {x : Act α} (h : ReadOnly x) : Preserves R x := by
  intro w r w' holds run
  rwa [h w r w' run]

theorem bind {x : Act α} {f : α → Act β} (hx : Preserves R x) (hf : ∀ a, Preserves R (f a)) :
    Preserves R (x >>= f) := by
  intro w r w' holds run
  obtain ⟨a, w1, first, rest⟩ := run_bind_eq_ok run
  exact hf a w1 r w' (hx w a w1 holds first) rest

theorem ite {c : Prop} [Decidable c] {x y : Act α} (hx : Preserves R x) (hy : Preserves R y) :
    Preserves R (if c then x else y) := by
  split
  · exact hx
  · exact hy

theorem forIn (xs : List α) (b : β) {f : α → β → Act (ForInStep β)}
    (hf : ∀ x b, Preserves R (f x b)) : Preserves R (forIn xs b f) := by
  intro w r w' holds run
  exact forIn_run_invariant (fun _ w1 => R w1) f (fun x b _ w1 w2 h pass => hf x b w1 _ w2 h pass)
    xs b r w w' holds run

end Preserves

/-! ### Preparing an election -/

namespace Elections

/-- The handle holds a song. -/
def SongAt (w : World) (h : Nat) : Prop := ∃ s, w.store[h]? = some (.song s)

/-- What the reading of votes keeps: the election under its handle, and a song under each of
some handles. -/
def EntriesKept (e : Nat) (ev : Event) (hs : List Nat) (w : World) : Prop :=
  w.store[e]? = some (.event ev) ∧ ∀ h ∈ hs, SongAt w h

/-- The data entry of a stored song under a key. -/
def songEntry (w : World) (song : Value) (key : String) : Option Value :=
  match song with
  | .ref h =>
    match w.store[h]? with
    | some (.song s) => Dict.field? s.data key
    | _ => none
  | _ => none

theorem songEntry_of_stored {w : World} {h : Nat} {s : Song} (stored : w.store[h]? = some (.song s))
    (key : String) : songEntry w (.ref h) key = Dict.field? s.data key := by
  simp [songEntry, stored]

theorem songOf_run_inv {v : Value} {w w' : World} {s : Song} (run : (Songs.songOf v).run w = .ok s w') :
    w' = w ∧ ∃ h, v = .ref h ∧ w.store[h]? = some (.song s) := by
  obtain ⟨p, w1, found, rest⟩ := run_bind_eq_ok run
  obtain ⟨rfl, rfl⟩ := run_pure_eq_ok rest
  have ref := songAt_run_ref found
  rw [ref] at found
  obtain ⟨-, rfl, stored⟩ := songAt_ref_run found
  exact ⟨rfl, p.1, ref, stored⟩

/-- Setting a data entry of a song keeps the election and every song a song: it only succeeds
on a stored song, which is not the election. -/
theorem setData_preserves (e : Nat) (ev : Event) (hs : List Nat) (song : Value) (key : String)
    (x : Value) : Preserves (EntriesKept e ev hs) (Songs.setData song key x) := by
  intro w r w' ⟨event, songs⟩ run
  obtain ⟨p, w1, found, rest⟩ := run_bind_eq_ok run
  have ref := songAt_run_ref found
  rw [ref] at found run
  obtain ⟨-, rfl, stored⟩ := songAt_ref_run found
  obtain ⟨atSong, others⟩ := setData_song stored run
  have ne : p.1 ≠ e := by
    intro same
    rw [same, event] at stored
    cases stored
  refine ⟨by rw [others e ne]; exact event, fun h mem => ?_⟩
  by_cases same : p.1 = h
  · exact ⟨_, same ▸ atSong⟩
  · obtain ⟨t, kept⟩ := songs h mem
    exact ⟨t, by rw [others h same]; exact kept⟩

theorem entryOf_readOnly (song : Value) (key : String) : ReadOnly (entryOf song key) :=
  (attributeOf_readOnly _ _).bind fun _ => itemOf_readOnly _ _

theorem hasEntry_readOnly (song : Value) (key : String) : ReadOnly (hasEntry song key) :=
  (attributeOf_readOnly _ _).bind fun _ => Listeners.isIn_readOnly _ _

/-- Reading a data entry of a stored song finds the entry, and fails when there is none. -/
theorem entryOf_run_inv {w w' : World} {h : Nat} {key : String} {x : Value}
    (stored : SongAt w h) (run : (entryOf (.ref h) key).run w = .ok x w') :
    w' = w ∧ songEntry w (.ref h) key = some x := by
  obtain ⟨s, stored⟩ := stored
  have same := entryOf_readOnly _ _ w x w' run
  subst w'
  rw [songEntry_of_stored stored]
  cases found : Dict.field? s.data key with
  | some y =>
    rw [entryOf_ref_run stored found] at run
    cases run
    exact ⟨rfl, rfl⟩
  | none =>
    have missing : Dict.lookup? s.data (.str key) = none := found
    simp only [entryOf, songData, attributeOf, deref, EStateM.run_bind, EStateM.run_get, stored] at run
    change (itemOf (.dict s.data) (.str key)).run w = _ at run
    simp [itemOf, missing] at run

/-- The loop that reads an election's votes in, pass by pass: when each pass takes its item as a
stored song, keeps the election and the songs, and goes on to the next item, the whole loop
keeps them and ends with every item a stored song. -/
theorem forIn_songs_run {e : Nat} {ev : Event} {body : Value → PUnit → Act (ForInStep PUnit)}
    (pass : ∀ x hs w r w', EntriesKept e ev hs w → (body x ⟨⟩).run w = .ok r w' →
      r = .yield ⟨⟩ ∧ ∃ h, x = .ref h ∧ EntriesKept e ev (h :: hs) w') :
    ∀ (xs : List Value) (hs : List Nat) (w w' : World), EntriesKept e ev hs w →
      (forIn xs ⟨⟩ body).run w = .ok ⟨⟩ w' →
      EntriesKept e ev hs w' ∧ ∀ x ∈ xs, ∃ h, x = .ref h ∧ SongAt w' h := by
  intro xs
  induction xs with
  | nil =>
    intro hs w w' kept run
    obtain ⟨-, rfl⟩ := run_pure_eq_ok run
    exact ⟨kept, by simp⟩
  | cons x rest ih =>
    intro hs w w' kept run
    rw [List.forIn_cons] at run
    obtain ⟨step, w1, first, later⟩ := run_bind_eq_ok run
    obtain ⟨rfl, h, rfl, kept1⟩ := pass x hs w step w1 kept first
    obtain ⟨kept', songs⟩ := ih (h :: hs) w1 w' kept1 later
    refine ⟨⟨kept'.1, fun h' m => kept'.2 h' (List.mem_cons_of_mem _ m)⟩, ?_⟩
    intro y mem
    rcases List.mem_cons.1 mem with rfl | mem
    · exact ⟨h, rfl, kept'.2 h List.mem_cons_self⟩
    · exact songs y mem

/-- A loop that pairs each item with one of its data entries, over stored songs: it pairs them
with what their data holds, and changes nothing. -/
theorem forIn_pairs_run {key : String} {w : World} :
    ∀ (xs : List Value) (acc r : List (Value × Value)) (w' : World),
      (∀ x ∈ xs, ∃ h, x = .ref h ∧ SongAt w h) →
      (forIn xs acc fun x acc => do
          let y ← entryOf x key
          pure (ForInStep.yield (acc ++ [(x, y)]))).run w = .ok r w' →
      w' = w ∧ r = acc ++ xs.map fun x => (x, (songEntry w x key).getD .none) := by
  intro xs
  induction xs with
  | nil =>
    intro acc r w' _ run
    obtain ⟨rfl, rfl⟩ := run_pure_eq_ok run
    simp
  | cons x rest ih =>
    intro acc r w' songs run
    rw [List.forIn_cons] at run
    obtain ⟨step, w1, first, later⟩ := run_bind_eq_ok run
    obtain ⟨y, w2, read, yielded⟩ := run_bind_eq_ok first
    obtain ⟨rfl, rfl⟩ := run_pure_eq_ok yielded
    obtain ⟨h, rfl, stored⟩ := songs _ List.mem_cons_self
    obtain ⟨rfl, found⟩ := entryOf_run_inv stored read
    obtain ⟨rfl, rfl⟩ := ih _ r w' (fun z m => songs z (List.mem_cons_of_mem _ m)) later
    simp [found]

/-- The ranking reads nothing of the entries but their keys. -/
theorem rankForPlay_congr {type votes type' votes' : Value → Value} {entries : List Value}
    (same : ∀ s ∈ entries, type s = type' s ∧ votes s = votes' s) :
    rankForPlay type votes entries = rankForPlay type' votes' entries := by
  have byType : entries.map (fun s => (s, type s)) = entries.map fun s => (s, type' s) :=
    List.map_congr_left fun s hs => by rw [(same s hs).1]
  have byVotes : ((sortByKey (entries.map fun s => (s, type' s))).map (·.1)).map
      (fun s => (s, votes s)) =
      ((sortByKey (entries.map fun s => (s, type' s))).map (·.1)).map fun s => (s, votes' s) :=
    List.map_congr_left fun s hs => by
      rw [(same s ((sortByKey_perm entries type').mem_iff.1 hs)).2]
  unfold rankForPlay
  rw [byType, byVotes]

theorem songsOf_run {e : Nat} {ev : Event} {songs : List Value} {w : World}
    (stored : w.store[e]? = some (.event ev)) (listed : ev.songs = .list songs) :
    (songsOf (.ref e)).run w = .ok songs w := by
  rw [songsOf, run_bind_ok (eventOf_run stored), listed]
  rfl

/-- What a successful preparation leaves: the election holds its entries ranked for play from a
shuffle of the entries it had, by the entry types and vote counts their songs' data then holds,
and every entry is a stored song. -/
theorem prepare_run {e : Nat} {ev : Event} {songs : List Value} {w w' : World}
    (stored : w.store[e]? = some (.event ev)) (listed : ev.songs = .list songs)
    (run : (prepare (.ref e)).run w = .ok () w') :
    ∃ shuffle gain, shuffle.Perm songs ∧
      w'.store[e]? = some (.event { ev with
        songs := .list (rankForPlay (fun s => (songEntry w' s "entry_type").getD .none)
          (fun s => (songEntry w' s "entry_votes").getD .none) shuffle),
        replayGain := gain }) ∧
      ∀ s ∈ songs, ∃ h, s = .ref h ∧ SongAt w' h := by
  unfold prepare at run
  rw [run_bind_ok (eventOf_run stored)] at run
  obtain ⟨rows, w1, fetched, run⟩ := run_bind_eq_ok run
  have store1 : w1.store = w.store := by
    rw [fetchAll, Cache.query_run] at fetched
    cases fetched
    rfl
  obtain ⟨results, w2, read, run⟩ := run_bind_eq_ok run
  have same := itemsOf_readOnly _ _ _ _ read
  subst w2
  have stored1 : w1.store[e]? = some (.event ev) := by rw [store1]; exact stored
  rw [run_bind_ok (songsOf_run stored1 listed)] at run
  -- reading the votes in keeps the election and leaves every entry a stored song
  obtain ⟨⟨⟩, w3, votesIn, run⟩ := run_bind_eq_ok run
  have readIn := forIn_songs_run (fun x hs u r u' kept pass => ?pass) songs [] w1 w3
    ⟨stored1, by simp⟩ votesIn
  obtain ⟨⟨stored3, -⟩, allSongs⟩ := readIn
  rw [run_bind_ok (songsOf_run stored3 listed), run_bind_ok (shuffled_run _ _)] at run
  set shuffle := (Chance.Twister.shuffle songs w3.rng).1
  set w4 : World := { w3 with rng := (Chance.Twister.shuffle songs w3.rng).2 }
  have perm : shuffle.Perm songs := Chance.Twister.shuffle_perm songs w3.rng
  have songs4 : ∀ s ∈ shuffle, ∃ h, s = .ref h ∧ SongAt w4 h :=
    fun s mem => allSongs s (perm.mem_iff.1 mem)
  -- the two sorts read the entries' keys without changing anything
  obtain ⟨byType, w5, typesRead, run⟩ := run_bind_eq_ok run
  obtain ⟨same, rfl⟩ := forIn_pairs_run shuffle [] byType w5 songs4 typesRead
  subst w5
  obtain ⟨byVotes, w6, votesRead, run⟩ := run_bind_eq_ok run
  obtain ⟨same, rfl⟩ := forIn_pairs_run _ [] byVotes w6
    (fun s mem => songs4 s ((sortByKey_perm shuffle _).mem_iff.1 (by simpa using mem))) votesRead
  subst w6
  obtain ⟨⟨⟩, w7, ranked, run⟩ := run_bind_eq_ok run
  obtain ⟨stored7, others7⟩ := changeEvent_event (w := w4) stored3 ranked
  obtain ⟨first, w8, got, run⟩ := run_bind_eq_ok run
  have same := itemOf_readOnly _ _ _ _ _ got
  subst w8
  obtain ⟨gain, w9, got, run⟩ := run_bind_eq_ok run
  have same := attributeOf_readOnly _ _ _ _ _ got
  subst w9
  obtain ⟨stored9, others9⟩ := changeEvent_event stored7 run
  -- every entry is a song away from the election, so its data is as the sorts read it
  have kept : ∀ s ∈ shuffle, ∀ key, songEntry w' s key = songEntry w4 s key := by
    intro s mem key
    obtain ⟨h, rfl, t, atSong⟩ := songs4 s mem
    have ne : e ≠ h := by
      intro same
      rw [← same, show w4.store = w3.store from rfl, stored3] at atSong
      cases atSong
    simp only [songEntry, others9 h ne, others7 h ne]
  refine ⟨shuffle, gain, perm, ?_, fun s mem => ?_⟩
  · have reread : rankForPlay (fun s => (songEntry w' s "entry_type").getD .none)
        (fun s => (songEntry w' s "entry_votes").getD .none) shuffle =
        rankForPlay (fun s => (songEntry w4 s "entry_type").getD .none)
          (fun s => (songEntry w4 s "entry_votes").getD .none) shuffle :=
      rankForPlay_congr fun s mem => ⟨by rw [kept s mem], by rw [kept s mem]⟩
    rw [stored9, reread]
    simp [rankForPlay]
  · obtain ⟨h, rfl, t, atSong⟩ := songs4 s (perm.mem_iff.2 mem)
    have ne : e ≠ h := by
      intro same
      rw [← same, show w4.store = w3.store from rfl, stored3] at atSong
      cases atSong
    exact ⟨h, rfl, t, by rw [others9 h ne, others7 h ne]; exact atSong⟩
  case pass =>
    -- one pass takes its item as a stored song, may set its vote count, and goes on
    obtain ⟨song, u1, found, rest⟩ := run_bind_eq_ok pass
    obtain ⟨same, h, rfl, atSong⟩ := songOf_run_inv found
    subst u1
    have kept1 : EntriesKept e ev (h :: hs) u :=
      ⟨kept.1, by simpa [List.forall_mem_cons] using ⟨⟨_, atSong⟩, kept.2⟩⟩
    obtain ⟨⟨⟩, u2, matched, rest⟩ := run_bind_eq_ok rest
    have kept2 : EntriesKept e ev (h :: hs) u2 := by
      refine (Preserves.forIn _ _ fun result _ => ?_) u _ u2 kept1 matched
      refine Preserves.bind (.of_readOnly (itemOf_readOnly _ _)) fun _ => .ite ?_ (.of_readOnly (.pure _))
      exact Preserves.bind (.of_readOnly (itemOf_readOnly _ _)) fun _ =>
        Preserves.bind (setData_preserves _ _ _ _ _ _) fun _ => .of_readOnly (.pure _)
    obtain ⟨present, u3, probed, rest⟩ := run_bind_eq_ok rest
    have same := hasEntry_readOnly _ _ _ _ _ probed
    subst u3
    split at rest
    · obtain ⟨rfl, rfl⟩ := run_pure_eq_ok rest
      exact ⟨rfl, h, rfl, kept2⟩
    · obtain ⟨⟨⟩, u4, set, rest⟩ := run_bind_eq_ok rest
      obtain ⟨rfl, same⟩ := run_pure_eq_ok rest
      subst u'
      exact ⟨rfl, h, rfl, setData_preserves _ _ _ _ _ _ u2 () u4 kept2 set⟩

/-! ### Starting an election -/

theorem songEntry_congr {w w' : World} {h : Nat} (same : w'.store[h]? = w.store[h]?) (key : String) :
    songEntry w' (.ref h) key = songEntry w (.ref h) key := by
  simp only [songEntry, same]

/-- Every object but the one under `e` is unchanged. -/
def Besides (e : Nat) (w w' : World) : Prop := ∀ h, e ≠ h → w'.store[h]? = w.store[h]?

theorem besides_frame (e : Nat) : Frame (Besides e) where
  trans first second h other := (second h other).trans (first h other)
  same same h _ := by rw [same]

theorem eventAt_ref_handle {e : Nat} {w w' : World} {p : Nat × Event}
    (run : (eventAt (.ref e)).run w = .ok p w') : p.1 = e := by
  simp only [eventAt] at run
  obtain ⟨o, w1, -, rest⟩ := run_bind_eq_ok run
  split at rest
  · obtain ⟨rfl, -⟩ := run_pure_eq_ok rest
    rfl
  · exact absurd rest (noMember_fails _ _ _ _ _)

/-- Changing the event under `e` keeps every other object. -/
theorem changeEvent_besides (e : Nat) (f : Event → Event) :
    Guards (Besides e) (Events.changeEvent (.ref e) f) := by
  unfold Events.changeEvent
  refine Guards.bind_of_run (besides_frame e) (eventAt_guards (besides_frame e) _)
    fun w p w1 found => ?_
  have handle := eventAt_ref_handle found
  obtain ⟨rfl, stored⟩ := eventAt_run_inv found
  obtain ⟨e', ev⟩ := p
  dsimp only at handle stored ⊢
  subst handle
  rw [updateEvent_run stored]
  exact ⟨fun _ _ run => by cases run; exact fun h other => getElem?_set!_of_ne _ other,
    fun _ _ run => by cases run⟩

theorem dbUpdate_store {params : List Value} {w w' : World} {x : Value}
    (run : (dbUpdate params).run w = .ok x w') : w'.store = w.store := by
  rw [dbUpdate, Cache.query_run] at run
  cases run
  rfl

theorem hasEntry_guards {R : World → World → Prop} (F : Frame R) (song : Value) (key : String) :
    Guards R (hasEntry song key) :=
  Guards.bind F (attributeOf_guards F _ _) fun _ => isIn_guards F _ _

theorem eventOf_guards {R : World → World → Prop} (F : Frame R) (v : Value) :
    Guards R (Events.eventOf v) :=
  Guards.bind F (eventAt_guards F _) fun _ => Guards.pure F _

theorem timestampInt_guards {R : World → World → Prop} (F : Frame R) : Guards R timestampInt :=
  Guards.bind F (Guards.bind F (Guards.bind F (Guards.get F) fun _ => Guards.pure F _)
    fun _ => Guards.pure F _) fun _ => Guards.pure F _

/-- The last step of a pass of the numbering loop: reading the entry id and recording it counts
on, and keeps the store. -/
theorem entryRecorded_run {song total : Value} {i : Int} {u u' : World}
    {r : ForInStep (Value × Int)}
    (run : (do
        let id ← entryOf song "entry_id"
        let _ ← dbUpdate [.int i, id]
        pure (ForInStep.yield (total, i + 1)) : Act (ForInStep (Value × Int))).run u = .ok r u') :
    r = .yield (total, i + 1) ∧ u'.store = u.store := by
  obtain ⟨id, u1, read, rest⟩ := run_bind_eq_ok run
  have same := entryOf_readOnly _ _ _ _ _ read
  subst u1
  obtain ⟨_, u2, updated, rest⟩ := run_bind_eq_ok rest
  obtain ⟨rfl, rfl⟩ := run_pure_eq_ok rest
  exact ⟨rfl, dbUpdate_store updated⟩

/-- The loop that numbers an election's entries, pass by pass: when each pass records its
number as the entry's position, changes no other object and counts on, the whole loop records
each entry's place in the list, counted from the start value, and changes no object outside
the list. -/
theorem forIn_positions_run {body : Value → Value × Int → Act (ForInStep (Value × Int))}
    (pass : ∀ h t i u r u', SongAt u h → (body (.ref h) (t, i)).run u = .ok r u' →
      (∃ t', r = .yield (t', i + 1)) ∧ songEntry u' (.ref h) "entry_position" = some (.int i) ∧
        Besides h u u') :
    ∀ (xs : List Value) (t : Value) (i : Int) (r : Value × Int) (u u' : World), xs.Nodup →
      (∀ x ∈ xs, ∃ h, x = .ref h ∧ SongAt u h) → (forIn xs (t, i) body).run u = .ok r u' →
      (∀ k (hk : k < xs.length), songEntry u' xs[k] "entry_position" = some (.int (i + k))) ∧
        ∀ g, (∀ x ∈ xs, x ≠ .ref g) → u'.store[g]? = u.store[g]? := by
  intro xs
  induction xs with
  | nil =>
    intro t i r u u' _ _ run
    obtain ⟨-, rfl⟩ := run_pure_eq_ok run
    exact ⟨fun k hk => absurd hk (Nat.not_lt_zero k), fun _ _ => rfl⟩
  | cons x rest ih =>
    intro t i r u u' distinct songs run
    rw [List.forIn_cons] at run
    obtain ⟨step, u1, first, later⟩ := run_bind_eq_ok run
    obtain ⟨h, rfl, atSong⟩ := songs _ List.mem_cons_self
    obtain ⟨⟨t', rfl⟩, positioned, others⟩ := pass h t i u step u1 atSong first
    obtain ⟨fresh, distinct⟩ := List.nodup_cons.1 distinct
    -- the other entries are other songs, which the pass left alone
    have songs1 : ∀ y ∈ rest, ∃ g, y = .ref g ∧ SongAt u1 g := by
      intro y mem
      obtain ⟨g, rfl, s, atSong⟩ := songs _ (List.mem_cons_of_mem _ mem)
      have other : h ≠ g := by
        rintro rfl
        exact fresh mem
      exact ⟨g, rfl, s, by rw [others g other]; exact atSong⟩
    obtain ⟨positions, kept⟩ := ih t' (i + 1) r u1 u' distinct songs1 later
    refine ⟨fun k hk => ?_, fun g away => ?_⟩
    · cases k with
      | zero =>
        have untouched := kept h fun y mem same => fresh (same ▸ mem)
        simpa [songEntry_congr untouched] using positioned
      | succ k =>
        rw [List.getElem_cons_succ, positions k (by simpa using hk)]
        congr 2
        omega
    · have other : h ≠ g := by
        rintro rfl
        exact away _ List.mem_cons_self rfl
      rw [kept g fun y mem => away y (List.mem_cons_of_mem _ mem), others g other]

/-- Starting an election that has neither played nor begun records each entry's place in the
list as its position. -/
theorem start_positions {e : Nat} {ev : Event} {songs : List Value} {w w' : World}
    (stored : w.store[e]? = some (.event ev)) (listed : ev.songs = .list songs)
    (fresh : (!ev.used.truthy && !ev.inProgress.truthy) = true) (distinct : songs.Nodup)
    (entries : ∀ s ∈ songs, ∃ h, s = .ref h ∧ SongAt w h)
    (run : (start (.ref e)).run w = .ok () w') :
    ∀ k (hk : k < songs.length), songEntry w' songs[k] "entry_position" = some (.int k) := by
  unfold start at run
  rw [run_bind_ok (eventOf_run stored)] at run
  dsimp only at run
  rw [if_pos fresh, run_bind_ok (songsOf_run stored listed)] at run
  obtain ⟨acc, w1, numbered, run⟩ := run_bind_eq_ok run
  have numbering := forIn_positions_run (fun h t i u r u' atSong pass => ?pass)
    songs _ 0 acc w w1 distinct entries numbered
  obtain ⟨positions, -⟩ := numbering
  -- what follows the numbering changes nothing but the election
  have away : Besides e w1 w' := by
    refine ((?_ : Guards (Besides e) _) w1).1 () w' run
    have F := besides_frame e
    repeat' first
      | with_reducible refine Guards.bind F ?_ fun _ => ?_
      | with_reducible refine Guards.forIn F _ _ fun _ _ => ?_
      | split
      | exact Guards.pure F _
      | exact changeEvent_besides e _
      | exact entryOf_guards F _ _
      | exact hasEntry_guards F _ _
      | exact itemOf_guards F _ _
      | exact itemsOf_guards F _
      | exact songOf_guards F _
      | exact metadataOf_guards F _
      | exact query_guards F _ _
      | exact joinsOnUpdate_guards F
      | exact timestampInt_guards F
      | exact eventOf_guards F _
  intro k hk
  obtain ⟨h, same, s, atSong⟩ := entries _ (List.getElem_mem hk)
  have other : e ≠ h := by
    rintro rfl
    rw [stored] at atSong
    cases atSong
  rw [same, songEntry_congr (away h other), ← same, positions k hk]
  simp
  case pass =>
    -- one pass records the position, reads the vote count or sets it to zero, and counts on
    obtain ⟨s, stored⟩ := atSong
    dsimp only at pass
    obtain ⟨⟨⟩, u1, positioned, rest⟩ := run_bind_eq_ok pass
    obtain ⟨stored1, others1⟩ := setData_song stored positioned
    obtain ⟨present, u2, probed, rest⟩ := run_bind_eq_ok rest
    have same := hasEntry_readOnly _ _ _ _ _ probed
    subst u2
    have recorded : songEntry u1 (.ref h) "entry_position" = some (.int i) := by
      simp [songEntry_of_stored stored1, Api.field?_putField]
    split at rest
    · obtain ⟨votes, u3, read, rest⟩ := run_bind_eq_ok rest
      have same := entryOf_readOnly _ _ _ _ _ read
      subst u3
      obtain ⟨total, u4, added, rest⟩ := run_bind_eq_ok rest
      have same := ReadOnly.lift _ _ _ _ added
      subst u4
      obtain ⟨rfl, kept⟩ := entryRecorded_run rest
      have sameSong : u'.store[h]? = u1.store[h]? := by rw [kept]
      exact ⟨⟨_, rfl⟩, by rw [songEntry_congr sameSong]; exact recorded,
        fun g other => by rw [kept]; exact others1 g other⟩
    · obtain ⟨⟨⟩, u3, zeroed, rest⟩ := run_bind_eq_ok rest
      obtain ⟨stored3, others3⟩ := setData_song stored1 zeroed
      obtain ⟨rfl, kept⟩ := entryRecorded_run rest
      refine ⟨⟨_, rfl⟩, ?_, fun g other => by rw [kept, others3 g other]; exact others1 g other⟩
      have sameSong : u'.store[h]? = u3.store[h]? := by rw [kept]
      rw [songEntry_congr sameSong, songEntry_of_stored stored3]
      simp [Api.field?_putField]

/-! ### The order an election plays in -/

/-- Preparing and then starting an election that has neither played nor begun: its entries are
then the ones it had, in an order by votes and then by entry type, most first, whenever their
data holds both as whole numbers; starting it records each entry's place in that order as its
position. -/
theorem started_in_ranked_order {e : Nat} {ev : Event} {songs : List Value} {w w1 w2 : World}
    (stored : w.store[e]? = some (.event ev)) (listed : ev.songs = .list songs)
    (fresh : (!ev.used.truthy && !ev.inProgress.truthy) = true) (distinct : songs.Nodup)
    (prepared : (prepare (.ref e)).run w = .ok () w1)
    (started : (start (.ref e)).run w1 = .ok () w2) :
    ∃ ordered : List Value, ordered.Perm songs ∧
      (∃ ev1 : Event, w1.store[e]? = some (.event ev1) ∧ ev1.songs = .list ordered) ∧
      (∀ votes type : Value → Int,
        (∀ s ∈ ordered, songEntry w1 s "entry_votes" = some (.int (votes s)) ∧
          songEntry w1 s "entry_type" = some (.int (type s))) →
        ordered.Pairwise fun a b => toLex (votes b, type b) ≤ toLex (votes a, type a)) ∧
      ∀ k (hk : k < ordered.length), songEntry w2 ordered[k] "entry_position" = some (.int k) := by
  obtain ⟨shuffle, gain, perm, stored1, songs1⟩ := prepare_run stored listed prepared
  have ranked := rankForPlay_perm (fun s => (songEntry w1 s "entry_type").getD .none)
    (fun s => (songEntry w1 s "entry_votes").getD .none) shuffle
  have whole := ranked.trans perm
  refine ⟨_, whole, ⟨_, stored1, rfl⟩, fun votes type keys => ?_, ?_⟩
  · refine rankForPlay_sorted type votes fun s mem => ?_
    obtain ⟨byVotes, byType⟩ := keys s (ranked.mem_iff.2 mem)
    simp [byVotes, byType]
  · exact start_positions stored1 rfl fresh (whole.nodup_iff.2 distinct)
      (fun s mem => songs1 s (whole.mem_iff.1 mem)) started

theorem sortByKey_eq_within (xs : List (Value × Value)) :
    sortByKey xs = mergeSortWithin (fun a b => Value.order a.2 b.2 != .gt) xs.length xs :=
  (mergeSortWithin_eq _ _ xs le_rfl).symm

/-- An entry of an election on no album, with its votes and entry type. -/
def rankedEntry (id votes type : Int) : Song where
  id := .int id
  albums := .list []
  data := Dict.ofStrings [("entry_id", .int (100 + id)), ("entry_type", .int type),
    ("entry_votes", .int votes)]

/-- An election under 0 whose entries are the songs under 1, 2 and 3: two with two votes, of
entry types 0 and 1, and one with five votes. -/
def threeEntries : World where
  store := #[.event { kind := .election, id := .int 7, songs := .list [.ref 1, .ref 2, .ref 3] },
    .song (rankedEntry 11 2 0), .song (rankedEntry 12 2 1), .song (rankedEntry 13 5 0)]
  rng := { words := #[], index := 0 }

theorem threeEntries_started_in_order :
    ∃ w1 w2, (prepare (.ref 0)).run threeEntries = .ok () w1 ∧ (start (.ref 0)).run w1 = .ok () w2 ∧
      ∃ ordered : List Value, ordered.Perm [.ref 1, .ref 2, .ref 3] ∧
        (∃ ev1 : Event, w1.store[0]? = some (.event ev1) ∧ ev1.songs = .list ordered) ∧
        (∀ votes type : Value → Int,
          (∀ s ∈ ordered, songEntry w1 s "entry_votes" = some (.int (votes s)) ∧
            songEntry w1 s "entry_type" = some (.int (type s))) →
          ordered.Pairwise fun a b => toLex (votes b, type b) ≤ toLex (votes a, type a)) ∧
        ∀ k (hk : k < ordered.length), songEntry w2 ordered[k] "entry_position" = some (.int k) := by
  -- the kernel runs the shuffle and both sorts, with the sorts in their structural form
  have prepared := run_eq_ok_of_succeeds (x := prepare (.ref 0)) (w := threeEntries) (by
    unfold succeeds prepare
    simp only [sortByKey_eq_within]
    decide +kernel)
  have started := run_eq_ok_of_succeeds (x := start (.ref 0))
    (w := worldAfter (prepare (.ref 0)) threeEntries) (by
      unfold succeeds worldAfter prepare
      simp only [sortByKey_eq_within]
      decide +kernel)
  exact ⟨_, _, prepared, started,
    started_in_ranked_order rfl rfl rfl (by simp) prepared started⟩

end Elections

end Airwaves
