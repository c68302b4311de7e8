import Airwaves.Proofs.FaveCount
import Airwaves.Proofs.PowerHourRecovery
/-!
# Moving a song of a power hour one place up

Moving an entry up writes list indices as stored numbers; the pair trades places exactly when
those numbers fit between their neighbours.
-/

namespace Airwaves.Producers

/-- The writes one pass of the move makes at list index `i`: when the entry is the one to move
and the entry before it is a real one, the index less one for the entry and the index for its
predecessor. -/
def stepWrites (x : Value) (i : Int) (previous oid : Value) : List (Int × Value) :=
  if Value.equals oid x && previous.truthy then [(i - 1, x), (i, previous)] else []

/-- The writes of the whole move over the entries from list index `i`, after `previous`. -/
def moveWrites (x : Value) : Int → Value → List Value → List (Int × Value)
  | _, _, [] => []
  | i, previous, oid :: rest => stepWrites x i previous oid ++ moveWrites x (i + 1) oid rest

/-- The update that stores an order number for an entry. -/
def orderUpdate (write : Int × Value) : QueryKind × List Value := (.update, [.int write.1, write.2])

/-- The stored order numbers after a write, for entries with integer ids. -/
def setOrder (ord : Int → Int) : Int × Value → Int → Int
  | (k, .int id) => Function.update ord id k
  | _ => ord

/-- The stored order numbers after writes made in turn. -/
def reorder (ord : Int → Int) (writes : List (Int × Value)) : Int → Int := writes.foldl setOrder ord

/-! ### The run -/

/-- A loop whose every pass at index `i` after `previous` makes the writes of `stepWrites` and
goes on at the next index after the entry makes the writes of `moveWrites`, and so does what follows
it when that changes nothing. -/
theorem forIn_moveWrites_bind {β : Type} {x : Value} {f : Value → Int × Value → Act (ForInStep (Int × Value))}
    {k : Int × Value → Act β} {b : β}
    (step : ∀ oid s w, (f oid s).run w =
      .ok (.yield (s.1 + 1, oid)) { w with db := w.db.runAll ((stepWrites x s.1 s.2 oid).map orderUpdate) })
    (rest : ∀ s w, (k s).run w = .ok b w) (ids : List Value) :
    ∀ i previous w, ((forIn ids (i, previous) f) >>= k).run w =
      .ok b { w with db := w.db.runAll ((moveWrites x i previous ids).map orderUpdate) } := by
  induction ids with
  | nil => intro i previous w; exact rest (i, previous) w
  | cons oid more ih =>
    intro i previous w
    rw [List.forIn_cons, bind_assoc, run_bind_ok (step oid (i, previous) w)]
    simpa [moveWrites, Database.runAll_append] using ih (i + 1) oid _

/-- Moving an entry up reads the entries of the power hour and makes the writes of `moveWrites`
over them, from index 0 with no entry before the first. -/
theorem moveSongUp_run {w : World} {h : Nat} {p : Producer} {ids : List Value} (x : Value)
    (block : w.store[h]? = some (.producer p)) (listed : (w.db.call .list (some [p.id]) "").1 = .list ids) :
    (moveSongUp (.ref h) x).run w =
      .ok () { w with db := w.db.runAll ((.list, [p.id]) :: (moveWrites x 0 (.bool false) ids).map orderUpdate) } := by
  have fetched : (fetchList [p.id]).run w = .ok (.list ids) (w.afterCall .list [p.id]) := by
    rw [fetchList, Cache.query_run, listed]
    rfl
  unfold moveSongUp
  rw [run_bind_ok (producerOf_run block), run_bind_ok fetched, run_bind_ok (itemsOf_list_run ids _)]
  dsimp only
  refine (forIn_moveWrites_bind ?step ?rest ids 0 (.bool false) _).trans rfl
  case step =>
    intro oid s w
    unfold stepWrites
    split <;> rfl
  case rest => exact fun _ _ => rfl

/-! ### The writes over entries with integer ids -/

section Writes

variable {m : Int} {i : Int} {previous : Value}

theorem stepWrites_other {n : Int} (ne : n ≠ m) : stepWrites (.int m) i previous (.int n) = [] := by
  simp [stepWrites, Value.equals, ne]

/-- An entry not in the power hour makes no write. -/
theorem moveWrites_absent {ns : List Int} (absent : m ∉ ns) :
    moveWrites (.int m) i previous (ns.map .int) = [] := by
  induction ns generalizing i previous with
  | nil => rfl
  | cons n ns ih =>
    rw [List.mem_cons, not_or] at absent
    simp [moveWrites, stepWrites_other (Ne.symm absent.1), ih absent.2]

/-- The first entry has no predecessor and makes no write. -/
theorem moveWrites_first {rest : List Int} (once : m ∉ rest) :
    moveWrites (.int m) i (.bool false) ((m :: rest).map .int) = [] := by
  simp [moveWrites, stepWrites, Value.truthy, moveWrites_absent once]

/-- An entry with a real predecessor `a` at list index `i + pre.length + 1` takes the index less
one, and `a` takes the index. -/
theorem moveWrites_pair (pre post : List Int) {a : Int} (distinct : (pre ++ a :: m :: post).Nodup)
    (real : a ≠ 0) :
    moveWrites (.int m) i previous ((pre ++ a :: m :: post).map .int) =
      [(i + pre.length, .int m), (i + pre.length + 1, .int a)] := by
  induction pre generalizing i previous with
  | nil =>
    have apart : a ≠ m ∧ m ∉ post := by simp_all
    simp only [List.nil_append, List.map_cons, moveWrites, stepWrites_other apart.1,
      moveWrites_absent apart.2]
    simp [stepWrites, Value.equals, Value.truthy, real]
  | cons b pre ih =>
    have other : b ≠ m := by
      intro same
      simp_all
    rw [List.cons_append, List.nodup_cons] at distinct
    simp only [List.cons_append, List.map_cons, moveWrites, stepWrites_other other, ih distinct.2,
      List.length_cons, List.nil_append]
    simp only [List.cons.injEq, Prod.mk.injEq, and_true]
    omega

end Writes

/-! ### The stored order after the move -/

section Order

variable (ord : Int → Int)

theorem reorder_pair (k : Int) (m a : Int) :
    reorder ord [(k, .int m), (k + 1, .int a)] = Function.update (Function.update ord m k) a (k + 1) := rfl

/-- With the pair's two numbers written over a strictly sorted list of distinct entries, the list
with the pair swapped is strictly sorted exactly when every entry before the pair stores less than
the first number and every entry after it more than the second. -/
theorem swapped_sorted_iff (pre post : List Int) {a m : Int} (k : Int)
    (distinct : (pre ++ a :: m :: post).Nodup) (sorted : (pre ++ a :: m :: post).Pairwise (ord · < ord ·)) :
    (pre ++ m :: a :: post).Pairwise (Function.update (Function.update ord m k) a (k + 1) · <
        Function.update (Function.update ord m k) a (k + 1) ·) ↔
      (∀ b ∈ pre, ord b < k) ∧ ∀ c ∈ post, k + 1 < ord c := by
  set ord' := Function.update (Function.update ord m k) a (k + 1)
  have apart : a ≠ m ∧ (a ∉ pre ∧ m ∉ pre) ∧ (a ∉ post ∧ m ∉ post) := by
    simp only [List.nodup_append, List.nodup_cons, List.mem_cons] at distinct
    refine ⟨fun same => distinct.2.1.1 (Or.inl same), ?_, ?_⟩
    · exact ⟨fun mem => distinct.2.2 a mem a (.inl rfl) rfl, fun mem => distinct.2.2 m mem m (.inr (.inl rfl)) rfl⟩
    · exact ⟨fun mem => distinct.2.1.1 (.inr mem), distinct.2.1.2.1⟩
  have kept : ∀ b, b ≠ a → b ≠ m → ord' b = ord b := by
    intro b ne_a ne_m
    simp [ord', Function.update_of_ne ne_a, Function.update_of_ne ne_m]
  have at_m : ord' m = k := by simp [ord', Function.update_of_ne apart.1.symm]
  have at_a : ord' a = k + 1 := by simp [ord']
  have keptPre : ∀ b ∈ pre, ord' b = ord b := fun b mem =>
    kept b (fun same => apart.2.1.1 (same ▸ mem)) (fun same => apart.2.1.2 (same ▸ mem))
  have keptPost : ∀ c ∈ post, ord' c = ord c := fun c mem =>
    kept c (fun same => apart.2.2.1 (same ▸ mem)) (fun same => apart.2.2.2 (same ▸ mem))
  simp only [List.pairwise_append, List.pairwise_cons, List.mem_cons] at sorted
  obtain ⟨sortedPre, ⟨-, -, sortedPost⟩, across⟩ := sorted
  have samePre : pre.Pairwise (ord' · < ord' ·) ↔ pre.Pairwise (ord · < ord ·) :=
    List.Pairwise.iff_of_mem fun hb hc => by rw [keptPre _ hb, keptPre _ hc]
  have samePost : post.Pairwise (ord' · < ord' ·) ↔ post.Pairwise (ord · < ord ·) :=
    List.Pairwise.iff_of_mem fun hb hc => by rw [keptPost _ hb, keptPost _ hc]
  simp only [List.pairwise_append, List.pairwise_cons, List.mem_cons, samePre, samePost, sortedPre,
    sortedPost, true_and, and_true]
  constructor
  · rintro ⟨⟨-, afterA⟩, beforeM⟩
    refine ⟨fun b mem => ?_, fun c mem => ?_⟩
    · simpa [keptPre b mem, at_m] using beforeM b mem m (.inl rfl)
    · simpa [keptPost c mem, at_a] using afterA c mem
  · rintro ⟨below, above⟩
    refine ⟨⟨fun y mem => ?_, fun c mem => ?_⟩, fun b memB y mem => ?_⟩
    · rcases mem with rfl | mem
      · omega
      · rw [at_m, keptPost y mem]
        have := above y mem
        omega
    · rw [at_a, keptPost c mem]
      exact above c mem
    · rw [keptPre b memB]
      have := below b memB
      rcases mem with rfl | rfl | mem
      · omega
      · omega
      · rw [keptPost y mem]
        have := above y mem
        omega

/-- When every entry stores its own list place, the two numbers written always fit: the pair
trades places. -/
theorem swapped_sorted_of_places (pre post : List Int) {a m : Int} (distinct : (pre ++ a :: m :: post).Nodup)
    (places : ∀ j (hj : j < (pre ++ a :: m :: post).length), ord (pre ++ a :: m :: post)[j] = j) :
    (pre ++ m :: a :: post).Pairwise (Function.update (Function.update ord m pre.length) a (pre.length + 1) · <
      Function.update (Function.update ord m pre.length) a (pre.length + 1) ·) := by
  have sorted : (pre ++ a :: m :: post).Pairwise (ord · < ord ·) :=
    List.pairwise_iff_getElem.mpr fun i j hi hj lt => by
      rw [places i hi, places j hj]
      exact_mod_cast lt
  refine (swapped_sorted_iff ord pre post pre.length distinct sorted).mpr ⟨fun b mem => ?_, fun c mem => ?_⟩
  · obtain ⟨j, hj, rfl⟩ := List.mem_iff_getElem.mp mem
    have stored := places j (by simp; omega)
    rw [List.getElem_append_left hj] at stored
    rw [stored]
    exact_mod_cast hj
  · -- the `j`-th entry after the pair stands at place `pre.length + (j + 2)`
    obtain ⟨j, hj, rfl⟩ := List.mem_iff_getElem.mp mem
    have stored := places (pre.length + (j + 2)) (by simp; omega)
    rw [List.getElem_append_right (by omega)] at stored
    simp only [Nat.add_sub_cancel_left, List.getElem_cons_succ] at stored
    rw [stored]
    push_cast
    omega

end Order

/-! ### The move -/

/-- Moving entry `m` of a power hour whose entries the database lists by their stored numbers
makes writes that, with their read, are all it does. When `m` follows an entry `a`, the two take the
list place of `a` and the one after it, every other entry keeps its number, and `m` and `a` trade
places in the stored order exactly when those places fit between the numbers of the entries
around them. When `m` is first or not listed, nothing is written. -/
theorem moveSongUp_reorders {w : World} {h : Nat} {p : Producer} {ns : List Int} (m : Int) (ord : Int → Int)
    (block : w.store[h]? = some (.producer p))
    (listed : (w.db.call .list (some [p.id]) "").1 = .list (ns.map .int))
    (real : ∀ n ∈ ns, n ≠ 0) (distinct : ns.Nodup) (sorted : ns.Pairwise (ord · < ord ·)) :
    ∃ writes, (moveSongUp (.ref h) (.int m)).run w =
        .ok () { w with db := w.db.runAll ((.list, [p.id]) :: writes.map orderUpdate) } ∧
      (∀ pre a post, ns = pre ++ a :: m :: post →
        reorder ord writes = Function.update (Function.update ord m pre.length) a (pre.length + 1) ∧
        ((pre ++ m :: a :: post).Pairwise (reorder ord writes · < reorder ord writes ·) ↔
          (∀ b ∈ pre, ord b < pre.length) ∧ ∀ c ∈ post, pre.length + 1 < ord c)) ∧
      (m ∉ ns ∨ ns.head? = some m → writes = []) := by
  refine ⟨_, moveSongUp_run (.int m) block listed, ?_, ?_⟩
  · rintro pre a post rfl
    have stored : reorder ord (moveWrites (.int m) 0 (.bool false) ((pre ++ a :: m :: post).map .int)) =
        Function.update (Function.update ord m pre.length) a (pre.length + 1) := by
      rw [moveWrites_pair pre post distinct (real a (by simp)), Int.zero_add, reorder_pair]
    rw [stored]
    exact ⟨rfl, swapped_sorted_iff ord pre post _ distinct sorted⟩
  · rintro (absent | first)
    · exact moveWrites_absent absent
    · -- the first entry is `m`, and the entries are distinct
      cases ns with
      | nil => cases first
      | cons n rest =>
        obtain rfl : n = m := by simpa using first
        exact moveWrites_first (List.nodup_cons.mp distinct).1

/-- A power hour, block five, whose entries 7, 8 and 9 store the numbers 10, 20 and 30. -/
def spacedPowerHour : World :=
  { store := #[.producer powerHourBlock], db := { queues := { list := [.list [.int 7, .int 8, .int 9]] } } }

/-- The numbers `spacedPowerHour` stores for its entries: 10, 20 and 30 for entries 7, 8 and 9. -/
def spacedOrder (n : Int) : Int := 10 * (n - 6)

/-- Moving entry 9 up gives it place 1 and entry 8 place 2, so the entries no longer stand in
stored order: entry 7 keeps 10, above entry 9. -/
theorem spacedEntry_moved_past :
    ∃ writes, (moveSongUp (.ref 0) (.int 9)).run spacedPowerHour =
        .ok () { spacedPowerHour with
          db := spacedPowerHour.db.runAll ((.list, [powerHourBlock.id]) :: writes.map orderUpdate) } ∧
      reorder spacedOrder writes = Function.update (Function.update spacedOrder 9 1) 8 2 ∧
      ¬ [7, 9, 8].Pairwise (reorder spacedOrder writes · < reorder spacedOrder writes ·) := by
  obtain ⟨writes, run, moved, -⟩ := @moveSongUp_reorders spacedPowerHour 0 powerHourBlock [7, 8, 9] 9
    spacedOrder rfl rfl (by decide) (by decide) (by decide)
  obtain ⟨stored, ordered⟩ := moved [7] 8 [] rfl
  refine ⟨writes, run, stored, fun sorted => ?_⟩
  -- entry 7 keeps 10, which is not below the place 1 entry 9 takes
  have below := (ordered.mp sorted).1 7 (List.mem_singleton_self 7)
  simp [spacedOrder] at below

/-- The writes are list places: entry 9 is written 1 and entry 8 is written 2, where trading their
stored numbers would write 30 for entry 8 and 20 for entry 9. -/
theorem spacedEntry_written_places :
    (moveSongUp (.ref 0) (.int 9)).run spacedPowerHour =
      .ok () { spacedPowerHour with db := spacedPowerHour.db.runAll ([(.list, [powerHourBlock.id]),
        orderUpdate (1, .int 9), orderUpdate (2, .int 8)]) } :=
  (@moveSongUp_run spacedPowerHour 0 powerHourBlock [.int 7, .int 8, .int 9] (.int 9) rfl rfl).trans rfl

end Airwaves.Producers
