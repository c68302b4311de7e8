import Airwaves.Value.RunSort
import Mathlib.Data.List.Chain
import Mathlib.Tactic.Common
/-!
# Sorting the backlog

The sort of a held backlog returns the messages that are not requests, latest first, then the
requests, latest first (`sort_lastOrder`).
-/
namespace Airwaves.RunSort

variable {α : Type} (late : α → Bool)

/-- Everything goes before everything, except that a late item does not go before one that
is not late. -/
def lastOrder (x y : α) : Bool := !(late x && !late y)

/-- The items that are not late, latest first, then the late ones, latest first. -/
def latestFirst (xs : List α) : List α :=
  (xs.filter (fun x => !late x)).reverse ++ (xs.filter late).reverse

variable {late}

theorem mem_latestFirst {x : α} {xs : List α} : x ∈ latestFirst late xs ↔ x ∈ xs := by
  cases h : late x <;> simp [latestFirst, h]

/-- Ordering items by a label gives the same list as ordering the labelled items. -/
theorem latestFirst_map {β : Type} (f : β → α) (xs : List β) :
    latestFirst late (xs.map f) = (latestFirst (fun x => late (f x)) xs).map f := by
  simp [latestFirst, List.filter_map, List.map_reverse, Function.comp_def]

/-- Keeping only some items commutes with ordering them. -/
theorem latestFirst_filter (p : α → Bool) (xs : List α) :
    (latestFirst late xs).filter p = latestFirst late (xs.filter p) := by
  simp only [latestFirst, List.filter_append, List.filter_reverse, List.filter_filter, Bool.and_comm]

/-- With no late item the order is the reverse of the list. -/
theorem latestFirst_of_none_late {xs : List α} (none : ∀ x ∈ xs, late x = false) :
    latestFirst late xs = xs.reverse := by
  have early : xs.filter (fun x => !late x) = xs := List.filter_eq_self.mpr (by simpa using none)
  have lates : xs.filter late = [] := List.filter_eq_nil_iff.mpr (by simpa using none)
  simp [latestFirst, early, lates]

/-- With only late items the order is the reverse of the list. -/
theorem latestFirst_of_all_late {xs : List α} (all : ∀ x ∈ xs, late x = true) :
    latestFirst late xs = xs.reverse := by
  have early : xs.filter (fun x => !late x) = [] := List.filter_eq_nil_iff.mpr (by simpa using all)
  have lates : xs.filter late = xs := List.filter_eq_self.mpr all
  simp [latestFirst, early, lates]

/-- The first item is the latest one that is not late, when there is one. -/
theorem headD_latestFirst {xs : List α} {x : α} (d : α)
    (latest : (xs.filter fun x => !late x).getLast? = some x) :
    (latestFirst late xs).headD d = x := by
  have front : (xs.filter fun x => !late x).reverse.head? = some x := by
    rw [List.head?_reverse, latest]
  obtain ⟨t, ht⟩ := List.head?_eq_some_iff.mp front
  simp [latestFirst, ht]

/-! ## Binary insertion -/

/-- Binary search finds the boundary of an array whose items the pivot is less than from
`k` on, whatever the bounds it starts from around `k`. -/
theorem searchFrom_boundary {lt : α → α → Bool} {s : Array α} {pivot : α} {k : Nat}
    (hk : ∀ i < s.size, lt pivot (s.getD i pivot) = decide (k ≤ i)) (l r : Nat)
    (hl : l ≤ k) (hr : k ≤ r) (size : r ≤ s.size) : searchFrom lt s pivot l r = k := by
  fun_induction searchFrom lt s pivot l r with
  | case1 l r hlr p below ih =>
    -- the pivot is less than the probe, so the probe is at or past `k`
    have probe := hk p (by omega)
    rw [below] at probe
    exact ih hl (by simpa using probe) (by omega)
  | case2 l r hlr p above ih =>
    -- the pivot is not less than the probe, so `k` lies past it
    have probe := hk p (by omega)
    rw [Bool.not_eq_true] at above
    rw [above] at probe
    have past : ¬ k ≤ p := by simpa using probe
    exact ih (by omega) hr size
  | case3 l r hlr => omega

/-- In `latestFirst` the late items start right after the ones that are not late. -/
theorem late_getD_latestFirst (P : List α) (d : α) {i : Nat}
    (hi : i < (latestFirst late P).length) :
    late ((latestFirst late P).getD i d) = decide ((P.filter (fun x => !late x)).length ≤ i) := by
  unfold latestFirst at hi ⊢
  rw [List.getD_eq_getElem?_getD, List.getElem?_eq_getElem hi, Option.getD_some]
  by_cases front : i < (P.filter (fun x => !late x)).reverse.length
  · have mem := List.getElem_mem front
    rw [List.mem_reverse, List.mem_filter] at mem
    rw [List.getElem_append_left front]
    simp only [List.length_reverse] at front
    simpa [Nat.not_le.mpr front] using mem.2
  · have back : i - (P.filter (fun x => !late x)).reverse.length < (P.filter late).reverse.length := by
      simp only [List.length_append] at hi
      omega
    have mem := List.getElem_mem back
    rw [List.mem_reverse, List.mem_filter] at mem
    rw [List.getElem_append_right (Nat.not_lt.mp front)]
    simp only [List.length_reverse] at front
    simpa [Nat.not_lt.mp front] using mem.2

/-- Inserting an item into `latestFirst P` puts it at the front of its own side. -/
theorem binaryInsert_latestFirst (P : List α) (x : α) :
    binaryInsert (lastOrder late) (latestFirst late P).toArray x =
      (latestFirst late (P ++ [x])).toArray := by
  set N := (P.filter (fun x => !late x)).reverse
  set R := (P.filter late).reverse
  have split : latestFirst late P = N ++ R := rfl
  unfold binaryInsert
  dsimp only
  cases hx : late x
  · -- the pivot is less than every item: it goes in front
    have search : searchFrom (lastOrder late) (latestFirst late P).toArray x 0
        (latestFirst late P).toArray.size = 0 := by
      refine searchFrom_boundary (fun i _ => ?_) _ _ (Nat.le_refl _) (Nat.zero_le _) (Nat.le_refl _)
      simp [lastOrder, hx]
    rw [search, List.take_zero, List.drop_zero, List.nil_append]
    simp [latestFirst, hx]
  · -- the pivot is less than exactly the late items: it goes where they start
    have search : searchFrom (lastOrder late) (latestFirst late P).toArray x 0
        (latestFirst late P).toArray.size = N.length := by
      refine searchFrom_boundary (fun i hi => ?_) _ _ (Nat.zero_le _) ?_ (Nat.le_refl _)
      · have side := late_getD_latestFirst P x (by simpa using hi)
        simp only [List.getD_eq_getElem?_getD] at side
        simp [lastOrder, hx, side, N]
      · simp [split]
    rw [search, split, List.take_left' rfl, List.drop_left' rfl]
    simp [latestFirst, hx, N, R]

/-- Binary insertion of one item after another keeps the two sides, latest first. -/
theorem foldl_binaryInsert (P rest : List α) :
    (rest.foldl (binaryInsert (lastOrder late)) (latestFirst late P).toArray).toList =
      latestFirst late (P ++ rest) := by
  induction rest generalizing P with
  | nil => simp
  | cons x rest ih =>
    rw [List.foldl_cons, binaryInsert_latestFirst, ih]
    simp

/-! ## The leading run -/

/-- A strictly falling leading run never has a late item right after one that is not. -/
theorem chain_take_falling (prev : α) (xs : List α) :
    List.IsChain (fun u v => lastOrder late v u = true)
      (prev :: xs.take (fallingLength (lastOrder late) prev xs)) := by
  induction xs generalizing prev with
  | nil => exact .singleton prev
  | cons x xs ih =>
    unfold fallingLength
    split
    next falls => exact .cons_cons falls (ih x)
    next => exact .singleton prev

/-- Once an item is not late, nothing after it in such a chain is late. -/
theorem chain_not_late {u : α} {t : List α} (hu : late u = false)
    (chain : List.IsChain (fun u v => lastOrder late v u = true) (u :: t)) :
    t.filter late = [] := by
  induction t generalizing u with
  | nil => rfl
  | cons v t ih =>
    have step := List.isChain_cons_cons.mp chain
    have hv : late v = false := by simpa [lastOrder, hu] using step.1
    simp [hv, ih hv step.2]

/-- Reversed, a chain that never has a late item right after one that is not lists the
items that are not late, latest first, then the late ones. -/
theorem chain_reverse {t : List α} (chain : List.IsChain (fun u v => lastOrder late v u = true) t) :
    t.reverse = latestFirst late t := by
  induction t with
  | nil => rfl
  | cons u t ih =>
    have rest := ih chain.tail
    cases hu : late u
    · -- nothing after an item that is not late is late: the whole chain is early
      have early : ∀ x ∈ u :: t, late x = false := by
        intro x mem
        rcases List.mem_cons.mp mem with rfl | later
        · exact hu
        · simpa using List.filter_eq_nil_iff.mp (chain_not_late hu chain) x later
      exact (latestFirst_of_none_late early).symm
    · simp [List.reverse_cons, rest, latestFirst, hu]

/-- The leading run, as the sort takes it, already lists its items in the order
`latestFirst` gives them. -/
theorem leadingRun_latestFirst (xs : List α) :
    (if (leadingRun (lastOrder late) xs).2 then
        (xs.take (leadingRun (lastOrder late) xs).1).reverse
      else xs.take (leadingRun (lastOrder late) xs).1) =
      latestFirst late (xs.take (leadingRun (lastOrder late) xs).1) := by
  match xs with
  | [] => rfl
  | [a] => cases h : late a <;> simp [leadingRun, latestFirst, h]
  | a :: b :: rest =>
    by_cases falls : lastOrder late b a = true
    · simp only [leadingRun, falls, ite_true, List.take_succ_cons]
      exact chain_reverse (.cons_cons falls (chain_take_falling b rest))
    · simp only [leadingRun, falls]
      -- only a late item after one that is not rises; nothing rises after a late item
      have hb : late b = true ∧ late a = false := by
        simpa [lastOrder] using falls
      have stop : risingLength (lastOrder late) b rest = 0 := by
        cases rest with
        | nil => rfl
        | cons c rest => simp [risingLength, lastOrder, hb.1]
      simp [stop, latestFirst, hb.1, hb.2]

/-- Sorted by `lastOrder`, a list comes out as `latestFirst` gives it: the sort reverses
the order of the items on each side. -/
theorem sort_lastOrder (xs : List α) : sort (lastOrder late) xs = latestFirst late xs := by
  unfold sort
  dsimp only
  rw [leadingRun_latestFirst, foldl_binaryInsert, List.take_append_drop]

end Airwaves.RunSort
