import Airwaves.Proofs.ScriptedAnswers
import Airwaves.Listener.RequestLine
/-!
# How many songs a bulk request asks for

A bulk request asks for the room left, or for its limit when that is larger, so it can ask for
more songs than the allowance has room for.
-/

namespace Airwaves

theorem Value.greaterEq_int (a b : Int) : Value.greaterEq (.int a) (.int b) = decide (b ≤ a) := by
  simp only [Value.greaterEq, Value.isNaN]
  show (!false && !false && (compare a b != .lt)) = decide (b ≤ a)
  by_cases h : b ≤ a
  · simp [Int.compare_ne_lt.mpr h, h]
  · simp [Int.compare_eq_lt.mpr (Int.lt_of_not_ge h), h]

namespace Listeners

/-- The allowance of stored requests: twenty-four for a listener with perks, twelve without. -/
def allowance (perks : Value) : Int := if perks.truthy then 24 else 12

/-- The number of songs a bulk request asks the picker for, given the room left: the room when
no limit or a zero limit is given, and otherwise the larger of the room and the limit. -/
def askedFor (room : Int) : Option Int → Int
  | none => room
  | some l => if l = 0 then room else if l < room then room else l

theorem allowance_value (perks : Value) :
    (if perks.truthy then Value.int 24 else Value.int 12) = .int (allowance perks) := by
  unfold allowance
  split <;> rfl

theorem bulkLimit_run (w : World) (room : Int) (limit : Option Int) :
    (bulkLimit (.int room) (Value.ofOption (limit.map .int))).run w =
      .ok (.int (askedFor room limit)) w := by
  cases limit with
  | none => rfl
  | some l =>
    by_cases zero : l = 0
    · subst zero
      rfl
    · -- a nonzero limit is kept only when the room is not larger
      by_cases below : l < room <;>
        simp [bulkLimit, Value.ofOption, Value.truthy, zero, isGreater, Value.greater_int, askedFor, below]

section Registered

variable {w : World} {h : Nat} {u : User} {uid : Int}
  (listener : w.store[h]? = some (.user u)) (id : u.id = .int uid) (registered : 1 < uid)
include listener id registered

/-- A registered listener's count of stored requests is the next single-value answer. -/
theorem requestCount_run :
    (requestCount (.ref h) (.bool false)).run w = .ok (w.db.varAnswer 0) (w.afterCall .var [.int uid]) := by
  have named : ¬ uid ≤ 1 := by omega
  simp only [requestCount, EStateM.run_bind, Api.Ratings.listener_run listener, isAnonymous, isAtMost,
    id, Value.lessEq_int, named]
  simpa [Value.truthy] using fetchVar_run w [.int uid]

/-- The allowance check refuses a listener whose stored requests fill the allowance, and
otherwise gives the room left; either way after one count query. -/
theorem requestRoom_run {perks : Value} (hasPerks : Dict.field? u.data "perks" = some perks) {n : Int}
    (stored : w.db.varAnswer 0 = .int n) :
    (requestRoom (.ref h)).run w =
      if allowance perks ≤ n then .error (refusal "too_many_requests") (w.afterCall .var [.int uid])
      else .ok (.int (allowance perks - n)) (w.afterCall .var [.int uid]) := by
  have listener' : (w.afterCall .var [.int uid]).store[h]? = some (.user u) := listener
  simp only [requestRoom, EStateM.run_bind, requestCount_run listener id registered, stored,
    Api.Ratings.listener_run listener', Api.Ratings.dataOf_run _ hasPerks, allowance_value, isAtLeast,
    Value.greaterEq_int]
  by_cases full : allowance perks ≤ n
  · simp [full]
  · simp [full, minus, Value.sub, Value.subAs, Value.numeric, Value.number?, Act.lift]

/-- A bulk request with any song picker: refused when the allowance is full, and otherwise the
picker is asked for `askedFor` songs, which are then added. -/
theorem bulk_run (pick : Value → Value → Value → Act (List Value)) {perks : Value}
    (hasPerks : Dict.field? u.data "perks" = some perks) {n : Int} (stored : w.db.varAnswer 0 = .int n)
    (sid : Value) (limit : Option Int) :
    (do
      let asked ← bulkLimit (← requestRoom (.ref h)) (Value.ofOption (limit.map .int))
      addChosen (.ref h) sid (← pick (← userOf (.ref h)).id sid asked)).run w =
      if allowance perks ≤ n then .error (refusal "too_many_requests") (w.afterCall .var [.int uid])
      else (pick (.int uid) sid (.int (askedFor (allowance perks - n) limit)) >>= addChosen (.ref h) sid).run
        (w.afterCall .var [.int uid]) := by
  have listener' : (w.afterCall .var [.int uid]).store[h]? = some (.user u) := listener
  rw [EStateM.run_bind, requestRoom_run listener id registered hasPerks stored]
  by_cases full : allowance perks ≤ n
  · simp [full]
  · simp only [full, if_false, EStateM.run_bind, bulkLimit_run, Api.Ratings.listener_run listener', id]

end Registered

/-- Both bulk requests refuse a registered listener whose stored requests fill the allowance,
and otherwise ask their picker for the room left, or for the limit given when it is larger. -/
theorem bulkRequests_ask_room_or_limit {w : World} {h : Nat} {u : User} {uid : Int}
    (listener : w.store[h]? = some (.user u)) (id : u.id = .int uid) (registered : 1 < uid)
    {perks : Value} (hasPerks : Dict.field? u.data "perks" = some perks) {n : Int}
    (stored : w.db.varAnswer 0 = .int n) (sid : Value) (limit : Option Int) :
    (addUnrated (.ref h) sid (Value.ofOption (limit.map .int))).run w =
      (if allowance perks ≤ n then .error (refusal "too_many_requests") (w.afterCall .var [.int uid])
      else (Pool.unratedForRequesting (.int uid) sid (.int (askedFor (allowance perks - n) limit)) >>=
        addChosen (.ref h) sid).run (w.afterCall .var [.int uid])) ∧
    (addFavorites (.ref h) sid (Value.ofOption (limit.map .int))).run w =
      (if allowance perks ≤ n then .error (refusal "too_many_requests") (w.afterCall .var [.int uid])
      else (Pool.favoritesForRequesting (.int uid) sid (.int (askedFor (allowance perks - n) limit)) >>=
        addChosen (.ref h) sid).run (w.afterCall .var [.int uid])) :=
  ⟨bulk_run listener id registered Pool.unratedForRequesting hasPerks stored sid limit,
    bulk_run listener id registered Pool.favoritesForRequesting hasPerks stored sid limit⟩

/-- A registered listener without perks or stored requests. -/
def roomyListener : User := { id := .int 2, data := Dict.ofStrings [("perks", .bool false)] }

/-- A world holding that listener, where the count of stored requests comes back zero. -/
def roomyDesk : World := { store := #[.user roomyListener], db := { queues := { var := [.int 0] } } }

/-- With all twelve places free, a limit of a hundred asks the unrated-song picker for a hundred
songs. -/
theorem hundredLimit_asks_hundred :
    roomyDesk.store[0]? = some (.user roomyListener) ∧ roomyListener.id = .int 2 ∧ (1 : Int) < 2 ∧
    Dict.field? roomyListener.data "perks" = some (.bool false) ∧ roomyDesk.db.varAnswer 0 = .int 0 ∧
    (addUnrated (.ref 0) (.int 1) (.int 100)).run roomyDesk =
      (Pool.unratedForRequesting (.int 2) (.int 1) (.int 100) >>= addChosen (.ref 0) (.int 1)).run
        (roomyDesk.afterCall .var [.int 2]) := by
  have listener : roomyDesk.store[0]? = some (.user roomyListener) := rfl
  have id : roomyListener.id = .int 2 := rfl
  have perks : Dict.field? roomyListener.data "perks" = some (.bool false) := rfl
  have stored : roomyDesk.db.varAnswer 0 = .int 0 := rfl
  refine ⟨listener, id, by decide, perks, stored, ?_⟩
  simpa [allowance, askedFor, Value.truthy, Value.ofOption] using
    (bulkRequests_ask_room_or_limit listener id (by decide) perks stored (.int 1) (some 100)).1

end Listeners

end Airwaves
