import Airwaves.Proofs.Actions
import Airwaves.Live.Bank
/-!
# The listener index of a session bank

Removing a connection looks for the connection among the index's keys, which are listener ids,
so along any run of a bank each listener's list of connections only grows.
-/

namespace Airwaves.Live

/-! ### The index and its shape -/

/-- The listener index of the bank under a handle; empty when the handle holds no bank. -/
def indexOf (w : World) (hb : Nat) : Dict :=
  match w.store[hb]? with
  | some (.bank b) => b.websocketsByUser
  | _ => []

/-- Every key is a whole number, as listener ids are. -/
def IntKeyed (d : Dict) : Prop := ∀ e ∈ d, ∃ n : Int, e.1 = .int n

/-- Every key maps to a list that is not empty. -/
def Filled (d : Dict) : Prop := ∀ e ∈ d, ∃ x xs, e.2 = .list (x :: xs)

/-- Each listener's list in `d` is a prefix of its list in `d'`. -/
def Grows (d d' : Dict) : Prop :=
  ∀ (n : Int) (xs : List Value), Dict.lookup? d (.int n) = some (.list xs) →
    ∃ ys, Dict.lookup? d' (.int n) = some (.list (xs ++ ys))

/-- Every listener in the store has a whole-number id. -/
def ListenerIdsWhole (w : World) : Prop :=
  ∀ (h : Nat) (u : User), w.store[h]? = some (Obj.user u) → ∃ n : Int, u.id = Value.int n

/-- The connections filed under a key: none for a new key; nothing when the key holds
something other than a list. -/
def filedList (d : Dict) (id : Value) : Option (List Value) :=
  match Dict.lookup? d id with
  | none => some []
  | some (.list xs) => some xs
  | some _ => none

/-- The index after a connection is filed under a key: the key's list gains it at its end. -/
def fileSession (d : Dict) (id s : Value) : Option Dict :=
  (filedList d id).map fun xs => Dict.put d id (.list (xs ++ [s]))

theorem grows_refl (d : Dict) : Grows d d :=
  fun _ xs h => ⟨[], by simpa using h⟩

theorem grows_trans {d₁ d₂ d₃ : Dict} (h₁ : Grows d₁ d₂) (h₂ : Grows d₂ d₃) : Grows d₁ d₃ := by
  intro n xs found
  obtain ⟨ys, found₂⟩ := h₁ n xs found
  obtain ⟨zs, found₃⟩ := h₂ n (xs ++ ys) found₂
  exact ⟨ys ++ zs, by simpa using found₃⟩

/-! ### Whole-number keys -/

@[simp] theorem equals_int_int (a b : Int) : Value.equals (.int a) (.int b) = decide (a = b) := by
  simp only [Value.equals]
  by_cases h : a = b <;> simp [h]

@[simp] theorem equals_int_ref (a : Int) (h : Nat) : Value.equals (.int a) (.ref h) = false := by
  simp [Value.equals]

/-- The entry under each key after every entry of key `m` is given the value `v`. -/
theorem lookup?_map_replace (d : Dict) (hk : IntKeyed d) (m n : Int) (v : Value) :
    Dict.lookup? (d.map fun e => if Value.equals e.1 (.int m) then (e.1, v) else e) (.int n) =
      if m = n then (Dict.lookup? d (.int n)).map fun _ => v else Dict.lookup? d (.int n) := by
  induction d with
  | nil => simp [Dict.lookup?_nil]
  | cons e rest ih =>
    have rest_keyed : IntKeyed rest := fun e' mem => hk e' (by simp [mem])
    obtain ⟨k, hk₀⟩ := hk e (by simp)
    obtain ⟨key, x⟩ := e
    subst hk₀
    have ih' := ih rest_keyed
    -- the head entry is replaced when its key is `m`, and found when its key is `n`
    by_cases km : k = m
    · subst km
      by_cases kn : k = n
      · subst kn
        simp [Dict.lookup?_cons]
      · simp [Dict.lookup?_cons, kn, ih']
    · by_cases kn : k = n
      · subst kn
        simp [Dict.lookup?_cons, km, Ne.symm km]
      · simp [Dict.lookup?_cons, km, kn, ih']

/-- Under whole keys, setting a key is a function update. -/
theorem lookup?_put_int {d : Dict} (hk : IntKeyed d) (m n : Int) (v : Value) :
    Dict.lookup? (Dict.put d (.int m) v) (.int n) =
      if m = n then some v else Dict.lookup? d (.int n) := by
  unfold Dict.put
  split
  · rename_i has
    rw [lookup?_map_replace d hk]
    by_cases mn : m = n
    · subst mn
      obtain ⟨x, hx⟩ := Option.isSome_iff_exists.mp has
      simp [hx]
    · simp [mn]
  · rename_i absent
    have none_m : Dict.lookup? d (.int m) = none := by
      simpa [Dict.hasKey] using absent
    rw [Dict.lookup?_append]
    by_cases mn : m = n
    · subst mn
      simp [none_m, Dict.lookup?_cons]
    · simp [mn, Dict.lookup?_cons, Dict.lookup?_nil]

theorem intKeyed_put {d : Dict} (hk : IntKeyed d) (m : Int) (v : Value) :
    IntKeyed (Dict.put d (.int m) v) := by
  unfold Dict.put
  split
  · intro e mem
    obtain ⟨e₀, mem₀, rfl⟩ := List.mem_map.mp mem
    obtain ⟨k, hk₀⟩ := hk e₀ mem₀
    split <;> exact ⟨k, hk₀⟩
  · intro e mem
    rcases List.mem_append.mp mem with mem | mem
    · exact hk e mem
    · exact ⟨m, by simp_all⟩

theorem filled_put {d : Dict} (hf : Filled d) (k : Value) (x : Value) (xs : List Value) :
    Filled (Dict.put d k (.list (x :: xs))) := by
  unfold Dict.put
  split
  · intro e mem
    obtain ⟨e₀, mem₀, rfl⟩ := List.mem_map.mp mem
    split
    · exact ⟨x, xs, rfl⟩
    · exact hf e₀ mem₀
  · intro e mem
    rcases List.mem_append.mp mem with mem | mem
    · exact hf e mem
    · exact ⟨x, xs, by simp_all⟩

/-- Filing under a whole id keeps the keys whole and the lists filled, and only grows the
listener's list, by the filed connection. -/
theorem fileSession_spec {d d' : Dict} {m : Int} {s : Value} (hk : IntKeyed d)
    (filed : fileSession d (.int m) s = some d') :
    IntKeyed d' ∧ Grows d d' ∧ (Filled d → Filled d') := by
  obtain ⟨xs, listed, rfl⟩ := Option.map_eq_some_iff.mp filed
  refine ⟨intKeyed_put hk m _, ?_, fun hf => ?_⟩
  · intro n ys found
    rw [lookup?_put_int hk]
    by_cases mn : m = n
    · subst mn
      have same : xs = ys := by
        simp only [filedList, found] at listed
        exact (Option.some.inj listed).symm
      exact ⟨[s], by simp [same]⟩
    · exact ⟨[], by simp [mn, found]⟩
  · cases xs with
    | nil => exact filled_put hf _ s []
    | cons x rest => exact filled_put hf _ x (rest ++ [s])

/-! ### The bank in the store -/

theorem indexOf_of_bank {w : World} {hb : Nat} {b : SessionBank}
    (hbank : w.store[hb]? = some (.bank b)) : indexOf w hb = b.websocketsByUser := by
  simp [indexOf, hbank]

theorem indexOf_set_bank {w : World} {hb : Nat} {b b' : SessionBank}
    (hbank : w.store[hb]? = some (.bank b)) :
    indexOf { w with store := w.store.set! hb (.bank b') } hb = b'.websocketsByUser := by
  have inside : hb < w.store.size := (Array.getElem?_eq_some_iff.mp hbank).1
  simp [indexOf, Array.set!_eq_setIfInBounds, inside]

theorem bankAt_run {w w' : World} {hb : Nat} {r : Nat × SessionBank}
    (run : (bankAt (.ref hb)).run w = .ok r w') :
    w' = w ∧ r.1 = hb ∧ w.store[hb]? = some (.bank r.2) := by
  simp only [bankAt] at run
  obtain ⟨o, w1, read, rest⟩ := run_bind_eq_ok run
  obtain ⟨rfl, stored⟩ := deref_run_inv read
  split at rest
  · obtain ⟨rfl, rfl⟩ := run_pure_eq_ok rest
    exact ⟨rfl, rfl, stored⟩
  · exact absurd rest (noMember_fails _ _ _ _ _)

theorem bankAt_readOnly (v : Value) : ReadOnly (bankAt v) := by
  unfold bankAt
  split
  · refine (deref_readOnly _).bind fun o => ?_
    split
    · exact .pure _
    · exact noMember_readOnly _ _
  · exact noMember_readOnly _ _

/-- Changing the bank under a handle sets the store there to the changed bank. -/
theorem changeBank_run {w w' : World} {hb : Nat} {f : SessionBank → SessionBank} {u : Unit}
    (run : (changeBank (.ref hb) f).run w = .ok u w') :
    ∃ b, w.store[hb]? = some (.bank b) ∧ w' = { w with store := w.store.set! hb (.bank (f b)) } := by
  unfold changeBank at run
  obtain ⟨⟨h, b⟩, w1, read, written⟩ := run_bind_eq_ok run
  obtain ⟨same, handle, stored⟩ := bankAt_run read
  dsimp only at handle written
  subst same handle
  rw [store_run, EStateM.Result.ok.injEq] at written
  exact ⟨b, stored, written.2.symm⟩

/-- A change of the bank that leaves its index alone leaves the index alone. -/
theorem changeBank_index {w w' : World} {hb : Nat} {f : SessionBank → SessionBank} {u : Unit}
    (run : (changeBank (.ref hb) f).run w = .ok u w')
    (keeps : ∀ b, (f b).websocketsByUser = b.websocketsByUser) : indexOf w' hb = indexOf w hb := by
  obtain ⟨b, stored, rfl⟩ := changeBank_run run
  rw [indexOf_set_bank stored, keeps, indexOf_of_bank stored]

theorem listenerIdsWhole_set_bank {w : World} {hb : Nat} (b : SessionBank)
    (ids : ListenerIdsWhole w) : ListenerIdsWhole { w with store := w.store.set! hb (.bank b) } := by
  intro h u stored
  by_cases same : hb = h
  · subst same
    simp [Array.set!_eq_setIfInBounds, Array.getElem?_setIfInBounds] at stored
  · exact ids h u (by simpa [Array.set!_eq_setIfInBounds, Array.getElem?_setIfInBounds_ne same] using stored)

/-! ### Reading sessions -/

theorem sameSession_readOnly (a b : Value) : ReadOnly (sameSession a b) := by
  unfold sameSession
  repeat' first
    | split
    | with_reducible exact ReadOnly.pure _
    | with_reducible exact deref_readOnly _
    | with_reducible apply ReadOnly.bind
    | intro _

theorem holds_readOnly (xs : List Value) (s : Value) : ReadOnly (holds xs s) := by
  unfold holds
  induction xs with
  | nil => exact .pure _
  | cons x rest ih =>
    simp only [List.anyM]
    refine (sameSession_readOnly s x).bind fun found => ?_
    split
    · exact .pure _
    · exact ih

theorem withoutFirst_readOnly (xs : List Value) (s : Value) : ReadOnly (withoutFirst xs s) := by
  induction xs with
  | nil => exact .pure _
  | cons x rest ih =>
    unfold withoutFirst
    refine (sameSession_readOnly x s).bind fun found => ?_
    split
    · exact .pure _
    · exact ih.bind fun _ => .pure _

/-- A session is filed under itself, when it can be filed at all. -/
theorem sessionKey_run {w w' : World} {s key : Value} (run : (sessionKey s).run w = .ok key w') :
    key = s ∧ w' = w := by
  unfold sessionKey at run
  split at run
  · obtain ⟨o, w1, read, rest⟩ := run_bind_eq_ok run
    obtain ⟨rfl, -⟩ := deref_run_inv read
    split at rest
    · cases rest
    · cases rest
    · exact run_pure_eq_ok rest
  · cases run
  · cases run
  · cases run
  · exact run_pure_eq_ok run

/-- Asking whether a user is anonymous succeeds only on a listener in the store. -/
theorem anonymous_run {w w' : World} {user : Value} {a : Bool}
    (run : (anonymous user).run w = .ok a w') :
    w' = w ∧ ∃ hu u, user = .ref hu ∧ w.store[hu]? = some (.user u) := by
  unfold anonymous at run
  split at run
  · obtain ⟨o, w1, read, rest⟩ := run_bind_eq_ok run
    obtain ⟨rfl, stored⟩ := deref_run_inv read
    split at rest
    · exact ⟨(run_pure_eq_ok rest).2, _, _, rfl, stored⟩
    · exact absurd rest (noMember_fails _ _ _ _ _)
  · exact absurd run (noMember_fails _ _ _ _ _)

theorem attributeOf_user_id {w : World} {hu : Nat} {u : User}
    (stored : w.store[hu]? = some (.user u)) :
    (attributeOf (.ref hu) "id").run w = .ok u.id w := by
  simp [attributeOf, deref, stored, Obj.attribute?, Obj.attributes, User.attributes]

/-! ### What each operation does to the index -/

theorem removeTimer_run (w : World) (timer : Value) :
    (removeTimer timer).run w = .ok () { w with
      loop := w.loop.filter fun e => !Value.equals timer (.nat e.1),
      outbox := { w.outbox with timers := w.outbox.timers.push (.list [.str "remove_timeout", timer]) } } :=
  rfl

theorem cancelHeld_index {w w' : World} {hb : Nat} {key : Value}
    (run : (cancelHeld (.ref hb) key).run w = .ok () w') : indexOf w' hb = indexOf w hb := by
  unfold cancelHeld at run
  obtain ⟨⟨h, b⟩, w1, read, run1⟩ := run_bind_eq_ok run
  obtain ⟨rfl, -, -⟩ := bankAt_run read
  dsimp only at run1
  split at run1
  · obtain ⟨u, w2, cancelled, run2⟩ := run_bind_eq_ok run1
    rw [removeTimer_run, EStateM.Result.ok.injEq] at cancelled
    obtain ⟨-, rfl⟩ := cancelled
    -- a cancelled timer touches only the outbox
    have kept := changeBank_index run2 (fun _ => rfl)
    exact kept
  · rw [(run_pure_eq_ok run1).2]

/-- Taking a session out of the bank leaves the index alone unless the session is itself a key
of the index: the guard asks for the session's key among the listener ids. -/
theorem dropSession_index {w w' : World} {hb : Nat} {s key : Value}
    (notKey : Dict.hasKey (indexOf w hb) key = false)
    (run : (dropSession (.ref hb) s key).run w = .ok () w') : indexOf w' hb = indexOf w hb := by
  unfold dropSession at run
  obtain ⟨⟨h, b⟩, w1, read, run1⟩ := run_bind_eq_ok run
  obtain ⟨rfl, -, stored⟩ := bankAt_run read
  rw [indexOf_of_bank stored] at notKey ⊢
  dsimp only at run1
  obtain ⟨connected, w2, rh, run2⟩ := run_bind_eq_ok run1
  obtain rfl := holds_readOnly _ _ _ _ _ rh
  split at run2
  · -- a connection leaves the connections
    obtain ⟨others, w3, rw₃, run3⟩ := run_bind_eq_ok run2
    obtain rfl := withoutFirst_readOnly _ _ _ _ _ rw₃
    obtain ⟨u, w4, changed, run4⟩ := run_bind_eq_ok run3
    have kept : indexOf w4 hb = b.websocketsByUser :=
      (changeBank_index changed (fun _ => rfl)).trans (indexOf_of_bank stored)
    obtain ⟨user, w5, ru, run5⟩ := run_bind_eq_ok run4
    obtain rfl := attributeOf_readOnly _ _ _ _ _ ru
    obtain ⟨anon, w6, ra, run6⟩ := run_bind_eq_ok run5
    obtain ⟨rfl, -⟩ := anonymous_run ra
    split at run6
    · obtain ⟨id, w7, ri, run7⟩ := run_bind_eq_ok run6
      obtain rfl := attributeOf_readOnly _ _ _ _ _ ri
      -- the key is not among the listener ids, so the index is not touched
      simp only [notKey, Bool.and_false, Bool.false_eq_true, if_false] at run7
      rw [(run_pure_eq_ok run7).2, kept]
    · rw [(run_pure_eq_ok run6).2, kept]
  · -- a waiting session leaves the sessions
    obtain ⟨waiting, w3, rs, run3⟩ := run_bind_eq_ok run2
    obtain rfl := holds_readOnly _ _ _ _ _ rs
    split at run3
    · obtain ⟨others, w4, rw₄, run4⟩ := run_bind_eq_ok run3
      obtain rfl := withoutFirst_readOnly _ _ _ _ _ rw₄
      exact (changeBank_index run4 (fun _ => rfl)).trans (indexOf_of_bank stored)
    · rw [(run_pure_eq_ok run3).2, indexOf_of_bank stored]

/-- Taking a session out of the bank leaves the index as it was, whenever the session is not
itself a key of the index. -/
theorem remove_index {w w' : World} {hb : Nat} {s : Value}
    (notKey : Dict.hasKey (indexOf w hb) s = false)
    (run : (remove (.ref hb) s).run w = .ok () w') : indexOf w' hb = indexOf w hb := by
  unfold remove at run
  obtain ⟨key, w1, rk, run1⟩ := run_bind_eq_ok run
  obtain ⟨rfl, rfl⟩ := sessionKey_run rk
  obtain ⟨u, w2, rc, run2⟩ := run_bind_eq_ok run1
  have cancelled := cancelHeld_index rc
  rw [← cancelled] at notKey
  exact (dropSession_index notKey run2).trans cancelled

theorem filedUnder_run {w w' : World} {b : SessionBank} {id : Value} {xs : List Value}
    (run : (filedUnder b id).run w = .ok xs w') :
    w' = w ∧ filedList b.websocketsByUser id = some xs := by
  unfold filedUnder at run
  unfold filedList
  split at run
  · obtain ⟨rfl, rfl⟩ := run_pure_eq_ok run
    simp [*]
  · obtain ⟨rfl, rfl⟩ := run_pure_eq_ok run
    simp [*]
  · exact absurd run (noMember_fails _ _ _ _ _)

/-- Filing under a listener files the connection under the listener's whole id, or, for an
anonymous listener, leaves the index alone. -/
theorem fileUnderUser_index {w w' : World} {hb : Nat} {s : Value} (ids : ListenerIdsWhole w)
    (run : (fileUnderUser (.ref hb) s).run w = .ok () w') :
    indexOf w' hb = indexOf w hb ∨
      ∃ n : Int, fileSession (indexOf w hb) (.int n) s = some (indexOf w' hb) := by
  unfold fileUnderUser at run
  obtain ⟨user, w1, ru, run1⟩ := run_bind_eq_ok run
  obtain rfl := attributeOf_readOnly _ _ _ _ _ ru
  obtain ⟨anon, w2, ra, run2⟩ := run_bind_eq_ok run1
  obtain ⟨rfl, hu, u, rfl, listener⟩ := anonymous_run ra
  split at run2
  · obtain ⟨id, w3, ri, run3⟩ := run_bind_eq_ok run2
    rw [attributeOf_user_id listener, EStateM.Result.ok.injEq] at ri
    obtain ⟨rfl, rfl⟩ := ri
    obtain ⟨n, whole⟩ := ids hu u listener
    obtain ⟨⟨h, b⟩, w4, rb, run4⟩ := run_bind_eq_ok run3
    obtain ⟨rfl, -, stored⟩ := bankAt_run rb
    dsimp only at run4
    obtain ⟨xs, w5, rx, run5⟩ := run_bind_eq_ok run4
    obtain ⟨rfl, listed⟩ := filedUnder_run rx
    obtain ⟨b', stored', rfl⟩ := changeBank_run run5
    rw [stored, Option.some.injEq, Obj.bank.injEq] at stored'
    subst stored'
    refine .inr ⟨n, ?_⟩
    rw [indexOf_set_bank stored, indexOf_of_bank stored, ← whole]
    simp [fileSession, listed]
  · exact .inl (by rw [(run_pure_eq_ok run2).2])

/-- Filing a session leaves the index alone, or files it under a whole listener id. -/
theorem append_index {w w' : World} {hb : Nat} {s : Value} (ids : ListenerIdsWhole w)
    (run : (append (.ref hb) s).run w = .ok () w') :
    indexOf w' hb = indexOf w hb ∨
      ∃ n : Int, fileSession (indexOf w hb) (.int n) s = some (indexOf w' hb) := by
  unfold append at run
  obtain ⟨⟨h, b⟩, w1, rb, run1⟩ := run_bind_eq_ok run
  obtain ⟨rfl, -, -⟩ := bankAt_run rb
  dsimp only at run1
  obtain ⟨websocket, w2, rws, run2⟩ := run_bind_eq_ok run1
  obtain rfl := attributeOf_readOnly _ _ _ _ _ rws
  split at run2
  · -- a connection joins the connections, then its listener's list
    obtain ⟨held, w3, rh, run3⟩ := run_bind_eq_ok run2
    obtain rfl := holds_readOnly _ _ _ _ _ rh
    split at run3
    · obtain ⟨u, w4, changed, run4⟩ := run_bind_eq_ok run3
      have kept := changeBank_index changed (fun _ => rfl)
      obtain ⟨b', -, rfl⟩ := changeBank_run changed
      rw [← kept]
      exact fileUnderUser_index (listenerIdsWhole_set_bank _ ids) run4
    · exact fileUnderUser_index ids run3
  · -- any other session joins the waiting sessions
    obtain ⟨held, w3, rh, run3⟩ := run_bind_eq_ok run2
    obtain rfl := holds_readOnly _ _ _ _ _ rh
    split at run3
    · exact .inl (changeBank_index run3 (fun _ => rfl))
    · exact .inl (by rw [(run_pure_eq_ok run3).2])

/-- Clearing cancels the held updates and lets the waiting sessions go; the index stays. -/
theorem clear_index {w w' : World} {hb : Nat} (run : (clear (.ref hb)).run w = .ok () w') :
    indexOf w' hb = indexOf w hb := by
  unfold clear at run
  obtain ⟨⟨h, b⟩, w1, rb, run1⟩ := run_bind_eq_ok run
  obtain ⟨rfl, -, -⟩ := bankAt_run rb
  dsimp only at run1
  obtain ⟨u, w2, loop, run2⟩ := run_bind_eq_ok run1
  -- each pass cancels one timer, which touches only the outbox
  have cancelled : indexOf w2 hb = indexOf w1 hb := by
    refine forIn_run_invariant (fun _ w3 => indexOf w3 hb = indexOf w1 hb) _ ?_ _ _ _ _ _ rfl loop
    rintro ⟨_, timer⟩ _ r w3 w4 same pass
    obtain ⟨_, w5, rt, rp⟩ := run_bind_eq_ok pass
    rw [removeTimer_run, EStateM.Result.ok.injEq] at rt
    obtain ⟨-, rfl⟩ := rt
    rw [(run_pure_eq_ok rp).2]
    exact same
  exact (changeBank_index run2 (fun _ => rfl)).trans cancelled

/-! ### Runs of the bank -/

/-- A run of the operations of the bank under handle `hb`: filing a session while every
listener has a whole id, taking out a session object, clearing the waiting sessions, and any
other step that leaves the index alone. -/
inductive BankRun (hb : Nat) : World → World → Prop
  | stop (w : World) : BankRun hb w w
  | append {w w1 w' : World} {s : Value} (ids : ListenerIdsWhole w)
      (run : (append (.ref hb) s).run w = .ok () w1) (rest : BankRun hb w1 w') : BankRun hb w w'
  | remove {w w1 w' : World} {h : Nat} (run : (remove (.ref hb) (.ref h)).run w = .ok () w1)
      (rest : BankRun hb w1 w') : BankRun hb w w'
  | clear {w w1 w' : World} (run : (clear (.ref hb)).run w = .ok () w1)
      (rest : BankRun hb w1 w') : BankRun hb w w'
  | other {w w1 w' : World} (same : indexOf w1 hb = indexOf w hb) (rest : BankRun hb w1 w') :
      BankRun hb w w'

theorem hasKey_ref_of_intKeyed {d : Dict} (hk : IntKeyed d) (h : Nat) :
    Dict.hasKey d (.ref h) = false := by
  induction d with
  | nil => rfl
  | cons e rest ih =>
    obtain ⟨k, hk₀⟩ := hk e (by simp)
    have rest_keyed : IntKeyed rest := fun e' mem => hk e' (by simp [mem])
    simpa [Dict.hasKey, Dict.lookup?_cons, hk₀] using ih rest_keyed

/-- Along every run of a bank from an index with whole keys, the keys stay whole, every
listener's list only grows (taking a connection out never takes it out of the index), and a
list is never empty when none was at the start. -/
theorem bankRun_index_grows {hb : Nat} {w w' : World} (run : BankRun hb w w')
    (keyed : IntKeyed (indexOf w hb)) :
    IntKeyed (indexOf w' hb) ∧ Grows (indexOf w hb) (indexOf w' hb) ∧
      (Filled (indexOf w hb) → Filled (indexOf w' hb)) := by
  induction run with
  | stop w => exact ⟨keyed, grows_refl _, id⟩
  | append ids step _ ih =>
    rcases append_index ids step with same | ⟨n, filed⟩
    · rw [same] at ih
      exact ih keyed
    · obtain ⟨keyed₁, grows₁, filled₁⟩ := fileSession_spec keyed filed
      obtain ⟨keyed', grows', filled'⟩ := ih keyed₁
      exact ⟨keyed', grows_trans grows₁ grows', filled' ∘ filled₁⟩
  | remove step _ ih =>
    rw [remove_index (hasKey_ref_of_intKeyed keyed _) step] at ih
    exact ih keyed
  | clear step _ ih =>
    rw [clear_index step] at ih
    exact ih keyed
  | other same _ ih =>
    rw [same] at ih
    exact ih keyed

/-- A bank (handle 0) with one connection (handle 1) of listener 2 (handle 2). -/
def sampleBank : World :=
  { store := #[.bank {}, .socket { fields := [("user", .ref 2), ("uuid", .str "a")] },
      .user { id := .int 2 }] }

/-- Filing the connection and taking it out again is a run of the bank, along which the
listener's list grows and stays filled. -/
theorem sampleBank_index_grows :
    ∃ w', BankRun 0 sampleBank w' ∧ Grows (indexOf sampleBank 0) (indexOf w' 0) ∧
      Filled (indexOf w' 0) := by
  have ids : ListenerIdsWhole sampleBank := by
    intro h u stored
    match h, stored with
    | 2, stored => exact ⟨2, by simp [sampleBank] at stored; rw [← stored]⟩
  have run : BankRun 0 sampleBank _ :=
    @BankRun.append 0 sampleBank _ _ (.ref 1) ids rfl <|
    @BankRun.remove 0 _ _ _ 1 rfl <| .stop _
  have empty : indexOf sampleBank 0 = [] := rfl
  obtain ⟨-, grows, filled⟩ := bankRun_index_grows run (by simp [empty, IntKeyed])
  exact ⟨_, run, grows, filled (by simp [empty, Filled])⟩

/-- A connection that was filed and then taken out of the bank is gone from the connections but
still under its listener in the index, and a message to the listener still goes out to it. -/
theorem removed_connection_still_reached :
    ∃ w₁ w₂ w₃ b, (append (.ref 0) (.ref 1)).run sampleBank = .ok () w₁ ∧
      (remove (.ref 0) (.ref 1)).run w₁ = .ok () w₂ ∧
      w₂.store[0]? = some (.bank b) ∧ b.websockets = [] ∧
      Dict.lookup? b.websocketsByUser (.int 2) = some (.list [.ref 1]) ∧
      (sendToUser (.ref 0) (.int 2) .none (.dict [(.str "x", .int 1)])).run w₂ = .ok () w₃ ∧
      w₃.outbox.socketMessages.size = 1 :=
  ⟨_, _, _, _, rfl, rfl, rfl, rfl, rfl, rfl, rfl⟩

end Airwaves.Live
