import Mathlib.Data.List.Nodup
import Airwaves.Proofs.LoopFrame.Serving
import Airwaves.Proofs.ListenerIndex
/-!
# Cancelling held updates

Removing a session or clearing a bank cancels exactly the timers of the updates it drops, so
every change of a bank keeps the event loop.
-/

namespace Airwaves

open KeepsLoop

-- A long do block is one instance problem as deep as the block is long.
set_option synthInstance.maxSize 2048

/-! ## References and handles as keys -/

namespace Value

@[simp] theorem equals_ref_left {h : Nat} {v : Value} :
    Value.equals (.ref h) v = true ↔ v = .ref h := by
  cases v with
  | ref a =>
    simp only [Value.equals, beq_iff_eq, Value.ref.injEq]
    exact eq_comm
  | _ => constructor <;> intro same <;> cases same

@[simp] theorem equals_ref_right {h : Nat} {v : Value} :
    Value.equals v (.ref h) = true ↔ v = .ref h := by
  cases v with
  | ref a => simp only [Value.equals, beq_iff_eq, Value.ref.injEq]
  | _ => constructor <;> intro same <;> cases same

@[simp] theorem nat_inj {m n : Nat} : Value.nat m = Value.nat n ↔ m = n := by
  simp only [Value.nat, Value.int.injEq]
  omega

@[simp] theorem equals_nat {m n : Nat} : Value.equals (.nat m) (.nat n) = true ↔ m = n := by
  simp only [Value.nat, Value.equals, beq_iff_eq]
  omega

end Value

theorem Dict.exists_of_lookup? {d : Dict} {k t : Value} (found : d.lookup? k = some t) :
    ∃ e ∈ d, Value.equals e.1 k = true ∧ e.2 = t := by
  unfold Dict.lookup? at found
  obtain ⟨e, first, rfl⟩ := Option.map_eq_some_iff.mp found
  exact ⟨e, List.mem_of_find?_eq_some first,
    List.find?_some (p := fun (e : Value × Value) => Value.equals e.1 k) first, rfl⟩

theorem Dict.hasKey_ref {d : Dict} {h : Nat} : d.hasKey (.ref h) = true ↔ ∃ t, (.ref h, t) ∈ d := by
  simp [Dict.hasKey, Dict.lookup?, List.find?_isSome]

/-! ## Held updates and their timers -/

namespace HeldSound

variable {w : World} (sound : HeldSound w)
include sound

/-- A held update's timer is a whole number, and equal to a whole number only as that number. -/
theorem timer_equals {hb : Nat} {T : Dict} {p : Value × Value} (found : throttledAt w hb = some T)
    (mem : p ∈ T) (n : Nat) : Value.equals p.2 (.nat n) = true ↔ p.2 = .nat n := by
  obtain ⟨m, a, timer, -⟩ := sound.timed found mem
  rw [timer, Value.equals_nat, Value.nat_inj]

/-- A timer serves the held update of one session of one bank. -/
theorem timer_unique {hb hb' : Nat} {T T' : Dict} {k k' : Value} {n : Nat}
    (found : throttledAt w hb = some T) (found' : throttledAt w hb' = some T')
    (mem : (k, .nat n) ∈ T) (mem' : (k', .nat n) ∈ T') : hb = hb' ∧ k = k' := by
  obtain ⟨m, a, timer, entry⟩ := sound.timed found mem
  obtain ⟨m', a', timer', entry'⟩ := sound.timed found' mem'
  rw [Value.nat_inj] at timer timer'
  subst timer timer'
  -- both loop entries have the handle `n`, and the loop's handles are distinct
  have same := List.inj_on_of_nodup_map sound.handles entry entry' rfl
  simp only [Prod.mk.injEq, Callback.heldUpdate.injEq, Value.ref.injEq] at same
  exact ⟨same.2.1, same.2.2.1⟩

/-- Two held updates of a bank that match one key are the same. -/
theorem key_unique {hb : Nat} {T : Dict} {key : Value} {p q : Value × Value}
    (found : throttledAt w hb = some T) (mem : p ∈ T) (mem' : q ∈ T)
    (eqKey : Value.equals p.1 key = true) (eqKey' : Value.equals q.1 key = true) : q = p := by
  obtain ⟨h, o, ref, -⟩ := sound.keyed found (k := p.1) (t := p.2) mem
  obtain ⟨h', o', ref', -⟩ := sound.keyed found (k := q.1) (t := q.2) mem'
  rw [ref, Value.equals_ref_left] at eqKey
  rw [ref', Value.equals_ref_left, eqKey, Value.ref.injEq] at eqKey'
  exact List.inj_on_of_nodup_map (sound.keys found) mem' mem (by rw [ref, ref', eqKey'])

/-- A held update that stays, in any bank, does not share its timer with a dropped one. -/
theorem timer_not_dropped {hb i : Nat} {T T' : Dict} {k : Value} {n : Nat} {dropped : Value → Bool}
    (found : throttledAt w hb = some T) (found' : throttledAt w i = some T') (mem : (k, .nat n) ∈ T')
    (stays : i = hb → dropped k = false) : ∀ p ∈ T, dropped p.1 = true → p.2 ≠ .nat n := by
  rintro ⟨k', t⟩ mem' drop rfl
  obtain ⟨rfl, rfl⟩ := sound.timer_unique found' found mem mem'
  rw [stays rfl] at drop
  cases drop

/-- The loop entry under the timer of a held update serves a held update. -/
theorem isHeld_of_timer {hb : Nat} {T : Dict} {p : Value × Value} {e : Nat × Callback}
    (found : throttledAt w hb = some T) (mem : p ∈ T) (entry : e ∈ w.loop) (same : p.2 = .nat e.1) :
    e.2.isHeld = true := by
  obtain ⟨m, a, timer, entry'⟩ := sound.timed found (k := p.1) (t := p.2) mem
  rw [same, Value.nat_inj] at timer
  rw [List.inj_on_of_nodup_map sound.handles entry entry' timer]
  rfl

/-- Dropping from the bank under `hb` the held updates of the sessions `dropped` picks, together
with exactly their timers, keeps the held updates sound. -/
theorem drop {w' : World} {hb : Nat} {T : Dict} (found : throttledAt w hb = some T)
    (dropped : Value → Bool) (loop : w'.loop.Sublist w.loop)
    (kept : ∀ e ∈ w.loop, (∀ p ∈ T, dropped p.1 = true → p.2 ≠ .nat e.1) → e ∈ w'.loop)
    (gone : ∀ e ∈ w'.loop, ∀ p ∈ T, dropped p.1 = true → p.2 ≠ .nat e.1)
    (count : w'.timerCount = w.timerCount)
    (throttled : ∀ i, throttledAt w' i =
      if i = hb then some (T.filter fun p => !dropped p.1) else throttledAt w i)
    (keyable : ∀ k, Keyable w k → Keyable w' k) : HeldSound w' where
  toLoopIssued := sound.toLoopIssued.of_sublist loop count
  keys {i _} found' := by
    rw [throttled] at found'
    split at found'
    · next here =>
      subst here
      cases found'
      exact (sound.keys found).sublist (List.filter_sublist.map _)
    · exact sound.keys found'
  keyed {i _ _ _} found' mem := by
    rw [throttled] at found'
    split at found'
    · next here =>
      subst here
      cases found'
      exact keyable _ (sound.keyed found (List.mem_filter.mp mem).1)
    · exact keyable _ (sound.keyed found' mem)
  timed {i _ k _} found' mem := by
    rw [throttled] at found'
    split at found'
    · next here =>
      subst here
      cases found'
      obtain ⟨mem, stays⟩ := List.mem_filter.mp mem
      obtain ⟨n, a, rfl, entry⟩ := sound.timed found mem
      refine ⟨n, a, rfl, kept _ entry (sound.timer_not_dropped found found mem fun _ => ?_)⟩
      simpa using stays
    · next other =>
      obtain ⟨n, a, rfl, entry⟩ := sound.timed found' mem
      exact ⟨n, a, rfl,
        kept _ entry (sound.timer_not_dropped found found' mem fun same => absurd same other)⟩
  held {n _ s _} entry := by
    obtain ⟨i, T0, rfl, found0, mem⟩ := sound.held (loop.subset entry)
    by_cases here : i = hb
    · subst here
      rw [found, Option.some.injEq] at found0
      subst found0
      refine ⟨i, _, rfl, by rw [throttled, if_pos rfl], List.mem_filter.mpr ⟨mem, ?_⟩⟩
      -- a dropped session's timer would have left the loop
      cases drop : dropped s
      · rfl
      · exact absurd rfl (gone _ entry _ mem drop)
    · exact ⟨i, T0, rfl, by rw [throttled, if_neg here, found0], mem⟩

end HeldSound

/-! ## The bank in the store -/

theorem throttledAt_bank {w : World} {hb : Nat} {b : SessionBank}
    (stored : w.store[hb]? = some (.bank b)) :
    throttledAt w hb = some b.throttled := by
  rw [throttledAt, stored]
  rfl

theorem throttledAt_set_bank {w : World} {hb : Nat} {b : SessionBank}
    (stored : w.store[hb]? = some (.bank b))
    (b' : SessionBank) (i : Nat) :
    throttledAt { w with store := w.store.set! hb (.bank b') } i =
      if i = hb then some b'.throttled else throttledAt w i := by
  split
  · next here =>
    subst here
    rw [throttledAt, getElem?_set!_self stored]
    rfl
  · next other =>
    rw [throttledAt, getElem?_set!_of_ne _ (Ne.symm other)]
    rfl

theorem keyable_set_bank {w : World} {hb : Nat} {b : SessionBank} (stored : w.store[hb]? = some (.bank b))
    (b' : SessionBank) {k : Value} (keyable : Keyable w k) :
    Keyable { w with store := w.store.set! hb (.bank b') } k :=
  keyable_set stored (by rfl) keyable

theorem bankAt_stored {w w' : World} {v : Value} {r : Nat × SessionBank}
    (run : (Live.bankAt v).run w = .ok r w') :
    w' = w ∧ v = .ref r.1 ∧ w.store[r.1]? = some (.bank r.2) := by
  unfold Live.bankAt at run
  split at run
  · obtain ⟨o, w1, read, rest⟩ := run_bind_eq_ok run
    obtain ⟨rfl, stored⟩ := deref_run_inv read
    split at rest
    · obtain ⟨rfl, rfl⟩ := run_pure_eq_ok rest
      exact ⟨rfl, rfl, stored⟩
    · exact absurd rest (noMember_fails _ _ _ _ _)
  · exact absurd run (noMember_fails _ _ _ _ _)

theorem changeBank_run_of {w : World} {hb : Nat} {b : SessionBank}
    (stored : w.store[hb]? = some (.bank b))
    (f : SessionBank → SessionBank) :
    (Live.changeBank (.ref hb) f).run w = .ok () { w with store := w.store.set! hb (.bank (f b)) } := by
  simp [Live.changeBank, Live.bankAt, deref, stored, store_run]

/-- An action that returns from a world ends in one world; a relation that holds of the two
holds of every run from there. -/
theorem guards_of_run {α : Type} {R : World → World → Prop} {x : Act α} {w w' : World} {a : α}
    (run : x.run w = .ok a w') (rel : R w w') :
    (∀ r w'', x.run w = .ok r w'' → R w w'') ∧ (∀ e w'', x.run w = .error e w'' → R w w'') := by
  rw [run]
  exact ⟨fun _ _ ran => by cases ran; exact rel, fun _ _ ran => (by cases ran)⟩

instance {v : Value} : KeepsLoop (Live.bankAt v) := by
  unfold Live.bankAt
  split
  · refine bind_of inferInstance fun _ => ?_
    split <;> infer_instance
  · infer_instance

/-- A change of a bank that keeps its held updates. -/
theorem changeBank_keeps {v : Value} {f : SessionBank → SessionBank}
    (same : ∀ b, (f b).throttled = b.throttled) : KeepsLoop (Live.changeBank v f) := by
  unfold Live.changeBank
  refine bind_of_run inferInstance fun _ r w ran => ?_
  obtain ⟨hb, b⟩ := r
  obtain ⟨rfl, -, stored⟩ := bankAt_stored ran
  exact guards_of_run (store_run _ _ _) (store_kept stored (congrArg some (same b)) rfl)

/-- Cancelling the timers of a table one after another takes out of the loop every entry whose
handle is one of them. -/
theorem forIn_cancel_run {f : Value × Value → PUnit → Act (ForInStep PUnit)}
    (pass : ∀ p w, (f p PUnit.unit).run w = .ok (.yield PUnit.unit) { w with
      loop := w.loop.filter fun e => !Value.equals p.2 (.nat e.1),
      outbox := { w.outbox with timers := w.outbox.timers.push (.list [.str "remove_timeout", p.2]) } }) :
    ∀ (T : Dict) (w : World), (forIn T PUnit.unit f).run w = .ok PUnit.unit { w with
      loop := w.loop.filter (fun e => T.all fun p => !Value.equals p.2 (.nat e.1)),
      outbox := { w.outbox with
        timers := T.foldl (fun acc p => acc.push (.list [.str "remove_timeout", p.2]))
          w.outbox.timers } } := by
  intro T
  -- induction on the table; each pass filters the loop once more
  induction T with
  | nil =>
    intro w
    simp only [List.forIn_nil, List.all_nil, List.filter_true, List.foldl_nil]
    rfl
  | cons p rest ih =>
    intro w
    rw [List.forIn_cons, run_bind_ok (pass p w)]
    dsimp only
    rw [ih]
    simp only [List.filter_filter, List.all_cons, List.foldl_cons, Bool.and_comm]

/-! ## The bank's own actions -/

/-! ## Sessions -/

instance {bank : Value} : KeepsLoop (Live.everyone bank) := by unfold Live.everyone; infer_instance

instance {v : Value} : KeepsLoop (Live.socketAt v) := by
  unfold Live.socketAt
  split
  · refine bind_of inferInstance fun _ => ?_
    split <;> infer_instance
  · infer_instance

instance {ws : Value} {name : String} : KeepsLoop (Live.field ws name) := by
  unfold Live.field
  refine bind_of inferInstance fun _ => ?_
  split <;> infer_instance

instance {ws args : Value} : KeepsLoop (Live.requestFor ws args) := by
  unfold Live.requestFor; infer_instance

instance {ws : Value} : KeepsLoop (Live.refreshUser ws) := by
  unfold Live.refreshUser; infer_instance

instance {start : Value} : KeepsLoop (Live.timing start) := by unfold Live.timing; infer_instance

instance {msg : Value} : KeepsLoop (Live.wireForm msg) := by
  unfold Live.wireForm
  split <;> infer_instance

instance {msg : Value} : KeepsLoop (Live.send msg) := by unfold Live.send; infer_instance

instance {ws : Value} : KeepsLoop (Live.update ws) := by
  unfold Live.update Act.attempt
  repeat' first
    | (intro jp; refine (fun (hjp : ∀ a, KeepsLoop (jp a)) => ?_) (fun a => ?_); clear_value jp)
    | intro _
    | lift_lets
    | with_reducible refine bind_of ?_ fun _ => ?_
    | with_reducible refine ite_of ?_ ?_
    | refine tryCatch_of ?_ fun _ => ?_
    | infer_instance
    | split

instance {name : String} : KeepsLoop (Live.stamped name) := by unfold Live.stamped; infer_instance

instance : KeepsLoop Live.keepAlive := by unfold Live.keepAlive; infer_instance

instance : KeepsLoop Live.close := by unfold Live.close; infer_instance

instance {ws : Value} : KeepsLoop (Live.sendUser ws) := by unfold Live.sendUser; infer_instance

instance {ws : Value} {key : String} {args : List (String × Value)} : KeepsLoop (Live.say ws key args) := by
  unfold Live.say; infer_instance

instance {ws : Value} {name key : String} {args : List (String × Value)} : KeepsLoop (Live.notice ws name key args) := by
  unfold Live.notice; infer_instance

instance {ws : Value} : KeepsLoop (Live.warnMixup ws) := by unfold Live.warnMixup; infer_instance

instance {v : Value} : KeepsLoop (Live.Poll.refreshUser v) := by
  unfold Live.Poll.refreshUser; infer_instance

instance {v : Value} : KeepsLoop (Live.Poll.freshen v) := by
  unfold Live.Poll.freshen
  infer_instance

instance {sid : Value} : KeepsLoop (Live.bankOf sid) := by unfold Live.bankOf; infer_instance

instance {s : Value} : KeepsLoop (Live.sessionKey s) := by
  unfold Live.sessionKey
  split
  · refine bind_of inferInstance fun _ => ?_
    split <;> infer_instance
  all_goals infer_instance

instance {a b : Value} : KeepsLoop (Live.sameSession a b) := by
  unfold Live.sameSession
  repeat' first | infer_instance | split | with_reducible refine bind_of ?_ fun _ => ?_

instance {xs : List Value} {s : Value} : KeepsLoop (Live.holds xs s) := by
  unfold Live.holds; infer_instance

instance {s : Value} : KeepsLoop (Live.userOfSession s) := by
  unfold Live.userOfSession; infer_instance

instance {user : Value} : KeepsLoop (Live.anonymous user) := by
  unfold Live.anonymous
  split
  · refine bind_of inferInstance fun _ => ?_
    split <;> infer_instance
  · infer_instance

instance {bank key : Value} : KeepsLoop (Live.cancelHeld bank key) := by
  unfold Live.cancelHeld
  refine bind_of_run inferInstance fun _ r w ran => ?_
  obtain ⟨hb, b⟩ := r
  obtain ⟨rfl, rfl, stored⟩ := bankAt_stored ran
  dsimp only at stored ⊢
  split
  · next timer found =>
    apply guards_of_run
    · rw [run_bind_ok (Live.removeTimer_run w timer)]
      apply changeBank_run_of
      exact stored
    have table := throttledAt_bank stored
    obtain ⟨p, mem, eqKey, rfl⟩ := Dict.exists_of_lookup? found
    refine ⟨rfl, rfl, rfl, List.filter_sublist, fun sound => ?_, fun sound e entry gone => ?_⟩
    · -- the session's held update is the one entry under the key, and its timer the one cancelled
      refine sound.drop table (fun k => Value.equals k key) List.filter_sublist ?left ?cancelled rfl
        (throttledAt_set_bank stored _) fun _ keyable => keyable_set_bank stored _ keyable
      case left =>
        intro e entry other
        have differs : ¬Value.equals p.2 (.nat e.1) = true :=
          fun same => other p mem eqKey ((sound.timer_equals table mem _).mp same)
        exact List.mem_filter.mpr ⟨entry, by simpa using differs⟩
      case cancelled =>
        intro e entry q mem' eqKey' same
        rw [sound.key_unique table mem mem' eqKey eqKey'] at same
        have stays := (List.mem_filter.mp entry).2
        rw [(sound.timer_equals table mem _).mpr same] at stays
        cases stays
    · have cancelled : Value.equals p.2 (.nat e.1) = true := by
        by_contra differs
        exact gone (List.mem_filter.mpr ⟨entry, by simpa using differs⟩)
      exact sound.isHeld_of_timer table mem entry ((sound.timer_equals table mem _).mp cancelled)
  · exact (KeepsLoop.pure ()).guards w

theorem withoutFirst_keeps (xs : List Value) (s : Value) : KeepsLoop (Live.withoutFirst xs s) := by
  induction xs with
  | nil =>
    unfold Live.withoutFirst
    infer_instance
  | cons x rest ih =>
    unfold Live.withoutFirst
    refine bind_of inferInstance fun found => ?_
    split
    · infer_instance
    · exact bind_of ih fun _ => pure _

instance {xs : List Value} {s : Value} : KeepsLoop (Live.withoutFirst xs s) := withoutFirst_keeps xs s

instance {bank s key : Value} : KeepsLoop (Live.dropSession bank s key) := by
  unfold Live.dropSession
  repeat' first
    | infer_instance
    | exact changeBank_keeps fun _ => rfl
    | split
    | with_reducible refine bind_of ?_ fun _ => ?_

instance {bank : Value} : KeepsLoop (Live.clear bank) := by
  unfold Live.clear
  refine bind_of_run inferInstance fun _ r w ran => ?_
  obtain ⟨hb, b⟩ := r
  obtain ⟨rfl, rfl, stored⟩ := bankAt_stored ran
  dsimp only at stored ⊢
  apply guards_of_run
  · rw [run_bind_ok (forIn_cancel_run ?pass b.throttled w)]
    · apply changeBank_run_of
      exact stored
    · rintro ⟨_, _⟩ _
      rfl
  have table := throttledAt_bank stored
  refine ⟨rfl, rfl, rfl, List.filter_sublist, fun sound => ?_, fun sound e entry gone => ?_⟩
  · -- every held update is dropped, and every timer of the table cancelled
    refine sound.drop table (fun _ => true) List.filter_sublist ?left ?cancelled rfl ?throttled
      fun _ keyable => keyable_set_bank stored _ keyable
    case left =>
      intro e entry other
      refine List.mem_filter.mpr ⟨entry, List.all_eq_true.mpr fun p mem => ?_⟩
      have differs : ¬Value.equals p.2 (.nat e.1) = true :=
        fun same => other p mem rfl ((sound.timer_equals table mem _).mp same)
      simpa using differs
    case cancelled =>
      intro e entry p mem _ same
      have stays := List.all_eq_true.mp (List.mem_filter.mp entry).2 p mem
      rw [(sound.timer_equals table mem _).mpr same] at stays
      cases stays
    case throttled =>
      intro i
      refine (throttledAt_set_bank stored _ i).trans ?_
      simp
  · have cancelled : ∃ p ∈ b.throttled, Value.equals p.2 (.nat e.1) = true := by
      by_contra none
      push Not at none
      exact gone (List.mem_filter.mpr ⟨entry, List.all_eq_true.mpr fun p mem => by simpa using none p mem⟩)
    obtain ⟨p, mem, same⟩ := cancelled
    exact sound.isHeld_of_timer table mem entry ((sound.timer_equals table mem _).mp same)

instance {bank s : Value} : KeepsLoop (Live.remove bank s) := by unfold Live.remove; infer_instance

instance {v : Value} : KeepsLoop (Live.Poll.finish v) := by unfold Live.Poll.finish; infer_instance

instance {v : Value} : KeepsLoop (Live.Poll.update v) := by unfold Live.Poll.update; infer_instance

instance {v : Value} : KeepsLoop (Live.Poll.keepAlive v) := by
  unfold Live.Poll.keepAlive; infer_instance

instance {v : Value} : KeepsLoop (Live.Poll.sendUser v) := by
  unfold Live.Poll.sendUser; infer_instance

instance {v : Value} : KeepsLoop (Live.Poll.warnMixup v) := by
  unfold Live.Poll.warnMixup; infer_instance

instance {s : Value} {a : Live.Ask} : KeepsLoop (Live.ask s a) := by
  unfold Live.ask
  repeat' first
    | (intro jp; refine (fun (hjp : ∀ a, KeepsLoop (jp a)) => ?_) (fun a => ?_); clear_value jp)
    | intro _
    | lift_lets
    | with_reducible refine bind_of ?_ fun _ => ?_
    | with_reducible refine ite_of ?_ ?_
    | refine forIn_of _ _ fun _ _ => ?_
    | infer_instance
    | split
    | unfold jp

instance {s : Value} : KeepsLoop (Live.finishQuietly s) := by
  unfold Live.finishQuietly; infer_instance

instance {bank : Value} : KeepsLoop (Live.updateAll bank) := by
  unfold Live.updateAll
  repeat' first
    | intro _
    | lift_lets
    | with_reducible refine bind_of ?_ fun _ => ?_
    | with_reducible refine ite_of ?_ ?_
    | refine forIn_of _ _ fun _ _ => ?_
    | infer_instance
    | split

instance {user : Value} : KeepsLoop (Live.tunedIn user) := by unfold Live.tunedIn; infer_instance

instance {bank exclusion data : Value} : KeepsLoop (Live.sendToAll bank exclusion data) := by
  unfold Live.sendToAll; infer_instance

instance {bank id : Value} : KeepsLoop (Live.findUser bank id) := by
  unfold Live.findUser; infer_instance

instance {bank address : Value} : KeepsLoop (Live.findAddress bank address) := by
  unfold Live.findAddress; infer_instance

instance {s byAddress : Value} : KeepsLoop (Live.updateListener s byAddress) := by
  unfold Live.updateListener Act.attempt
  refine bind_of inferInstance fun _ => ?_
  split <;> infer_instance

end Airwaves
