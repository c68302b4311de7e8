import Airwaves.Proofs.LoopFrame.Banks
import Airwaves.Proofs.SignIn
/-!
# Held updates and their timers

Along every interleaving of bank events, held updates and their timers match (`HeldSound`), and
each held update is served at most once (`TimersExact`).
-/

namespace Airwaves

open KeepsLoop

/-! ## Actions that keep the held updates sound -/

/-- Every run of the action from the world, returning or failing, ends with sound held
updates. -/
def SoundFrom {α : Type} (x : Act α) (w : World) : Prop :=
  (∀ r w', x.run w = .ok r w' → HeldSound w') ∧ (∀ e w', x.run w = .error e w' → HeldSound w')

/-- Every run of the action from sound held updates, returning or failing, keeps them sound. -/
def KeepsHeld {α : Type} (x : Act α) : Prop := ∀ w, HeldSound w → SoundFrom x w

variable {α β γ : Type}

namespace SoundFrom

theorem of_run {x : Act α} {w w' : World} {a : α} (run : x.run w = .ok a w') (sound : HeldSound w') :
    SoundFrom x w :=
  guards_of_run (R := fun _ w' => HeldSound w') run sound

/-- The rest of a bind only needs to end sound from the sound worlds the first action returns
in. -/
theorem bind {x : Act α} {f : α → Act β} {w : World} (hx : SoundFrom x w)
    (hf : ∀ a w1, x.run w = .ok a w1 → HeldSound w1 → SoundFrom (f a) w1) : SoundFrom (x >>= f) w := by
  simp only [SoundFrom, EStateM.run_bind]
  cases ran : x.run w with
  | ok a w1 =>
    -- the rest starts where the first action left off
    exact hf a w1 ran (hx.1 a w1 ran)
  | error e w1 =>
    refine ⟨fun r w' run => ?_, fun e' w' run => ?_⟩
    · cases run
    · cases run
      exact hx.2 e w1 ran

end SoundFrom

namespace KeepsHeld

theorem of_keepsLoop {x : Act α} (K : KeepsLoop x) : KeepsHeld x :=
  fun w sound => ⟨fun a w' run => ((K.guards w).1 a w' run).held sound,
    fun f w' run => ((K.guards w).2 f w' run).held sound⟩

theorem bind {x : Act α} {f : α → Act β} (hx : KeepsHeld x) (hf : ∀ a, KeepsHeld (f a)) :
    KeepsHeld (x >>= f) :=
  fun w sound => (hx w sound).bind fun a w1 _ sound1 => hf a w1 sound1

/-- A loop keeps the held updates sound when every pass over an item of its list does. -/
theorem forIn_of_mem (xs : List γ) (b : β) {f : γ → β → Act (ForInStep β)}
    (hf : ∀ x ∈ xs, ∀ b, KeepsHeld (f x b)) : KeepsHeld (forIn xs b f) := by
  induction xs generalizing b with
  | nil => exact of_keepsLoop (KeepsLoop.pure b)
  | cons x rest ih =>
    rw [List.forIn_cons]
    refine bind (hf x List.mem_cons_self b) fun step => ?_
    cases step with
    | done b' => exact of_keepsLoop (KeepsLoop.pure b')
    | yield b' => exact ih b' fun y mem => hf y (List.mem_cons_of_mem x mem)

end KeepsHeld

theorem SoundFrom.worldAfter {x : Act Unit} {w : World} (hx : SoundFrom x w) :
    HeldSound (worldAfter x w) := by
  unfold Airwaves.worldAfter
  split
  · next r w' run => exact hx.1 r w' run
  · next e w' run => exact hx.2 e w' run

/-! ## Sessions and banks in the store -/

theorem bank_of_throttledAt {w : World} {hb : Nat} {T : Dict} (found : throttledAt w hb = some T) :
    ∃ b, w.store[hb]? = some (.bank b) ∧ b.throttled = T := by
  unfold throttledAt at found
  cases stored : w.store[hb]? with
  | none =>
    rw [stored] at found
    cases found
  | some o =>
    rw [stored] at found
    cases o with
    | bank b => exact ⟨b, rfl, Option.some.inj found⟩
    | _ => cases found

theorem bankAt_run_of {w : World} {hb : Nat} {b : SessionBank} (stored : w.store[hb]? = some (.bank b)) :
    (Live.bankAt (.ref hb)).run w = .ok (hb, b) w := by
  simp [Live.bankAt, deref, stored]

/-- A session is filed under itself when it refers to an object that can be a key. -/
theorem sessionKey_run_of_keyable {w : World} {k : Value} (keyable : Keyable w k) :
    (Live.sessionKey k).run w = .ok k w := by
  obtain ⟨h, o, rfl, found, ok⟩ := keyable
  have read : (deref h).run w = .ok o w := by simp [deref, EStateM.run_bind, EStateM.run_get, found]
  unfold Live.sessionKey
  dsimp only
  rw [run_bind_ok read]
  -- the objects that cannot be keys are not there
  split
  · simp [Obj.keyable] at ok
  · simp [Obj.keyable] at ok
  · rfl

/-- A reference that is filed under a key refers to an object that can be one. -/
theorem sessionKey_keyable {w w' : World} {h : Nat} {key : Value}
    (run : (Live.sessionKey (.ref h)).run w = .ok key w') : Keyable w (.ref h) := by
  unfold Live.sessionKey at run
  obtain ⟨o, w1, read, rest⟩ := run_bind_eq_ok run
  obtain ⟨rfl, found⟩ := deref_run_inv read
  refine ⟨h, o, rfl, found, ?_⟩
  -- plain records and messages fail to be filed
  split at rest
  · cases rest
  · cases rest
  · next notRecord notMessage =>
    unfold Obj.keyable
    split
    · exact absurd rfl (notRecord _)
    · exact absurd rfl (notMessage _)
    · rfl

theorem attributeOf_ref {w w' : World} {v x : Value} {name : String}
    (run : (attributeOf v name).run w = .ok x w') : ∃ h, v = .ref h := by
  cases v with
  | ref h => exact ⟨h, rfl⟩
  | _ => exact absurd run (noMember_fails _ _ _ _ _)

/-- Every item a filter keeps is an item of its list that the test ran on. -/
theorem filterAuxM_mem {α : Type} {p : α → Act Bool} :
    ∀ (xs acc ys : List α) (w w' : World), (List.filterAuxM p xs acc).run w = .ok ys w' →
      ∀ y ∈ ys, y ∈ acc ∨ y ∈ xs ∧ ∃ w1 b w2, (p y).run w1 = .ok b w2 := by
  intro xs
  induction xs with
  | nil =>
    intro acc ys w w' run y mem
    obtain ⟨rfl, -⟩ := run_pure_eq_ok run
    exact .inl mem
  | cons x rest ih =>
    intro acc ys w w' run y mem
    obtain ⟨b, w1, tested, run⟩ := run_bind_eq_ok run
    rcases ih _ ys w1 w' run y mem with kept | later
    · cases b with
      | false => exact .inl kept
      | true =>
        rcases List.mem_cons.mp kept with rfl | earlier
        · exact .inr ⟨List.mem_cons_self, w, true, w1, tested⟩
        · exact .inl earlier
    · exact .inr ⟨List.mem_cons_of_mem x later.1, later.2⟩

theorem filterM_mem {α : Type} {p : α → Act Bool} {xs ys : List α} {w w' : World}
    (run : (xs.filterM p).run w = .ok ys w') : ∀ y ∈ ys, ∃ w1 b w2, (p y).run w1 = .ok b w2 := by
  unfold List.filterM at run
  obtain ⟨kept, w1, filtered, done⟩ := run_bind_eq_ok run
  obtain ⟨rfl, -⟩ := run_pure_eq_ok done
  intro y mem
  rcases filterAuxM_mem xs [] kept w w1 filtered y (List.mem_reverse.mp mem) with none | tested
  · cases none
  · exact tested.2

/-- The sessions of a listener are references: the listener is read off each of them. -/
theorem findUser_refs {w w' : World} {bank id : Value} {ss : List Value}
    (run : (Live.findUser bank id).run w = .ok ss w') : ∀ s ∈ ss, ∃ h, s = .ref h := by
  unfold Live.findUser at run
  obtain ⟨_, _, -, picked⟩ := run_bind_eq_ok run
  intro s mem
  obtain ⟨_, _, _, asked⟩ := filterM_mem picked s mem
  obtain ⟨_, _, read, -⟩ := run_bind_eq_ok asked
  exact attributeOf_ref read

/-- The sessions from an address are references: the request is read off each of them. -/
theorem findAddress_refs {w w' : World} {bank address : Value} {ss : List Value}
    (run : (Live.findAddress bank address).run w = .ok ss w') : ∀ s ∈ ss, ∃ h, s = .ref h := by
  unfold Live.findAddress at run
  obtain ⟨_, _, -, picked⟩ := run_bind_eq_ok run
  intro s mem
  obtain ⟨_, _, _, asked⟩ := filterM_mem picked s mem
  obtain ⟨_, _, read, -⟩ := run_bind_eq_ok asked
  exact attributeOf_ref read

/-! ## Holding an update -/

theorem Dict.put_of_not_hasKey {d : Dict} {k v : Value} (absent : ¬d.hasKey k = true) :
    d.put k v = d ++ [(k, v)] := by
  simp [Dict.put, absent]

theorem addTimer_run (w : World) (seconds : Double) (callback : String) (c : Callback) :
    (addTimer seconds callback c).run w = .ok (.nat (w.timerCount + 1)) { w with
      timerCount := w.timerCount + 1
      loop := w.loop ++ [(w.timerCount + 1, c)]
      outbox := { w.outbox with
        timers := w.outbox.timers.push
          (.list [.str "add_timeout", .float seconds, .str callback, .nat (w.timerCount + 1)]) } } :=
  rfl

/-- A timer set under the next handle keeps the loop's timers issued. -/
theorem LoopIssued.push_next {w w' : World} (issued : LoopIssued w) {c : Callback}
    (count : w'.timerCount = w.timerCount + 1) (loop : w'.loop = w.loop ++ [(w.timerCount + 1, c)]) :
    LoopIssued w' where
  positive e mem := by
    rw [loop, List.mem_append, List.mem_singleton] at mem
    rcases mem with old | rfl
    · exact issued.positive e old
    · exact Nat.succ_pos _
  issued e mem := by
    rw [loop, List.mem_append, List.mem_singleton] at mem
    rw [count]
    rcases mem with old | rfl
    · exact Nat.le_succ_of_le (issued.issued e old)
    · exact Nat.le_refl _
  handles := by
    rw [loop, List.map_append, List.nodup_append]
    refine ⟨issued.handles, List.nodup_singleton _, ?_⟩
    -- every handle set before is at most the count, and the new one is past it
    intro m old m' new
    obtain ⟨e, mem, rfl⟩ := List.mem_map.mp old
    rw [List.map_singleton, List.mem_singleton] at new
    have below := issued.issued e mem
    omega

/-- Holding a new update of a session, under a timer whose handle is the next one set, keeps the
held updates sound. -/
theorem HeldSound.hold {w w' : World} (sound : HeldSound w) {hb : Nat} {T : Dict}
    (found : throttledAt w hb = some T) {k : Value} (fresh : ∀ t, (k, t) ∉ T) (keyable : Keyable w k)
    (a : Value) (count : w'.timerCount = w.timerCount + 1)
    (loop : w'.loop = w.loop ++ [(w.timerCount + 1, .heldUpdate (.ref hb) k a)])
    (throttled : ∀ i, throttledAt w' i =
      if i = hb then some (T ++ [(k, .nat (w.timerCount + 1))]) else throttledAt w i)
    (keys : ∀ k, Keyable w k → Keyable w' k) : HeldSound w' where
  toLoopIssued := sound.toLoopIssued.push_next count loop
  keys {i _} found' := by
    rw [throttled] at found'
    split at found'
    · next here =>
      subst here
      cases found'
      rw [List.map_append, List.nodup_append]
      refine ⟨sound.keys found, List.nodup_singleton _, ?_⟩
      rintro _ held _ new rfl
      obtain ⟨⟨k', t⟩, mem, rfl⟩ := List.mem_map.mp held
      rw [List.map_singleton, List.mem_singleton] at new
      subst new
      exact fresh t mem
    · exact sound.keys found'
  keyed {i _ _ _} found' mem := by
    rw [throttled] at found'
    split at found'
    · next here =>
      subst here
      cases found'
      rcases List.mem_append.mp mem with old | new
      · exact keys _ (sound.keyed found old)
      · rw [List.mem_singleton, Prod.mk.injEq] at new
        rw [new.1]
        exact keys _ keyable
    · exact keys _ (sound.keyed found' mem)
  timed {i _ _ _} found' mem := by
    rw [throttled] at found'
    split at found'
    · next here =>
      subst here
      cases found'
      rcases List.mem_append.mp mem with old | new
      · obtain ⟨n, a', rfl, entry⟩ := sound.timed found old
        exact ⟨n, a', rfl, loop ▸ List.mem_append_left _ entry⟩
      · rw [List.mem_singleton, Prod.mk.injEq] at new
        obtain ⟨rfl, rfl⟩ := new
        exact ⟨_, a, rfl, loop ▸ List.mem_append_right _ (List.mem_singleton_self _)⟩
    · obtain ⟨n, a', rfl, entry⟩ := sound.timed found' mem
      exact ⟨n, a', rfl, loop ▸ List.mem_append_left _ entry⟩
  held {n _ s _} entry := by
    rw [loop, List.mem_append, List.mem_singleton] at entry
    rcases entry with old | new
    · obtain ⟨i, T0, rfl, found0, mem⟩ := sound.held old
      by_cases here : i = hb
      · subst here
        rw [found, Option.some.injEq] at found0
        subst found0
        exact ⟨i, _, rfl, by rw [throttled, if_pos rfl], List.mem_append_left _ mem⟩
      · exact ⟨i, T0, rfl, by rw [throttled, if_neg here, found0], mem⟩
    · simp only [Prod.mk.injEq, Callback.heldUpdate.injEq] at new
      obtain ⟨rfl, rfl, rfl, rfl⟩ := new
      exact ⟨hb, _, rfl, by rw [throttled, if_pos rfl], List.mem_append_right _ (List.mem_singleton_self _)⟩

theorem holdUpdate_keepsHeld {bank : Value} {h : Nat} {a : Value} :
    KeepsHeld (Live.holdUpdate bank (.ref h) a) := by
  intro w sound
  unfold Live.holdUpdate
  refine (KeepsHeld.of_keepsLoop inferInstance w sound).bind fun key _ ran _ => ?_
  have keyable := sessionKey_keyable ran
  obtain ⟨rfl, rfl⟩ := Live.sessionKey_run ran
  refine (KeepsHeld.of_keepsLoop inferInstance _ sound).bind fun r _ ran _ => ?_
  obtain ⟨hb, b⟩ := r
  obtain ⟨rfl, rfl, stored⟩ := bankAt_stored ran
  dsimp only at stored ⊢
  split
  · exact KeepsHeld.of_keepsLoop (KeepsLoop.pure ()) _ sound
  · next absent =>
    -- a timer under the next handle, and the session held under it
    apply SoundFrom.of_run
    · rw [run_bind_ok (addTimer_run _ _ _ _)]
      apply changeBank_run_of
      exact stored
    have fresh : ∀ t, (Value.ref h, t) ∉ b.throttled := fun t mem => absent (Dict.hasKey_ref.mpr ⟨t, mem⟩)
    exact sound.hold (throttledAt_bank stored) fresh keyable a rfl rfl
      (fun i => (throttledAt_set_bank stored _ i).trans (by rw [Dict.put_of_not_hasKey absent]))
      fun _ keyable => keyable_set_bank stored _ keyable

/-- Holding back updates for the sessions a search finds, each a reference. -/
theorem forIn_hold_keepsHeld {bank a : Value} {ss : List Value} (refs : ∀ s ∈ ss, ∃ h, s = .ref h) :
    KeepsHeld (forIn ss PUnit.unit fun s (_ : PUnit) => do
      Live.holdUpdate bank s a
      pure (ForInStep.yield PUnit.unit)) := by
  refine KeepsHeld.forIn_of_mem _ _ fun s mem _ => ?_
  obtain ⟨h, rfl⟩ := refs s mem
  exact KeepsHeld.bind holdUpdate_keepsHeld fun _ => .of_keepsLoop (KeepsLoop.pure _)

theorem updateUser_keepsHeld {bank id : Value} : KeepsHeld (Live.updateUser bank id) := by
  intro w sound
  unfold Live.updateUser
  refine (KeepsHeld.of_keepsLoop inferInstance w sound).bind fun ss w1 ran sound1 => ?_
  exact KeepsHeld.bind (forIn_hold_keepsHeld (findUser_refs ran))
    (fun _ => .of_keepsLoop (KeepsLoop.pure _)) w1 sound1

theorem updateAddress_keepsHeld {bank address : Value} : KeepsHeld (Live.updateAddress bank address) := by
  intro w sound
  unfold Live.updateAddress
  refine (KeepsHeld.of_keepsLoop inferInstance w sound).bind fun ss w1 ran sound1 => ?_
  exact KeepsHeld.bind (forIn_hold_keepsHeld (findAddress_refs ran))
    (fun _ => .of_keepsLoop (KeepsLoop.pure _)) w1 sound1

/-! ## A timer comes due -/

/-- The loop finds a timer by its handle. -/
theorem LoopIssued.find?_handle {w : World} (issued : LoopIssued w) {e : Nat × Callback}
    (mem : e ∈ w.loop) : w.loop.find? (·.1 == e.1) = some e := by
  obtain ⟨e', first⟩ := Option.isSome_iff_exists.mp
    (List.find?_isSome (p := fun (x : Nat × Callback) => x.1 == e.1) |>.mpr ⟨e, mem, by simp⟩)
  have handle : e'.1 = e.1 := by
    simpa using List.find?_some (p := fun (x : Nat × Callback) => x.1 == e.1) first
  rw [first, List.inj_on_of_nodup_map issued.handles (List.mem_of_find?_eq_some first) mem handle]

theorem fire_run_of_find {w : World} {n m : Nat} {c : Callback}
    (found : w.loop.find? (·.1 == n) = some (m, c)) :
    (fire n).run w = c.run.run { w with loop := w.loop.filter (·.1 != n) } := by
  unfold fire
  rw [run_bind_ok (show (get : Act World).run w = .ok w w from rfl), found]
  rfl

/-- The timer of a held update comes due: it leaves the loop, the session's hold is dropped, and
what the listener's update does keeps the loop. Afterwards the held updates are sound and no
timer has its handle. -/
theorem fire_heldUpdate {w : World} (sound : HeldSound w) {n : Nat} {bank s a : Value}
    (entry : (n, .heldUpdate bank s a) ∈ w.loop) :
    (∀ r w', (fire n).run w = .ok r w' → HeldSound w' ∧ ∀ e ∈ w'.loop, e.1 ≠ n) ∧
      (∀ f w', (fire n).run w = .error f w' → HeldSound w' ∧ ∀ e ∈ w'.loop, e.1 ≠ n) := by
  obtain ⟨hb, T, rfl, table, held⟩ := sound.held entry
  obtain ⟨b, stored, rfl⟩ := bank_of_throttledAt table
  have keyable := sound.keyed table held
  obtain ⟨h, -, rfl, -, -⟩ := id keyable
  rw [fire_run_of_find (sound.find?_handle entry)]
  set w1 : World := { w with loop := w.loop.filter (·.1 != n) } with unfired
  unfold Callback.run Live.heldUpdate
  rw [run_bind_ok (sessionKey_run_of_keyable (w := w1) keyable),
    run_bind_ok (bankAt_run_of (w := w1) stored)]
  dsimp only
  rw [if_neg (by simpa using Dict.hasKey_ref.mpr ⟨_, held⟩),
    run_bind_ok (changeBank_run_of (w := w1) stored _)]
  -- the hold and its timer are dropped together
  have dropped : HeldSound { w1 with
      store := w1.store.set! hb (.bank { b with throttled := Dict.without b.throttled (.ref h) }) } := by
    refine sound.drop table (fun k => Value.equals k (.ref h)) List.filter_sublist ?left ?cancelled rfl
      (throttledAt_set_bank stored _) fun _ keyable => keyable_set_bank stored _ keyable
    case left =>
      intro e mem other
      have differs := other _ held (by simp)
      rw [ne_eq, Value.nat_inj] at differs
      exact List.mem_filter.mpr ⟨mem, by simpa using Ne.symm differs⟩
    case cancelled =>
      intro e mem p mem' eqKey same
      rw [Value.equals_ref_right] at eqKey
      have one := List.inj_on_of_nodup_map (sound.keys table) mem' held eqKey
      rw [one, Value.nat_inj] at same
      have stays := (List.mem_filter.mp mem).2
      rw [same] at stays
      simp at stays
  have gone : ∀ e ∈ w1.loop, e.1 ≠ n := fun e mem => by
    simpa using (List.mem_filter.mp mem).2
  -- the listener's update keeps the loop, so no timer comes back under the handle
  exact ⟨fun r w' run => have kept := ok_kept run; ⟨kept.held dropped, fun e mem => gone e (kept.loop.subset mem)⟩,
    fun f w' run => have kept := error_kept run; ⟨kept.held dropped, fun e mem => gone e (kept.loop.subset mem)⟩⟩

/-- The timer under a handle comes due, if it is there and serves a held update; other timers
wait. -/
def fireHeld (n : Nat) : Act Unit := do
  match (← get).loop.find? (·.1 == n) with
  | some (_, .heldUpdate _ _ _) => fire n
  | _ => pure ()

theorem fireHeld_keepsHeld (n : Nat) : KeepsHeld (fireHeld n) := by
  intro w sound
  unfold fireHeld
  rw [SoundFrom, run_bind_ok (show (get : Act World).run w = .ok w w from rfl)]
  split
  · next m bank s a found =>
    have entry := List.mem_of_find?_eq_some found
    have handle : m = n := by simpa using List.find?_some found
    subst handle
    exact ⟨fun r w' run => ((fire_heldUpdate sound entry).1 r w' run).1,
      fun f w' run => ((fire_heldUpdate sound entry).2 f w' run).1⟩
  · exact KeepsHeld.of_keepsLoop (KeepsLoop.pure ()) w sound

/-! ## Interleavings -/

/-- What happens to the banks' held updates: the sessions of a listener or from an address are
updated, a session is removed, a bank is cleared or all of its sessions updated, or the timer of
a held update comes due. -/
inductive BankEvent where
  | updateUser (bank id : Value)
  | updateAddress (bank address : Value)
  | remove (bank s : Value)
  | clear (bank : Value)
  | updateAll (bank : Value)
  | due (handle : Nat)

/-- What an event runs. -/
def BankEvent.run : BankEvent → Act Unit
  | .updateUser bank id => Live.updateUser bank id
  | .updateAddress bank address => Live.updateAddress bank address
  | .remove bank s => Live.remove bank s
  | .clear bank => Live.clear bank
  | .updateAll bank => Live.updateAll bank
  | .due n => fireHeld n

/-- The world after events, one after another, each from where the one before left off, whether
it returned or failed. -/
def afterEvents : List BankEvent → World → World
  | [], w => w
  | e :: rest, w => afterEvents rest (worldAfter e.run w)

theorem BankEvent.keepsHeld : ∀ e : BankEvent, KeepsHeld e.run
  | .updateUser _ _ => updateUser_keepsHeld
  | .updateAddress _ _ => updateAddress_keepsHeld
  | .remove bank s => .of_keepsLoop (inferInstance : KeepsLoop (Live.remove bank s))
  | .clear bank => .of_keepsLoop (inferInstance : KeepsLoop (Live.clear bank))
  | .updateAll bank => .of_keepsLoop (inferInstance : KeepsLoop (Live.updateAll bank))
  | .due n => fireHeld_keepsHeld n

theorem afterEvents_sound (es : List BankEvent) {w : World} (sound : HeldSound w) :
    HeldSound (afterEvents es w) := by
  -- induction on the events; each keeps the held updates sound
  induction es generalizing w with
  | nil => exact sound
  | cons e rest ih => exact ih (e.keepsHeld w sound).worldAfter

/-! ## Exact timers -/

/-- The timers of held updates are exact: each session a bank holds has exactly one timer, the
one under the handle it is held with; every timer of a held update serves a session its bank
holds under that timer's handle; and a timer of a held update that comes due leaves neither a
timer nor a hold under its handle. -/
structure TimersExact (w : World) : Prop where
  one : ∀ {hb T k t}, throttledAt w hb = some T → (k, t) ∈ T →
    ∃ n, t = .nat n ∧ ∀ e ∈ w.loop, (∃ a, e.2 = .heldUpdate (.ref hb) k a) ↔ e.1 = n
  held : ∀ {n bank s a}, (n, .heldUpdate bank s a) ∈ w.loop →
    ∃ hb T, bank = .ref hb ∧ throttledAt w hb = some T ∧ (s, .nat n) ∈ T
  due : ∀ {n bank s a}, (n, .heldUpdate bank s a) ∈ w.loop →
    (∀ e ∈ (worldAfter (fire n) w).loop, e.1 ≠ n) ∧
      ∀ hb T k, throttledAt (worldAfter (fire n) w) hb = some T → (k, .nat n) ∉ T

/-- A held session's timers are exactly the entry under the handle it is held with. -/
theorem HeldSound.timer_exactly_one {w : World} (sound : HeldSound w) {hb : Nat} {T : Dict}
    {k t : Value} (found : throttledAt w hb = some T) (mem : (k, t) ∈ T) :
    ∃ n, t = .nat n ∧ ∀ e ∈ w.loop, (∃ a, e.2 = .heldUpdate (.ref hb) k a) ↔ e.1 = n := by
  obtain ⟨n, a, rfl, entry⟩ := sound.timed found mem
  refine ⟨n, rfl, fun ⟨m, c⟩ mem' => ⟨?_, ?_⟩⟩
  · rintro ⟨a', rfl⟩
    -- a timer serving the session holds it under its own handle, and it is held only once
    obtain ⟨i, T', same, found', held⟩ := sound.held mem'
    rw [Value.ref.injEq] at same
    subst same
    rw [found, Option.some.injEq] at found'
    subst found'
    have one := List.inj_on_of_nodup_map (sound.keys found) held mem rfl
    rw [Prod.mk.injEq, Value.nat_inj] at one
    exact one.2
  · rintro (rfl : m = n)
    -- the handles are distinct, so the entry under the handle is the one serving the session
    have same := List.inj_on_of_nodup_map sound.handles mem' entry rfl
    rw [Prod.mk.injEq] at same
    exact ⟨a, same.2⟩

theorem HeldSound.timersExact {w : World} (sound : HeldSound w) : TimersExact w where
  one found mem := sound.timer_exactly_one found mem
  held entry := sound.held entry
  due {n _ _ _} entry := by
    -- after the timer, the held updates are sound and no timer has its handle, so nothing is
    -- held under it
    have after : HeldSound (worldAfter (fire n) w) ∧ ∀ e ∈ (worldAfter (fire n) w).loop, e.1 ≠ n := by
      unfold worldAfter
      split
      · next r w' run => exact (fire_heldUpdate sound entry).1 r w' run
      · next f w' run => exact (fire_heldUpdate sound entry).2 f w' run
    refine ⟨after.2, fun hb T k found mem => ?_⟩
    obtain ⟨m, a, same, timer⟩ := after.1.timed found mem
    rw [Value.nat_inj] at same
    exact after.2 _ timer same.symm

theorem held_updates_timed (es : List BankEvent) {w : World} (sound : HeldSound w) :
    TimersExact (afterEvents es w) :=
  (afterEvents_sound es sound).timersExact

/-- Held updates are sound where the loop is empty and no bank holds anything back. -/
theorem HeldSound.of_idle {w : World} (loop : w.loop = [])
    (idle : ∀ hb T, throttledAt w hb = some T → T = []) : HeldSound w where
  positive e mem := by
    rw [loop] at mem
    cases mem
  issued e mem := by
    rw [loop] at mem
    cases mem
  handles := by
    rw [loop]
    exact List.nodup_nil
  keys found := by
    rw [idle _ _ found]
    exact List.nodup_nil
  keyed found mem := by
    rw [idle _ _ found] at mem
    cases mem
  timed found mem := by
    rw [idle _ _ found] at mem
    cases mem
  held entry := by
    rw [loop] at entry
    cases entry

/-- A station's bank with one connection, of listener 7, and an empty loop. -/
def listenerBank : World :=
  { store := #[.bank { websockets := [.ref 1] }, .socket { fields := [("user", .ref 2)] }, .user { id := .int 7 }] }

theorem listenerBank_sound : HeldSound listenerBank := by
  refine .of_idle rfl fun hb T found => ?_
  rcases hb with _ | _ | _ | hb
  · simp only [throttledAt, listenerBank] at found
    exact (Option.some.inj found).symm
  · simp [throttledAt, listenerBank, Obj.throttledOf] at found
  · simp [throttledAt, listenerBank, Obj.throttledOf] at found
  · simp [throttledAt, listenerBank] at found

/-- Listener 7 is updated twice, which holds one update under timer 1; the timer comes due and
serves it; a third update is held under timer 2, and removing the connection cancels it. -/
def serveThenCancel : List BankEvent :=
  [.updateUser (.ref 0) (.int 7), .updateUser (.ref 0) (.int 7), .due 1, .updateUser (.ref 0) (.int 7),
    .remove (.ref 0) (.ref 1)]

/-- Along `serveThenCancel` the loop holds timer 1, then nothing once it is served, then timer 2,
then nothing once it is cancelled, and the timers are exact after every event. -/
theorem listenerBank_timers_exact :
    HeldSound listenerBank ∧
      (afterEvents (serveThenCancel.take 2) listenerBank).loop.map Prod.fst = [1] ∧
      (afterEvents (serveThenCancel.take 3) listenerBank).loop = [] ∧
      (afterEvents (serveThenCancel.take 4) listenerBank).loop.map Prod.fst = [2] ∧
      (afterEvents serveThenCancel listenerBank).loop = [] ∧
      ∀ k, TimersExact (afterEvents (serveThenCancel.take k) listenerBank) :=
  ⟨listenerBank_sound, by decide +kernel, by decide +kernel, by decide +kernel, by decide +kernel,
    fun k => held_updates_timed _ listenerBank_sound⟩

end Airwaves
