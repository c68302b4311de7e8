import Airwaves.Proofs.RatingWindow
/-!
# Signing a listener in

A refused key leaves the user and the database as they were; once in, nothing changes the user's
id or listen key, and a user without a listen key is given one of ten characters.
-/

namespace Airwaves.Dict

theorem lookup?_map_put_other (d : Dict) {k : Value} {b : String} (other : Value.equals k (.str b) = false)
    (x : Value) :
    lookup? (d.map fun e => if Value.equals e.1 k then (e.1, x) else e) (.str b) = lookup? d (.str b) := by
  induction d with
  | nil => rfl
  | cons e rest ih =>
    by_cases under : Value.equals e.1 k = true
    · -- an entry under `k` is not under the text key, so its new value is never found
      have missed : Value.equals e.1 (.str b) = false := by
        by_contra found
        rw [Bool.not_eq_false, Value.equals_str_right] at found
        rw [found, Value.equals_str_left] at under
        rw [under] at other
        simp [Value.equals] at other
      simp [lookup?_cons, under, missed, ih]
    · simp [lookup?_cons, under, ih]

theorem lookup?_put_str (d : Dict) (k x : Value) (b : String) :
    lookup? (put d k x) (.str b) = if Value.equals k (.str b) then some x else lookup? d (.str b) := by
  by_cases same : Value.equals k (.str b) = true
  · rw [if_pos same, Value.equals_str_right.mp same]
    exact lookup?_put_self d x (by simp [Value.equals])
  · rw [if_neg same]
    rw [Bool.not_eq_true] at same
    unfold put
    split
    · exact lookup?_map_put_other d same x
    · rw [lookup?_append, lookup?_cons, same]
      simp [lookup?_nil]

/-- Merging a mapping sets each of its entries in turn, so the last entry under a text key
wins over what was there. -/
theorem lookup?_merge_str (d es : Dict) (b : String) :
    lookup? (merge d es) (.str b) = (lookup? es.reverse (.str b)).or (lookup? d (.str b)) := by
  induction es generalizing d with
  | nil => simp [merge, lookup?_nil]
  | cons e rest ih =>
    rw [show merge d (e :: rest) = merge (put d e.1 e.2) rest from rfl, ih, lookup?_put_str,
      List.reverse_cons, lookup?_append, lookup?_cons, lookup?_nil]
    by_cases under : Value.equals e.1 (.str b) = true <;> simp [under]

theorem lookup?_of_absent {es : Dict} {b : String} (absent : ∀ e ∈ es, e.1 ≠ .str b) :
    lookup? es (.str b) = none := by
  simp only [lookup?, Option.map_eq_none_iff, List.find?_eq_none]
  intro e mem found
  exact absent e mem (Value.equals_str_right.mp found)

/-- In a mapping whose keys differ, the first and the last entry under a text key are one. -/
theorem lookup?_reverse_str {es : Dict} (distinct : es.Pairwise fun a b => a.1 ≠ b.1) (b : String) :
    lookup? es.reverse (.str b) = lookup? es (.str b) := by
  induction es with
  | nil => rfl
  | cons e rest ih =>
    rw [List.pairwise_cons] at distinct
    rw [List.reverse_cons, lookup?_append, ih distinct.2, lookup?_cons, lookup?_cons, lookup?_nil]
    by_cases under : Value.equals e.1 (.str b) = true
    · have rest_absent : lookup? rest (.str b) = none := lookup?_of_absent fun e' mem same =>
        distinct.1 e' mem ((Value.equals_str_right.mp under).trans same.symm)
      simp [under, rest_absent]
    · simp [under]

/-- Merging a row whose keys differ sets each of its entries. -/
theorem field?_merge_row {row : Dict} (distinct : row.Pairwise fun a b => a.1 ≠ b.1) {key : String}
    {x : Value} (holds : field? row key = some x) (d : Dict) : field? (merge d row) key = some x := by
  unfold field? at holds ⊢
  rw [lookup?_merge_str, lookup?_reverse_str distinct, holds, Option.some_or]

end Airwaves.Dict

namespace Airwaves

/-- An action that, whenever it succeeds, leaves a view of the world as it found it. -/
def Keeps {α β : Type} (view : World → β) (x : Act α) : Prop :=
  ∀ w r w', x.run w = .ok r w' → view w' = view w

namespace Keeps

variable {α β γ : Type} {view : World → γ}

theorem of_readOnly {x : Act α} (h : ReadOnly x) : Keeps view x := by
  intro w r w' run
  rw [h w r w' run]

theorem bind {x : Act α} {f : α → Act β} (hx : Keeps view x) (hf : ∀ a, Keeps view (f a)) :
    Keeps view (x >>= f) := by
  intro w r w' run
  obtain ⟨a, w1, first, rest⟩ := run_bind_eq_ok run
  rw [hf a w1 r w' rest, hx w a w1 first]

theorem forIn (xs : List α) (b : β) {f : α → β → Act (ForInStep β)}
    (hf : ∀ x b, Keeps view (f x b)) : Keeps view (forIn xs b f) := by
  intro w r w' run
  exact forIn_run_invariant (fun _ w1 => view w1 = view w) f
    (fun x b _ w1 w2 same pass => (hf x b w1 _ w2 pass).trans same) xs b r w w' rfl run

theorem run_eq {x : Act α} (keeps : Keeps view x) {w w' : World} {r : α} (run : x.run w = .ok r w') :
    view w' = view w :=
  keeps w r w' run

end Keeps

/-- Every successful run of the action leaves a world where `Q` holds, whatever it started from. -/
def Leaves {α : Type} (Q : World → Prop) (x : Act α) : Prop := ∀ w r w', x.run w = .ok r w' → Q w'

theorem Leaves.bind {α β : Type} {Q : World → Prop} {x : Act α} {f : α → Act β}
    (hf : ∀ a, Leaves Q (f a)) : Leaves Q (x >>= f) := by
  intro w r w' run
  obtain ⟨a, w1, -, rest⟩ := run_bind_eq_ok run
  exact hf a w1 r w' rest

theorem call_row_queue (db : Database) {k : QueryKind} (other : k ≠ .row) (params : Option (List Value))
    (sql : String) : (db.call k params sql).2.queues.row = db.queues.row := by
  cases k <;> first | exact absurd rfl other | rfl

/-- Whether an action succeeds from a world. -/
def succeeds (x : Act Unit) (w : World) : Bool :=
  match x.run w with
  | .ok _ _ => true
  | .error _ _ => false

/-- The world an action leaves. -/
def worldAfter (x : Act Unit) (w : World) : World :=
  match x.run w with
  | .ok _ w' => w'
  | .error _ w' => w'

theorem run_eq_ok_of_succeeds {x : Act Unit} {w : World} (ok : succeeds x w = true) :
    x.run w = .ok () (worldAfter x w) := by
  unfold succeeds at ok
  unfold worldAfter
  revert ok
  cases x.run w <;> simp

end Airwaves

namespace Airwaves.Listeners

/-- The user under a handle of the store, if the handle holds one. -/
def userIn (store : Array Obj) (h : Nat) : Option User :=
  match store[h]? with
  | some (.user u) => some u
  | _ => none

/-- What signing a user in keeps of the world beside a part of that user: the configuration
and the rows the database has yet to answer. -/
def userView {β : Type} (h : Nat) (part : User → β) (w : World) : Config × List Value × Option β :=
  (w.config, w.db.queues.row, (userIn w.store h).map part)

theorem userIn_eq_some {store : Array Obj} {h : Nat} {u : User} :
    userIn store h = some u ↔ store[h]? = some (.user u) := by
  unfold userIn
  split <;> simp_all

theorem userIn_of_store {store : Array Obj} {h : Nat} {u : User} (stored : store[h]? = some (.user u)) :
    userIn store h = some u :=
  userIn_eq_some.mpr stored

theorem userIn_set {store : Array Obj} {h : Nat} {u : User} (stored : store[h]? = some (.user u))
    (u' : User) : userIn (store.set! h (.user u')) h = some u' :=
  userIn_of_store (Live.set_self _ stored)

theorem changeUser_run {w : World} {h : Nat} {u : User} (stored : w.store[h]? = some (.user u))
    (f : User → User) :
    (changeUser (.ref h) f).run w = .ok () { w with store := w.store.set! h (.user (f u)) } := by
  simp [changeUser, userAt, updateUser, deref, stored]
  rfl

theorem changeUser_result {w w' : World} {h : Nat} {f : User → User} {r : Unit}
    (run : (changeUser (.ref h) f).run w = .ok r w') :
    ∃ u, w.store[h]? = some (.user u) ∧ w' = { w with store := w.store.set! h (.user (f u)) } := by
  -- the user must be found under the handle before it is changed
  obtain ⟨_, w1, found, -⟩ := run_bind_eq_ok run
  obtain ⟨o, w0, fetched, matched⟩ := run_bind_eq_ok found
  obtain ⟨rfl, stored⟩ := deref_run_inv fetched
  cases o with
  | user u =>
    rw [changeUser_run stored] at run
    exact ⟨u, stored, (EStateM.Result.ok.inj run).2.symm⟩
  | _ => exact absurd matched (noMember_fails _ _ _ _ _)

theorem changeUser_keeps {β : Type} {h : Nat} {part : User → β} {f : User → User}
    (keeps : ∀ u, part (f u) = part u) : Keeps (userView h part) (changeUser (.ref h) f) := by
  intro w r w' run
  obtain ⟨u, stored, rfl⟩ := changeUser_result run
  simp only [userView, userIn_set stored, userIn_of_store stored, Option.map_some, keeps]

theorem userAt_readOnly (v : Value) : ReadOnly (userAt v) := by
  unfold userAt
  repeat' first
    | split
    | with_reducible exact ReadOnly.pure _
    | with_reducible exact deref_readOnly _
    | with_reducible exact noMember_readOnly _ _
    | with_reducible apply ReadOnly.bind
    | intro _

theorem userOf_readOnly (v : Value) : ReadOnly (userOf v) :=
  (userAt_readOnly v).bind fun _ => .pure _

theorem dataOf_readOnly (u : User) (key : String) : ReadOnly (dataOf u key) := by
  unfold dataOf
  split
  · exact .pure _
  · exact .raise _

theorem isGreater_readOnly (a b : Value) : ReadOnly (isGreater a b) := .pure _

theorem isIn_readOnly (key c : Value) : ReadOnly (isIn key c) := by
  unfold isIn
  split
  · exact .raise _
  · exact .lift _

theorem isKeyText_readOnly (key : Value) : ReadOnly (isKeyText key) := by
  unfold isKeyText
  split
  · exact .pure _
  · exact .raise _

theorem configGet_readOnly (key : String) : ReadOnly (Config.get key) := by
  unfold Config.get Config.option Config.require Config.has Config.current
  repeat' first
    | split
    | with_reducible exact ReadOnly.pure _
    | with_reducible exact ReadOnly.raise _
    | with_reducible exact ReadOnly.get
    | with_reducible apply ReadOnly.bind
    | intro _

section Frames

variable {β : Type} {h : Nat} {part : User → β}

theorem query_keeps {k : QueryKind} (other : k ≠ .row) (params : List Value) :
    Keeps (userView h part) (query k params) := by
  intro w r w' run
  rw [Cache.query_run] at run
  cases run
  simp [userView, call_row_queue _ other]

theorem put_keeps (key : String) (v : Value) (keepLocal : Bool) :
    Keeps (userView h part) (Cache.put key v keepLocal) := by
  intro w r w' run
  rw [Cache.put_run _ _ _ (Cache.put_connected run)] at run
  cases run
  rfl

theorem randomBelow_keeps (n : Nat) : Keeps (userView h part) (randomBelow n) := by
  intro w r w' run
  simp only [randomBelow, EStateM.run_bind, EStateM.run_get] at run
  cases run
  rfl

theorem userKey_readOnly (v : Value) (key : String) : ReadOnly (Cache.userKey v key) := by
  unfold Cache.userKey
  split
  · exact .pure _
  · exact (userAt_readOnly _).bind fun _ => .pure _
  · exact .pure _

theorem storedKeys_keeps : Keeps (userView h part) (storedKeys (.ref h)) := by
  unfold storedKeys Cache.putUser fetchList
  repeat' first
    | split
    | with_reducible exact Keeps.of_readOnly (ReadOnly.pure _)
    | with_reducible exact Keeps.of_readOnly (userOf_readOnly _)
    | with_reducible exact Keeps.of_readOnly (isGreater_readOnly _ _)
    | with_reducible exact Keeps.of_readOnly (userKey_readOnly _ _)
    | with_reducible exact query_keeps (by decide) _
    | with_reducible exact put_keeps _ _ _
    | with_reducible apply Keeps.bind
    | intro _

end Frames

theorem lookup?_without_str_other (d : Dict) {a b : String} (ne : a ≠ b) :
    Dict.lookup? (Dict.without d (.str a)) (.str b) = Dict.lookup? d (.str b) := by
  induction d with
  | nil => rfl
  | cons e rest ih =>
    unfold Dict.without Dict.lookup? at *
    by_cases removed : Value.equals e.1 (.str a) = true
    · -- an entry under the removed key is not one under the key looked up
      have other : Value.equals e.1 (.str b) = false := by
        rw [Value.equals_str_right.mp removed]
        simpa [Value.equals] using ne
      rw [List.filter_cons_of_neg (by simpa using removed), List.find?_cons_of_neg (by simp [other]), ih]
    · rw [List.filter_cons_of_pos (by simpa using removed)]
      cases found : Value.equals e.1 (.str b)
      · rw [List.find?_cons_of_neg (by simp [found]), List.find?_cons_of_neg (by simp [found]), ih]
      · rw [List.find?_cons_of_pos (by simp [found]), List.find?_cons_of_pos (by simp [found])]

theorem mergeData_dict (v : Value) (es : Dict) :
    mergeData v (.dict es) = changeUser v fun u => { u with data := Dict.merge u.data es } := by
  simp only [mergeData, updateEntries, pure_bind]

/-- The part of a user the tune-in path reads: the id and the listen key. -/
def keyPart (u : User) : Value × Option Value := (u.id, Dict.field? u.data "listen_key")

section ListenKey

variable {h : Nat}

theorem setData_keeps {key : String} (other : key ≠ "listen_key") (x : Value) :
    Keeps (userView h keyPart) (setData (.ref h) key x) :=
  changeUser_keeps fun u => by
    simp [keyPart, Dict.field?, Dict.putField, Cache.lookup?_put_str_other _ other]

theorem popData_keeps {key : String} (other : key ≠ "listen_key") :
    Keeps (userView h keyPart) (popData (.ref h) key) := by
  unfold popData
  refine (Keeps.of_readOnly (userOf_readOnly _)).bind fun u => ?_
  refine (Keeps.of_readOnly (dataOf_readOnly _ _)).bind fun x => ?_
  refine (changeUser_keeps fun u => ?_).bind fun _ => Keeps.of_readOnly (.pure _)
  simp [keyPart, Dict.field?, lookup?_without_str_other _ other]

theorem drawKey_keeps : Keeps (userView h keyPart) drawKey := by
  unfold drawKey
  refine (Keeps.forIn _ _ fun _ _ => ?_).bind fun _ => Keeps.of_readOnly (.pure _)
  exact (randomBelow_keeps _).bind fun _ => Keeps.of_readOnly (.pure _)

theorem newListenKey_keeps : Keeps (userView h keyPart) (newListenKey (.ref h)) := by
  unfold newListenKey Value.record
  simp only [mergeData_dict]
  refine drawKey_keeps.bind fun key => ?_
  refine (Keeps.of_readOnly (userOf_readOnly _)).bind fun u => ?_
  refine (query_keeps (by decide) _).bind fun _ => changeUser_keeps fun u => ?_
  simp [keyPart, Dict.field?, Dict.merge, Dict.ofStrings, Cache.lookup?_put_str_other]

end ListenKey

theorem fetchRow_answer {db : Database} {row : Value} {later : List Value}
    (rows : db.queues.row = row :: later) (params : List Value) :
    (db.call .row (some params) "").1 = row ∧ (db.call .row (some params) "").2.queues.row = later := by
  simp [Database.call, Database.take, Database.record, Queues.get, Queues.put, rows]

/-- Signing a registered user in once the key is accepted: the stored row is merged into the
user's data, and nothing after that changes the user's id or listen key. -/
theorem signIn_keyView {w w' : World} {h : Nat} {u : User} {key : Value} {es : Dict}
    {later : List Value} (stored : w.store[h]? = some (.user u))
    (rows : w.db.queues.row = .dict es :: later)
    (run : (authorizeRegistered (.ref h) key true).run w = .ok () w') :
    userView h keyPart w' = (w.config, later, some (u.id, Dict.field? (Dict.merge u.data es) "listen_key")) := by
  unfold authorizeRegistered at run
  simp only [Bool.not_true, Bool.false_eq_true, ite_false] at run
  obtain ⟨_, w1, signed, run⟩ := run_bind_eq_ok run
  rw [changeUser_run stored] at signed
  cases signed
  have signedUser := Live.set_self (.user { u with authorized := .bool true }) stored
  obtain ⟨u1, w2, found, run⟩ := run_bind_eq_ok run
  rw [Api.Ratings.listener_run signedUser] at found
  cases found
  obtain ⟨r, w3, fetched, run⟩ := run_bind_eq_ok run
  rw [fetchRow, Cache.query_run, (fetchRow_answer rows _).1] at fetched
  cases fetched
  obtain ⟨_, w4, merged, run⟩ := run_bind_eq_ok run
  rw [mergeData_dict, changeUser_run signedUser] at merged
  cases merged
  -- every path after the merge only reads, sets other entries, or draws a new key
  rw [Keeps.run_eq (?rest : Keeps (userView h keyPart) _) run]
  · simp only [userView, keyPart, userIn_set signedUser, Option.map_some, (fetchRow_answer rows _).2]
  case rest =>
    repeat' first
      | with_reducible refine Keeps.bind ?_ fun _ => ?_
      | split
      | with_reducible exact Keeps.of_readOnly (userOf_readOnly _)
      | with_reducible exact Keeps.of_readOnly (dataOf_readOnly _ _)
      | with_reducible exact setData_keeps (by decide) _
      | with_reducible exact popData_keeps (by decide)
      | with_reducible exact newListenKey_keeps
      | with_reducible exact Keeps.of_readOnly (configGet_readOnly _)
      | with_reducible exact Keeps.of_readOnly (isGreater_readOnly _ _)
      | with_reducible exact Keeps.of_readOnly (ReadOnly.pure _)

/-- A loop whose every pass adds one character to the text it carries ends with one character
per item. -/
theorem forIn_push_length {α : Type} {f : α → String → Act (ForInStep String)}
    (pushes : ∀ x acc w r w', (f x acc).run w = .ok r w' → ∃ c, r = .yield (acc.push c)) :
    ∀ (xs : List α) (s r : String) (w w' : World), (forIn xs s f).run w = .ok r w' →
      r.length = s.length + xs.length := by
  intro xs
  induction xs with
  | nil =>
    intro s r w w' run
    obtain ⟨rfl, -⟩ := run_pure_eq_ok run
    rfl
  | cons x rest ih =>
    intro s r w w' run
    rw [List.forIn_cons] at run
    obtain ⟨step, w1, pass, run⟩ := run_bind_eq_ok run
    obtain ⟨c, rfl⟩ := pushes x s w step w1 pass
    rw [ih _ r w1 w' run, String.length_push, List.length_cons]
    omega

theorem drawKey_length {w w' : World} {key : Value} (run : drawKey.run w = .ok key w') :
    ∃ s : String, key = .str s ∧ s.length = 10 := by
  unfold drawKey at run
  obtain ⟨s, w1, loop, done⟩ := run_bind_eq_ok run
  obtain ⟨rfl, -⟩ := run_pure_eq_ok done
  refine ⟨s, rfl, ?_⟩
  have drawn := forIn_push_length (fun x acc w r w' pass => by
    obtain ⟨_, _, -, yielded⟩ := run_bind_eq_ok pass
    exact ⟨_, (run_pure_eq_ok yielded).1⟩) _ _ s w w1 loop
  simpa using drawn

theorem userOf_result {w w' : World} {h : Nat} {u : User} (run : (userOf (.ref h)).run w = .ok u w') :
    w' = w ∧ userIn w.store h = some u := by
  obtain ⟨⟨_, u'⟩, w1, found, done⟩ := run_bind_eq_ok run
  obtain ⟨rfl, rfl⟩ := run_pure_eq_ok done
  obtain ⟨o, w0, fetched, matched⟩ := run_bind_eq_ok found
  obtain ⟨rfl, stored⟩ := deref_run_inv fetched
  cases o with
  | user u =>
    obtain ⟨same, rfl⟩ := run_pure_eq_ok matched
    cases same
    exact ⟨rfl, userIn_of_store stored⟩
  | _ => exact absurd matched (noMember_fails _ _ _ _ _)

/-- A new listen key: ten characters written to the database as the last call, beside the
user's id; the user keeps the id. -/
theorem newListenKey_result {w w' : World} {h : Nat} {r : Unit}
    (run : (newListenKey (.ref h)).run w = .ok r w') :
    ∃ fresh : String, ∃ id : Value, fresh.length = 10 ∧
      w'.db.log.back? = some (.list [.str "update", .list [.str fresh, id]]) ∧
      (userIn w'.store h).map User.id = some id := by
  unfold newListenKey Value.record at run
  simp only [mergeData_dict] at run
  obtain ⟨key, w1, drawn, afterDraw⟩ := run_bind_eq_ok run
  obtain ⟨fresh, rfl, ten⟩ := drawKey_length drawn
  obtain ⟨u, w2, found, afterFind⟩ := run_bind_eq_ok afterDraw
  obtain ⟨rfl, present⟩ := userOf_result found
  obtain ⟨_, w3, written, merged⟩ := run_bind_eq_ok afterFind
  simp only [dbUpdate, Cache.query_run] at written
  cases written
  obtain ⟨u', stored, rfl⟩ := changeUser_result merged
  have same : u' = u := by
    rw [userIn_of_store stored] at present
    exact Option.some.inj present
  subst same
  refine ⟨fresh, u'.id, ten, ?_, ?_⟩
  · simp [Database.call, Database.take, Database.record, QueryKind.name]
  · simp only [userIn_set stored, Option.map_some]

theorem dataOf_result {w w' : World} {u : User} {key : String} {x : Value}
    (run : (dataOf u key).run w = .ok x w') : w' = w ∧ Dict.field? u.data key = some x := by
  unfold dataOf at run
  split at run
  · obtain ⟨rfl, rfl⟩ := run_pure_eq_ok run
    exact ⟨rfl, ‹_›⟩
  · simp at run

/-- A user under the handle whose listen key is unset has just had a fresh key of ten
characters written to the database beside the user's id. -/
def FreshKeyWritten (h : Nat) (w : World) : Prop :=
  ∀ u x, userIn w.store h = some u → Dict.field? u.data "listen_key" = some x → x.truthy = false →
    ∃ fresh : String, fresh.length = 10 ∧ w.db.log.back? = some (.list [.str "update", .list [.str fresh, u.id]])

/-- The last step of signing a user in: a user without a listen key is given one. -/
theorem keyCheck_leaves (h : Nat) : Leaves (FreshKeyWritten h) (do
    let u ← userOf (.ref h)
    let x ← dataOf u "listen_key"
    if (!x.truthy) = true then newListenKey (.ref h) else pure ()) := by
  intro w r w' run
  obtain ⟨u, w1, found, afterFind⟩ := run_bind_eq_ok run
  obtain ⟨rfl, present⟩ := userOf_result found
  obtain ⟨x, w2, read, check⟩ := run_bind_eq_ok afterFind
  obtain ⟨rfl, listenKey⟩ := dataOf_result read
  intro u' x' present' listenKey' unset
  split at check
  · obtain ⟨fresh, id, ten, log, kept⟩ := newListenKey_result check
    rw [present', Option.map_some, Option.some.injEq] at kept
    exact ⟨fresh, ten, kept ▸ log⟩
  · -- the key was set, and nothing changed since it was read
    obtain ⟨-, rfl⟩ := run_pure_eq_ok check
    rw [present] at present'
    cases present'
    rw [listenKey] at listenKey'
    cases listenKey'
    simp_all

theorem signIn_leaves (h : Nat) (key : Value) :
    Leaves (FreshKeyWritten h) (authorizeRegistered (.ref h) key true) := by
  unfold authorizeRegistered
  simp only [Bool.not_true, Bool.false_eq_true, ite_false]
  repeat' first
    | with_reducible exact keyCheck_leaves h
    | with_reducible refine Leaves.bind fun _ => ?_
    | split

/-- The part of a user that checking a key looks at and keeps: the id and whether the user
is signed in. -/
def signInPart (u : User) : Value × Value := (u.id, u.authorized)

theorem readUser_readOnly (v : Value) (key : String) : ReadOnly (Cache.readUser v key) :=
  (userKey_readOnly v key).bind fun _ => Cache.read_readOnly _

/-- Looking a key up among the stored keys either refuses it, keeping what the check looks
at, or goes on from a world that looks the same. -/
theorem storedKeys_check {w w' : World} {h : Nat} {key : Value} {k : Act Unit}
    (run : (do
      let keys ← storedKeys (.ref h)
      let found ← isIn key keys
      if (!found) = true then pure () else k).run w = .ok () w') :
    userView h signInPart w' = userView h signInPart w ∨
      ∃ w1, userView h signInPart w1 = userView h signInPart w ∧ k.run w1 = .ok () w' := by
  obtain ⟨keys, w1, fetched, afterFetch⟩ := run_bind_eq_ok run
  have kept : userView h signInPart w1 = userView h signInPart w := storedKeys_keeps w keys w1 fetched
  obtain ⟨found, w2, matched, decided⟩ := run_bind_eq_ok afterFetch
  cases isIn_readOnly _ _ _ _ _ matched
  split at decided
  · exact .inl ((congrArg _ (run_pure_eq_ok decided).2).trans kept)
  · exact .inr ⟨w1, kept, decided⟩

/-- Checking the key of a registered user either refuses it, keeping the user's id, sign-in
flag, configuration and unread rows, or signs the user in from a world that looks the same. -/
theorem authorizeRegistered_checked {w w' : World} {h : Nat} {key : Value} {bypass : Bool}
    (run : (authorizeRegistered (.ref h) key bypass).run w = .ok () w') :
    userView h signInPart w' = userView h signInPart w ∨
      ∃ w1, userView h signInPart w1 = userView h signInPart w ∧
        (authorizeRegistered (.ref h) key true).run w1 = .ok () w' := by
  cases bypass with
  | true => exact .inr ⟨w, rfl, run⟩
  | false =>
    unfold authorizeRegistered at run
    simp -zeta only [Bool.not_false, ite_true] at run
    obtain ⟨cached, w1, readCached, afterRead⟩ := run_bind_eq_ok run
    cases readUser_readOnly _ _ w cached w1 readCached
    -- the key is looked for in the cached list first, and among the stored keys when missing
    split at afterRead
    · obtain ⟨known, w2, matched, afterMatch⟩ := run_bind_eq_ok afterRead
      cases isIn_readOnly _ _ _ _ _ matched
      beta_reduce at afterMatch
      split at afterMatch
      · exact storedKeys_check afterMatch
      · exact .inr ⟨w, rfl, afterMatch⟩
    · obtain ⟨known, w2, matched, afterMatch⟩ := run_bind_eq_ok afterRead
      obtain ⟨rfl, rfl⟩ := run_pure_eq_ok matched
      beta_reduce at afterMatch
      simp -zeta only [Bool.not_false, ite_true] at afterMatch
      exact storedKeys_check afterMatch

theorem isGreater_run (w : World) (a b : Int) :
    (isGreater (.int a) (.int b)).run w = .ok (decide (b < a)) w := by
  simp [isGreater, Value.greater_int]

/-- A registered user is checked on the registered path. -/
theorem registered_checked {w w1 w' : World} {h : Nat} {u : User} {k : Int} {key : Value} {bypass : Bool}
    (stored : w.store[h]? = some (.user u)) (id : u.id = .int k) (registered : 1 < k)
    (same : userView h signInPart w1 = userView h signInPart w)
    (run : (do
      let u ← userOf (.ref h)
      let r ← isRegistered u
      if r = true then authorizeRegistered (.ref h) key bypass else authorizeAnonymous (.ref h) key bypass).run w1 =
        .ok () w') :
    userView h signInPart w' = userView h signInPart w ∨
      ∃ w2, userView h signInPart w2 = userView h signInPart w ∧
        (authorizeRegistered (.ref h) key true).run w2 = .ok () w' := by
  obtain ⟨u1, w2, found, afterFind⟩ := run_bind_eq_ok run
  obtain ⟨rfl, present⟩ := userOf_result found
  -- the user found is the one the check started from, by the view the key check keeps
  have sameId : u1.id = .int k := by
    have parts := congrArg (fun v => v.2.2) same
    simp only [userView, present, userIn_of_store stored, Option.map_some, Option.some.injEq, signInPart,
      Prod.mk.injEq] at parts
    rw [parts.1, id]
  obtain ⟨r, w3, asked, decided⟩ := run_bind_eq_ok afterFind
  rw [isRegistered, sameId, isGreater_run] at asked
  obtain ⟨rfl, rfl⟩ := asked
  rw [if_pos (decide_eq_true registered)] at decided
  rcases authorizeRegistered_checked decided with refused | ⟨w4, same4, signed⟩
  · exact .inl (refused.trans same)
  · exact .inr ⟨w4, same4.trans same, signed⟩

/-- Authorising a registered user either refuses the key, keeping the user's id, sign-in
flag, configuration and unread rows, or signs the user in from a world that looks the same. -/
theorem authorize_checked {w w' : World} {h : Nat} {u : User} {k : Int} {key : Value} {bypass : Bool}
    (stored : w.store[h]? = some (.user u)) (id : u.id = .int k) (registered : 1 < k)
    (run : (authorize (.ref h) key bypass).run w = .ok () w') :
    userView h signInPart w' = userView h signInPart w ∨
      ∃ w1, userView h signInPart w1 = userView h signInPart w ∧
        (authorizeRegistered (.ref h) key true).run w1 = .ok () w' := by
  unfold authorize at run
  obtain ⟨_, w1, keyed, afterKey⟩ := run_bind_eq_ok run
  have same : userView h signInPart w1 = userView h signInPart w := by
    refine Keeps.run_eq ?_ keyed
    exact changeUser_keeps fun _ => rfl
  split at afterKey
  · -- a malformed key is refused before the user is looked at
    obtain ⟨ok, w2, checked, afterCheck⟩ := run_bind_eq_ok afterKey
    cases isKeyText_readOnly _ _ _ _ checked
    split at afterCheck
    · exact .inl ((congrArg _ (run_pure_eq_ok afterCheck).2).trans same)
    · exact registered_checked stored id registered same afterCheck
  · exact registered_checked stored id registered same afterKey

end Airwaves.Listeners
