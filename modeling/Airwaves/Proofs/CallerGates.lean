import Airwaves.Proofs.ArgumentReading
import Airwaves.Proofs.RatingWindow
import Airwaves.Api.Admin.Blocks
/-!
# The caller's gates

A check that passes leaves every declared requirement met; one that fails refuses with status
403, except the two gates that fail as a missing key or a missing member.
-/

namespace Airwaves

/-- The user value names the user `u` kept in the store. -/
def Caller (w : World) (user : Value) (u : User) : Prop :=
  ∃ hu, user = .ref hu ∧ w.store[hu]? = some (.user u)

/-- A data entry of a user, none when absent. -/
def User.entry (u : User) (key : String) : Value := (Dict.field? u.data key).getD .none

/-- Whether a user is anonymous, as the gates ask it. -/
def User.anonymous (u : User) : Bool := Value.lessEq u.id (.int 1)

/-- Whether a user administers the service, as the gates ask it. -/
def User.administers (u : User) : Bool := Value.greater (u.entry "admin") (.int 0)

/-- The data entries the gates read. -/
def gateKeys : List String := ["tuned_in", "admin", "perks", "lock", "lock_sid", "lock_counter"]

/-- A caller as the service keeps one: a stored user whose data has every entry the gates read. -/
structure KeptCaller (w : World) (user : Value) (u : User) : Prop where
  caller : Caller w user u
  keys : ∀ key ∈ gateKeys, (Dict.field? u.data key).isSome

/-- A user made with the service's default data has every entry the gates read. -/
theorem User.default_has_gateKeys (id : Value) :
    ∀ key ∈ gateKeys, (Dict.field? ({ id := id } : User).data key).isSome := by
  -- the default data does not depend on the id
  have defaults : ∀ key ∈ gateKeys, (Dict.field? ({ id := .none } : User).data key).isSome := by
    decide
  exact defaults

section Caller

variable {w : World} {user : Value} {u : User}

theorem Caller.unique {u' : User} (c : Caller w user u) (c' : Caller w user u') : u = u' := by
  obtain ⟨hu, rfl, stored⟩ := c
  obtain ⟨_, same, stored'⟩ := c'
  cases same
  rw [stored] at stored'
  cases stored'
  rfl

theorem Caller.userOf_run (c : Caller w user u) : (Listeners.userOf user).run w = .ok u w := by
  obtain ⟨hu, rfl, stored⟩ := c
  exact Api.Ratings.listener_run stored

theorem KeptCaller.dataOf_run (kept : KeptCaller w user u) {key : String} (read : key ∈ gateKeys)
    (w' : World) : (Listeners.dataOf u key).run w' = .ok (u.entry key) w' := by
  obtain ⟨x, found⟩ := Option.isSome_iff_exists.mp (kept.keys key read)
  rw [Api.Ratings.dataOf_run w' found, User.entry, found, Option.getD_some]

/-! ### The questions a gate asks -/

theorem Caller.anonymous_run (c : Caller w user u) :
    (Api.anonymous user).run w = .ok u.anonymous w := by
  obtain ⟨hu, rfl, stored⟩ := c
  simp [Api.anonymous, Api.someUser, Listeners.isAnonymous, isAtMost, run_map,
    Api.Ratings.listener_run stored, User.anonymous]

theorem KeptCaller.tunedIn_run (kept : KeptCaller w user u) :
    (Api.tunedIn user).run w = .ok (u.entry "tuned_in").truthy w := by
  obtain ⟨hu, rfl, stored⟩ := kept.caller
  simp [Api.tunedIn, Api.someUser, Listeners.tunedIn, EStateM.run_bind, run_map,
    Api.Ratings.listener_run stored, kept.dataOf_run (by decide : "tuned_in" ∈ gateKeys)]

theorem KeptCaller.isAdmin_run (kept : KeptCaller w user u) :
    (Listeners.isAdmin user).run w = .ok u.administers w := by
  simp [Listeners.isAdmin, isGreater, EStateM.run_bind, run_map, kept.caller.userOf_run,
    kept.dataOf_run (by decide : "admin" ∈ gateKeys), User.administers]

theorem KeptCaller.perks_run (kept : KeptCaller w user u) :
    (Listeners.perks user).run w = .ok (u.entry "perks") w := by
  simp [Listeners.perks, EStateM.run_bind, kept.caller.userOf_run,
    kept.dataOf_run (by decide : "perks" ∈ gateKeys)]

end Caller

namespace Api

/-! ### One gate of the common form -/

section Gate

variable {w : World} {asked : Bool} {key : String} {holds : Act Bool}

/-- With a caller, a gate is the test of its property, asked only when the gate is. -/
theorem requireCaller_run_present {b : Bool} (answer : holds.run w = .ok b w) :
    (requireCaller asked true key holds).run w =
      if asked && !b then .error (refuse key 403) w else .ok () w := by
  cases asked <;> cases b <;> simp [requireCaller, EStateM.run_bind, answer]

/-- Without a caller, a gate that is asked refuses. -/
theorem requireCaller_run_absent :
    (requireCaller asked false key holds).run w = if asked then .error (refuse key 403) w else .ok () w := by
  cases asked <;> simp [requireCaller]

/-- A gate that runs as a test is followed by the rest of the check only when it passes. -/
theorem run_bind_of_test {β : Type} {x : Act Unit} {f : Unit → Act β} {c : Bool} {e : Fault}
    {w1 w2 : World} (test : x.run w = if c then .error e w1 else .ok () w2) :
    (x >>= f).run w = if c then .error e w1 else (f ()).run w2 := by
  cases c <;> simp only [Bool.false_eq_true, ↓reduceIte] at test ⊢ <;> simp [EStateM.run_bind, test]

end Gate

/-! ### The gates a caller passes their own way -/

/-- Whether the station's cached DJs list a user id. -/
def djListed (djs id : Value) : Bool :=
  match djs with
  | .list xs => xs.any fun x => Value.equals x id
  | _ => false

/-- The station's cached DJs, as the DJ gate reads them. -/
def cachedDjs (w : World) (sid : Value) : Value := w.cache.peek (Cache.stationKey sid "dj_user_ids")

/-- The station's DJs are cached as a list, or not at all. -/
def DjsListed (w : World) (sid : Value) : Prop := cachedDjs w sid = .none ∨ ∃ xs, cachedDjs w sid = .list xs

/-- The refusal of a listener locked to another station: the friendly name of the station locked
to and the lock's counter, or a missing key when that station has no friendly name. -/
def lockedFault (friendly : Dict) (u : User) : Fault :=
  match Dict.lookup? friendly (u.entry "lock_sid") with
  | some station =>
    refuse "unlocked_only" 403 [("station", station), ("lock_counter", u.entry "lock_counter")]
  | none => .missingKey (u.entry "lock_sid")

/-- The world once a stored user is marked as DJ. -/
def markedDj (w : World) (hu : Nat) (u : User) : World :=
  { w with store := w.store.set! hu (.user { u with data := Dict.putField u.data "dj" (.bool true) }) }

/-- The database's answer to whether a user owns an unused DJ schedule, and the world after it
was asked. -/
def ownsSchedule (w : World) (u : User) : Value × World :=
  let (answer, db) := w.db.call .var (some [u.id]) ""
  (answer, { w with db := db })

section Absent

variable {w : World} {user sid : Value}

/-- Without a caller, the lock gate refuses as needing one. -/
theorem requireUnlocked_run_absent (asked : Bool) :
    (requireUnlocked asked false user sid).run w =
      if asked then .error (refuse "auth_required" 403) w else .ok () w := by
  cases asked <;> simp [requireUnlocked]

/-- Without a caller, the DJ gate refuses. -/
theorem requireDj_run_absent (asked : Bool) :
    (requireDj asked false user sid).run w =
      if asked then .error (refuse "dj_required" 403) w else .ok () w := by
  cases asked <;> simp [requireDj]

/-- Without a caller, the DJ preparation gate fails on its first question. -/
theorem requireDjPreparation_run_none (asked : Bool) :
    (requireDjPreparation asked false .none).run w =
      if asked then .error (Fault.noAttribute "NoneType" "is_admin") w else .ok () w := by
  cases asked <;> simp [requireDjPreparation, noMember, kindNameOf, Value.kindName]

end Absent

/-! ### The whole check -/

/-- The handler `hv` serves `user` on station `sid`. -/
def Serving (w : World) (hv : Nat) (user sid : Value) : Prop :=
  ∃ h, w.store[hv]? = some (.handler h) ∧ h.user = user ∧ h.sid = sid

section Serving

variable {w : World} {hv : Nat} {user sid : Value}

theorem Serving.userOf_run (serving : Serving w hv user sid) : (userOf (.ref hv)).run w = .ok user w := by
  obtain ⟨h, stored, rfl, -⟩ := serving
  exact Ratings.userOf_run stored

theorem Serving.stationOf_run (serving : Serving w hv user sid) :
    (stationOf (.ref hv)).run w = .ok sid w := by
  obtain ⟨h, stored, -, rfl⟩ := serving
  exact Ratings.stationOf_run stored

/-- Without a caller, the check refuses at the first gate asked, but for the DJ preparation gate,
which fails on its first question. -/
theorem Serving.checkCaller_run_none (e : Endpoint) (serving : Serving w hv .none sid) :
    (checkCaller e (.ref hv)).run w =
      if e.gates.login || e.gates.admin || e.gates.dj then .error (refuse "login_required" 403) w
      else if e.gates.tunedIn then .error (refuse "tunein_required" 403) w
      else if e.gates.perks then .error (refuse "perks_required" 403) w
      else if e.gates.unlockedOnly then .error (refuse "auth_required" 403) w
      else if e.gates.djPreparation then .error (Fault.noAttribute "NoneType" "is_admin") w
      else .ok () w := by
  have absent : Value.none.truthy = false := rfl
  rw [checkCaller, run_bind_ok serving.userOf_run, run_bind_ok serving.stationOf_run]
  dsimp only
  rw [absent, run_bind_of_test requireCaller_run_absent, run_bind_of_test requireCaller_run_absent,
    run_bind_of_test requireCaller_run_absent, run_bind_of_test requireCaller_run_absent,
    run_bind_of_test (requireUnlocked_run_absent _), run_bind_of_test (requireDj_run_absent _),
    requireDjPreparation_run_none]
  -- the administrator and DJ gates are asked only where the login gate already refused
  cases e.gates.login <;> cases e.gates.admin <;> cases e.gates.dj <;> simp

end Serving

end Api

/-! ### The gates on a kept caller -/

section Kept

open Api

variable {w : World} {hv : Nat} {user sid : Value} {u : User}

theorem KeptCaller.requireUnlocked_run (kept : KeptCaller w user u) {friendly : Dict}
    (named : w.config.stationIdFriendly = .dict friendly) (asked : Bool) :
    (requireUnlocked asked true user sid).run w =
      if asked && (u.entry "lock").truthy && !Value.equals (u.entry "lock_sid") sid then
        .error (lockedFault friendly u) w
      else .ok () w := by
  have read (key : String) (mem : key ∈ gateKeys) := kept.dataOf_run mem w
  cases asked
  · rfl
  simp only [requireUnlocked, ↓reduceIte, Bool.not_true, Bool.false_eq_true, Bool.true_and,
    EStateM.run_bind, kept.caller.userOf_run, read "lock" (by decide)]
  cases locked : (u.entry "lock").truthy
  · rfl
  · simp only [↓reduceIte, EStateM.run_bind, read "lock_sid" (by decide), Bool.true_and]
    cases same : Value.equals (u.entry "lock_sid") sid
    · simp only [Bool.not_false, ↓reduceIte, Config.current, EStateM.run_bind, EStateM.run_get,
        EStateM.run_pure, named, itemOf, lockedFault]
      cases found : Dict.lookup? friendly (u.entry "lock_sid") <;>
        simp [kept.caller.userOf_run, read "lock_counter" (by decide)]
    · rfl

theorem KeptCaller.requireDj_run {hu : Nat} (kept : KeptCaller w (.ref hu) u)
    (connected : w.cache.connected = true) (listed : DjsListed w sid) (asked : Bool) :
    (requireDj asked true (.ref hu) sid).run w =
      if asked && !(u.administers || djListed (cachedDjs w sid) u.id) then
        .error (refuse "dj_required" 403) w
      else .ok () (if asked then markedDj w hu u else w) := by
  obtain ⟨_, same, stored⟩ := kept.caller
  cases same
  have marked : (Listeners.setData (.ref hu) "dj" (.bool true)).run w = .ok () (markedDj w hu u) :=
    Listeners.changeUser_run stored _
  cases asked
  · rfl
  simp only [requireDj, ↓reduceIte, Bool.not_true, Bool.false_eq_true, Bool.true_and,
    EStateM.run_bind, kept.isAdmin_run]
  cases admin : u.administers
  · simp only [Bool.not_false, ↓reduceIte, Bool.false_or, EStateM.run_bind, Cache.readStation,
      Cache.read_run _ connected]
    rcases listed with none | ⟨xs, list⟩
    · simp [cachedDjs] at none
      simp [none, Value.truthy, djListed, cachedDjs]
    · simp only [cachedDjs] at list
      have member : (isIn u.id (.list xs)).run w = .ok (xs.any fun y => Value.equals y u.id) w := rfl
      -- an empty list is refused before it is searched
      cases empty : xs.isEmpty
      · cases found : xs.any fun y => Value.equals y u.id <;>
          simp [list, Value.truthy, empty, EStateM.run_bind, kept.caller.userOf_run, member, found,
            djListed, cachedDjs, marked]
      · have none : (xs.any fun y => Value.equals y u.id) = false := by
          simp [List.isEmpty_iff.mp empty]
        simp [list, Value.truthy, empty, djListed, cachedDjs, none]
  · simp [marked]

theorem KeptCaller.requireDjPreparation_run (kept : KeptCaller w user u) (asked : Bool) :
    (requireDjPreparation asked true user).run w =
      if asked && !u.administers then
        if (ownsSchedule w u).1.truthy then .ok () (ownsSchedule w u).2
        else .error (refuse "dj_required" 403) (ownsSchedule w u).2
      else .ok () w := by
  cases asked
  · rfl
  simp only [requireDjPreparation, ↓reduceIte, Bool.not_true, Bool.false_eq_true, Bool.true_and,
    EStateM.run_bind, kept.isAdmin_run]
  cases admin : u.administers
  · cases answer : (ownsSchedule w u).1.truthy <;>
      simp_all [kept.caller.userOf_run, fetchVar, Cache.query_run, ownsSchedule]
  · simp

theorem KeptCaller.checkCaller_run {hu : Nat} (e : Endpoint) (serving : Serving w hv (.ref hu) sid)
    (kept : KeptCaller w (.ref hu) u) (connected : w.cache.connected = true) (listed : DjsListed w sid)
    {friendly : Dict} (named : w.config.stationIdFriendly = .dict friendly) :
    (checkCaller e (.ref hv)).run w =
      if (e.gates.login || e.gates.admin || e.gates.dj) && u.anonymous then
        .error (refuse "login_required" 403) w
      else if e.gates.tunedIn && !(u.entry "tuned_in").truthy then .error (refuse "tunein_required" 403) w
      else if e.gates.admin && !u.administers then .error (refuse "admin_required" 403) w
      else if e.gates.perks && !(u.entry "perks").truthy then .error (refuse "perks_required" 403) w
      else if e.gates.unlockedOnly && (u.entry "lock").truthy &&
          !Value.equals (u.entry "lock_sid") sid then .error (lockedFault friendly u) w
      else if e.gates.dj then
        if u.administers || djListed (cachedDjs w sid) u.id then .ok () (markedDj w hu u)
        else .error (refuse "dj_required" 403) w
      else if e.gates.djPreparation && !u.administers then
        if (ownsSchedule w u).1.truthy then .ok () (ownsSchedule w u).2
        else .error (refuse "dj_required" 403) (ownsSchedule w u).2
      else .ok () w := by
  have registered : (do return !(← anonymous (.ref hu)) : Act Bool).run w = .ok (!u.anonymous) w := by
    simp [run_map, kept.caller.anonymous_run]
  have perks : (do return (← Listeners.perks (.ref hu)).truthy : Act Bool).run w =
      .ok (u.entry "perks").truthy w := by
    simp [run_map, kept.perks_run]
  have present : (Value.ref hu).truthy = true := rfl
  rw [checkCaller, run_bind_ok serving.userOf_run, run_bind_ok serving.stationOf_run]
  dsimp only
  rw [present, run_bind_of_test (requireCaller_run_present registered),
    run_bind_of_test (requireCaller_run_present kept.tunedIn_run),
    run_bind_of_test (requireCaller_run_present kept.isAdmin_run),
    run_bind_of_test (requireCaller_run_present perks),
    run_bind_of_test (kept.requireUnlocked_run named _)]
  simp only [Bool.not_not]
  -- the DJ gate marks the caller, and the preparation gate is asked only of one it did not mark
  cases dj : e.gates.dj
  · rw [run_bind_of_test (kept.requireDj_run connected listed _)]
    simp [kept.requireDjPreparation_run]
  · rw [run_bind_of_test (kept.requireDj_run connected listed _)]
    cases passes : u.administers || djListed (cachedDjs w sid) u.id <;>
      simp [requireDjPreparation]

end Kept

/-! ### What a check that passes or fails says -/

namespace Api

/-- Whether an endpoint's gates ask anything of the caller. -/
def Gates.asksCaller (g : Gates) : Bool :=
  g.login || g.tunedIn || g.admin || g.perks || g.unlockedOnly || g.dj || g.djPreparation

/-- The requirements an endpoint's gates make of the caller `u` on station `sid`, judged against
the world the check starts in. -/
structure Gates.MetBy (g : Gates) (w : World) (u : User) (sid : Value) : Prop where
  registered : (g.login || g.admin || g.dj) = true → u.anonymous = false
  tunedIn : g.tunedIn = true → (u.entry "tuned_in").truthy = true
  admin : g.admin = true → u.administers = true
  perks : g.perks = true → (u.entry "perks").truthy = true
  unlocked : g.unlockedOnly = true → (u.entry "lock").truthy = true →
    Value.equals (u.entry "lock_sid") sid = true
  dj : g.dj = true → u.administers = true ∨ djListed (cachedDjs w sid) u.id = true
  djPreparation : g.djPreparation = true → g.dj = false →
    u.administers = true ∨ (ownsSchedule w u).1.truthy = true

/-- A refusal with status 403. -/
def Forbidden (f : Fault) : Prop := ∃ a, f = .api a ∧ a.httpCode = 403

@[simp] theorem forbidden_refuse (key : String) (extra : List (String × Value)) :
    Forbidden (refuse key 403 extra) := ⟨_, rfl, rfl⟩

section None

variable {w w' : World} {hv : Nat} {sid : Value}

/-- Without a caller, a check passes only where the gates ask nothing of one. -/
theorem Serving.checkCaller_passes_none (e : Endpoint) (serving : Serving w hv .none sid)
    (ran : (checkCaller e (.ref hv)).run w = .ok () w') : e.gates.asksCaller = false := by
  rw [serving.checkCaller_run_none e] at ran
  split_ifs at ran with login tuned perks unlocked prep
  simp_all [Gates.asksCaller]

/-- Without a caller, a check that fails has refused with status 403, unless the DJ preparation
gate failed on its first question. -/
theorem Serving.checkCaller_fails_none {f : Fault} (e : Endpoint) (serving : Serving w hv .none sid)
    (ran : (checkCaller e (.ref hv)).run w = .error f w') :
    Forbidden f ∨ e.gates.djPreparation = true ∧ f = Fault.noAttribute "NoneType" "is_admin" := by
  rw [serving.checkCaller_run_none e] at ran
  split_ifs at ran with login tuned perks unlocked prep <;> cases ran
  · exact .inl (forbidden_refuse _ _)
  · exact .inl (forbidden_refuse _ _)
  · exact .inl (forbidden_refuse _ _)
  · exact .inl (forbidden_refuse _ _)
  · exact .inr ⟨prep, rfl⟩

end None

end Api

section Verdict

open Api

variable {w w' : World} {hv hu : Nat} {sid : Value} {u : User} {friendly : Dict}

theorem KeptCaller.metBy_of_checkCaller (e : Endpoint) (serving : Serving w hv (.ref hu) sid)
    (kept : KeptCaller w (.ref hu) u) (connected : w.cache.connected = true) (listed : DjsListed w sid)
    (named : w.config.stationIdFriendly = .dict friendly)
    (ran : (checkCaller e (.ref hv)).run w = .ok () w') : e.gates.MetBy w u sid := by
  rw [kept.checkCaller_run e serving connected listed named] at ran
  -- the refusing branches contradict `ran`; in the three that pass, each requirement is what its
  -- gate's test found
  split_ifs at ran with login tuned admin perks locked dj passes prep owns <;>
    constructor <;> intros <;> simp_all

/-- A check on a kept caller that fails has refused them with status 403, unless they are locked to
another station that has no friendly name. -/
theorem KeptCaller.checkCaller_fails {f : Fault} (e : Endpoint) (serving : Serving w hv (.ref hu) sid)
    (kept : KeptCaller w (.ref hu) u) (connected : w.cache.connected = true) (listed : DjsListed w sid)
    (named : w.config.stationIdFriendly = .dict friendly)
    (ran : (checkCaller e (.ref hv)).run w = .error f w') :
    Forbidden f ∨ e.gates.unlockedOnly = true ∧ (u.entry "lock").truthy = true ∧
      Value.equals (u.entry "lock_sid") sid = false ∧ Dict.lookup? friendly (u.entry "lock_sid") = none ∧
      f = .missingKey (u.entry "lock_sid") := by
  rw [kept.checkCaller_run e serving connected listed named] at ran
  split_ifs at ran with login tuned admin perks locked <;> cases ran <;> try exact .inl (forbidden_refuse _ _)
  -- the lock gate names the station locked to, which may have no friendly name
  simp only [Bool.and_eq_true, Bool.not_eq_eq_eq_not, Bool.not_true] at locked
  obtain ⟨⟨unlocked, lock⟩, elsewhere⟩ := locked
  unfold lockedFault
  split
  · exact .inl (forbidden_refuse _ _)
  · exact .inr ⟨unlocked, lock, elsewhere, ‹_›, rfl⟩

/-- The caller check is sound: on a handler whose caller is none or kept as the service keeps
one, a check that passes an endpoint asking anything of the caller leaves every requirement of its
gates met, and a check that fails has refused with status 403, but for two failures: the DJ
preparation gate without a caller, and a caller locked to a station with no friendly name. -/
theorem checkCaller_sound {user : Value} (e : Endpoint) (serving : Serving w hv user sid)
    (caller : user = .none ∨ ∃ u, KeptCaller w user u) (connected : w.cache.connected = true)
    (listed : DjsListed w sid) (named : w.config.stationIdFriendly = .dict friendly) :
    (∀ w', (checkCaller e (.ref hv)).run w = .ok () w' →
      e.gates.asksCaller = true → ∃ u, KeptCaller w user u ∧ e.gates.MetBy w u sid) ∧
    (∀ f w', (checkCaller e (.ref hv)).run w = .error f w' →
      Forbidden f ∨
      (user = .none ∧ e.gates.djPreparation = true ∧ f = Fault.noAttribute "NoneType" "is_admin") ∨
      (∃ u, KeptCaller w user u ∧ e.gates.unlockedOnly = true ∧ (u.entry "lock").truthy = true ∧
        Value.equals (u.entry "lock_sid") sid = false ∧
        Dict.lookup? friendly (u.entry "lock_sid") = none ∧ f = .missingKey (u.entry "lock_sid"))) := by
  rcases caller with rfl | ⟨u, kept⟩
  · refine ⟨fun w' ran asks => ?_, fun f w' ran => ?_⟩
    · rw [serving.checkCaller_passes_none e ran] at asks
      cases asks
    · rcases serving.checkCaller_fails_none e ran with refused | ⟨prep, fault⟩
      · exact .inl refused
      · exact .inr (.inl ⟨rfl, prep, fault⟩)
  · obtain ⟨hu, rfl, -⟩ := kept.caller
    refine ⟨fun w' ran _ => ⟨u, kept, ?_⟩, fun f w' ran => ?_⟩
    · exact kept.metBy_of_checkCaller e serving connected listed named ran
    · rcases kept.checkCaller_fails e serving connected listed named ran with refused | locked
      · exact .inl refused
      · exact .inr (.inr ⟨u, kept, locked⟩)

/-- The caller check is sound for every caller the service serves: a handler carries a kept
caller (a request without one is given the anonymous listener, or refused, before the check), and
a station a listener is locked to has a friendly name, as every configured station does. A check
that passes leaves every requirement of the gates met, and one that fails has refused with status
403. -/
theorem servedCaller_check_sound {user : Value} {u : User} (e : Endpoint)
    (serving : Serving w hv user sid) (kept : KeptCaller w user u) (connected : w.cache.connected = true)
    (listed : DjsListed w sid) (named : w.config.stationIdFriendly = .dict friendly)
    (lockNamed : (u.entry "lock").truthy = true → (Dict.lookup? friendly (u.entry "lock_sid")).isSome) :
    (∀ w', (checkCaller e (.ref hv)).run w = .ok () w' → e.gates.MetBy w u sid) ∧
    (∀ f w', (checkCaller e (.ref hv)).run w = .error f w' → Forbidden f) := by
  obtain ⟨hu, rfl, -⟩ := kept.caller
  refine ⟨fun w' ran => kept.metBy_of_checkCaller e serving connected listed named ran,
    fun f w' ran => ?_⟩
  rcases kept.checkCaller_fails e serving connected listed named ran with
    refused | ⟨-, lock, -, unnamed, -⟩
  · exact refused
  · -- the station locked to has a friendly name, so the lock gate refuses as the others do
    have found := lockNamed lock
    rw [unnamed] at found
    cases found

/-- A handler under 0 serving the DJ election on station 1 to the listener under 1, who has the
default data. -/
def electionCaller : World :=
  { store := #[.handler { route := "/api4/admin/get_dj_election", sid := .int 1, user := .ref 1 },
      .user { id := .int 5 }] }

/-- The DJ election's check on a registered listener who is not locked is sound. -/
theorem djElection_check_sound :
    KeptCaller electionCaller (.ref 1) { id := .int 5 } ∧
    (∀ w', (checkCaller Blocks.getDjElection (.ref 0)).run electionCaller = .ok () w' →
      Blocks.getDjElection.gates.MetBy electionCaller { id := .int 5 } (.int 1)) ∧
    (∀ f w', (checkCaller Blocks.getDjElection (.ref 0)).run electionCaller = .error f w' →
      Forbidden f) := by
  have kept : KeptCaller electionCaller (.ref 1) { id := .int 5 } :=
    ⟨⟨1, rfl, rfl⟩, User.default_has_gateKeys _⟩
  exact ⟨kept, servedCaller_check_sound Blocks.getDjElection ⟨_, rfl, rfl, rfl⟩ kept rfl (.inl rfl)
    rfl fun lock => absurd lock (by decide)⟩

end Verdict

end Airwaves
