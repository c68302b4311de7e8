import Airwaves.Proofs.SignIn
import Airwaves.Proofs.LoadFrame
import Airwaves.Api.Rating
/-!
# Reading a request's arguments

Arguments are read in the order the endpoint lists them; the first that is missing and required,
or not acceptable and not lenient, refuses the request, and every other value is recorded.
-/

namespace Airwaves

/-! ### Actions that never refuse -/

@[simp] theorem Act.lift_run {α : Type} (x : Except Fault α) (w : World) :
    (Act.lift x).run w = match x with
      | .ok a => .ok a w
      | .error f => .error f w := by
  cases x <;> rfl

theorem Act.lift_run_eq_ok {α : Type} {x : Except Fault α} {w w' : World} {a : α} :
    (Act.lift x).run w = .ok a w' ↔ x = .ok a ∧ w' = w := by
  cases x <;> simp [eq_comm]

theorem Act.lift_run_eq_error {α : Type} {x : Except Fault α} {w w' : World} {e : Fault} :
    (Act.lift x).run w = .error e w' ↔ x = .error e ∧ w' = w := by
  cases x <;> simp [eq_comm]

/-- An action none of whose failures is a refusal addressed to the client. -/
def NoRefusal {α : Type} (x : Act α) : Prop := ∀ w e w', x.run w ≠ .error (.api e) w'

theorem run_bind_eq_error {α β : Type} {x : Act α} {f : α → Act β} {w w' : World} {e : Fault}
    (h : (x >>= f).run w = .error e w') :
    x.run w = .error e w' ∨ ∃ a w1, x.run w = .ok a w1 ∧ (f a).run w1 = .error e w' := by
  rw [EStateM.run_bind] at h
  split at h
  · exact .inr ⟨_, _, ‹_›, h⟩
  · rename_i failed
    cases h
    exact .inl failed

namespace NoRefusal

theorem pure {α : Type} (a : α) : NoRefusal (pure a : Act α) := by
  intro w e w' h
  simp at h

theorem raise {α : Type} {f : Fault} (other : ∀ e, f ≠ .api e) : NoRefusal (Act.raise f : Act α) := by
  intro w e w' h
  simp only [Act.raise_run, EStateM.Result.error.injEq] at h
  exact other e h.1

/-- A failure of a kind with arguments is not a refusal. -/
theorem raised {α : Type} (kind : FaultKind) (args : List Value) :
    NoRefusal (Act.raise (.raised kind args) : Act α) :=
  raise fun _ refused => by cases refused

theorem lift {α : Type} {x : Except Fault α} (other : ∀ e, x ≠ .error (.api e)) :
    NoRefusal (Act.lift x) := by
  cases x with
  | ok a => exact .pure a
  | error f => exact .raise fun e same => other e (congrArg Except.error same)

theorem bind {α β : Type} {x : Act α} {f : α → Act β} (hx : NoRefusal x)
    (hf : ∀ a, NoRefusal (f a)) : NoRefusal (x >>= f) := by
  intro w e w' run
  rcases run_bind_eq_error run with failed | ⟨a, w1, -, rest⟩
  · exact hx w e w' failed
  · exact hf a w1 e w' rest

theorem get : NoRefusal (get : Act World) := by
  intro w e w' h
  simp at h

theorem query (k : QueryKind) (params : List Value) : NoRefusal (query k params) := by
  intro w e w' h
  simp [Cache.query_run] at h

theorem forIn {α β : Type} (xs : List α) (b : β) {f : α → β → Act (ForInStep β)}
    (hf : ∀ x b, NoRefusal (f x b)) : NoRefusal (forIn xs b f) := by
  induction xs generalizing b with
  | nil => exact .pure b
  | cons x rest ih =>
    rw [List.forIn_cons]
    refine bind (hf x b) fun step => ?_
    cases step with
    | done b' => exact .pure b'
    | yield b' => exact ih b'

end NoRefusal

theorem deref_noRefusal (h : Nat) : NoRefusal (deref h) := by
  unfold deref
  refine NoRefusal.get.bind fun w => ?_
  split
  · exact .pure _
  · exact .raised _ _

theorem kindNameOf_noRefusal (v : Value) : NoRefusal (kindNameOf v) := by
  unfold kindNameOf
  split
  · exact (deref_noRefusal _).bind fun _ => .pure _
  · exact .pure _

theorem noMember_noRefusal {α : Type} (v : Value) (name : String) :
    NoRefusal (noMember v name : Act α) :=
  (kindNameOf_noRefusal v).bind fun _ => .raised _ _

/-! ### Runs in order -/

theorem forM_cons_eq {α : Type} (act : α → Act PUnit) (y : α) (ys : List α) :
    (y :: ys).forM act = (act y >>= fun _ => ys.forM act) := rfl

/-- Actions run in order fail exactly when, for some split of the list, the actions before the
split run through and the next one fails; the rest never runs. -/
theorem forM_run_eq_error {α : Type} (act : α → Act PUnit) (xs : List α) (w : World) (e : Fault)
    (w' : World) :
    (xs.forM act).run w = .error e w' ↔
      ∃ pre x post w1, xs = pre ++ x :: post ∧ (pre.forM act).run w = .ok () w1 ∧
        (act x).run w1 = .error e w' := by
  induction xs generalizing w with
  | nil =>
    refine ⟨(fun h => by cases h), ?_⟩
    rintro ⟨pre, x, post, -, split, -⟩
    cases pre <;> cases split
  | cons y ys ih =>
    rw [forM_cons_eq, EStateM.run_bind]
    cases first : (act y).run w with
    | error e1 w1 =>
      constructor
      · rintro ⟨⟩
        exact ⟨[], y, ys, w, rfl, rfl, first⟩
      · rintro ⟨pre, x, post, w2, split, ran, failed⟩
        cases pre with
        | nil =>
          cases split
          cases ran
          rw [first] at failed
          exact failed
        | cons z pre =>
          cases split
          rw [forM_cons_eq, EStateM.run_bind, first] at ran
          cases ran
    | ok u w1 =>
      rw [ih w1]
      constructor
      · rintro ⟨pre, x, post, w2, rfl, ran, failed⟩
        refine ⟨y :: pre, x, post, w2, rfl, ?_, failed⟩
        rw [forM_cons_eq, EStateM.run_bind, first]
        exact ran
      · rintro ⟨pre, x, post, w2, split, ran, failed⟩
        cases pre with
        | nil =>
          cases split
          cases ran
          rw [first] at failed
          cases failed
        | cons z pre =>
          cases split
          rw [forM_cons_eq, EStateM.run_bind, first] at ran
          exact ⟨pre, x, post, w2, rfl, ran, failed⟩

/-! ### Argument kinds never refuse

A kind either gives a value or fails the way the language fails (a type error, a missing key);
none of its failures is a refusal. The arithmetic ones are computations that can fail. -/

/-- A computation none of whose failures is a refusal. -/
def Except.NoRefusal {α : Type} (x : Except Fault α) : Prop := ∀ e, x ≠ .error (.api e)

namespace Except.NoRefusal

theorem ok {α : Type} (a : α) : Except.NoRefusal (.ok a : Except Fault α) := fun _ => by simp

theorem bind {α β : Type} {x : Except Fault α} {f : α → Except Fault β} (hx : Except.NoRefusal x)
    (hf : ∀ a, Except.NoRefusal (f a)) : Except.NoRefusal (x >>= f) := by
  intro e
  cases x with
  | ok a => exact hf a e
  | error f' =>
    intro h
    injection h with same
    exact hx e (congrArg Except.error same)

theorem numeric {op : String} {whole : Int → Int → Except Fault Value}
    {real : Double → Double → Except Fault Value} (hw : ∀ x y, Except.NoRefusal (whole x y))
    (hr : ∀ x y, Except.NoRefusal (real x y)) (a b : Value) :
    Except.NoRefusal (Value.numeric op whole real a b) := by
  intro e
  unfold Value.numeric
  split
  · exact hw _ _ e
  · exact hr _ _ e
  · unfold Value.operandFault
    split <;> simp [Fault.typeError, Fault.of]

theorem mul (a b : Value) : Except.NoRefusal (Value.mul a b) := by
  intro e
  unfold Value.mul
  split
  · exact numeric (fun _ _ _ => by simp) (fun _ _ _ => by simp) a b e
  · repeat' split
    all_goals simp [Value.operandFault, Fault.typeError, Fault.of]

theorem mod (a b : Value) : Except.NoRefusal (Value.mod a b) := by
  refine numeric ?_ ?_ a b
  all_goals
    intro x y e
    split <;> simp [Fault.of]

theorem toFloat (v : Value) : Except.NoRefusal (Value.toFloat v) := by
  intro e
  unfold Value.toFloat
  repeat' split
  all_goals simp [Fault.typeError, Fault.of]

theorem toInt (v : Value) : Except.NoRefusal (Value.toInt v) := by
  intro e
  unfold Value.toInt
  repeat' split
  all_goals simp [Fault.typeError, Fault.of]

end Except.NoRefusal

namespace Fields

theorem floatNum_noRefusal (v : Value) : Except.NoRefusal (floatNum v) := by
  unfold floatNum
  dsimp only
  split
  · exact .ok _
  · exact .toFloat v

theorem longNum_noRefusal (v : Value) : Except.NoRefusal (longNum v) := by
  unfold longNum
  dsimp only
  split
  · exact .ok _
  · exact .toInt _

theorem rating_noRefusal (v : Value) : Except.NoRefusal (rating v) := by
  unfold rating
  refine (floatNum_noRefusal v).bind fun r => ?_
  repeat' first
    | split
    | exact .ok _
    | refine (Except.NoRefusal.mul _ _).bind fun _ => ?_
    | refine (Except.NoRefusal.mod _ _).bind fun _ => ?_

theorem integerList_noRefusal (v : Value) : Except.NoRefusal (integerList v) := by
  intro e
  unfold integerList
  repeat' split
  all_goals simp [Fault.typeError, Fault.of]

theorem producerType_noRefusal (v : Value) : Except.NoRefusal (producerType v) := by
  intro e
  unfold producerType
  repeat' split
  all_goals simp [Fault.typeError, Fault.of]

theorem icecastMount_noRefusal (v : Value) : Except.NoRefusal (icecastMount v) := by
  intro e h
  unfold icecastMount at h
  split at h
  · cases h
  · split at h
    · split at h
      · -- the mount and its optional listener are local definitions; unfold them to split
        dsimp only at h
        split at h
        · cases h
        · revert h
          split
          · intro h
            cases h
          · split <;> intro h <;> cases h
      · cases h
    · simp [Fault.typeError, Fault.of] at h

end Fields

/-- An action that only inquires: it never refuses, and when it succeeds it leaves the objects
of the world as it found them (it may ask the database, which logs the call). -/
structure Inquiry {α : Type} (x : Act α) : Prop where
  noRefusal : NoRefusal x
  keepsStore : Keeps (·.store) x

namespace Inquiry

theorem of_readOnly {α : Type} {x : Act α} (h : ReadOnly x) (other : NoRefusal x) : Inquiry x :=
  ⟨other, .of_readOnly h⟩

theorem pure {α : Type} (a : α) : Inquiry (pure a : Act α) := of_readOnly (.pure a) (.pure a)

theorem raise {α : Type} {f : Fault} (other : ∀ e, f ≠ .api e) : Inquiry (Act.raise f : Act α) :=
  of_readOnly (.raise f) (.raise other)

theorem lift {α : Type} {x : Except Fault α} (other : Except.NoRefusal x) : Inquiry (Act.lift x) :=
  of_readOnly (.lift x) (.lift other)

theorem bind {α β : Type} {x : Act α} {f : α → Act β} (hx : Inquiry x) (hf : ∀ a, Inquiry (f a)) :
    Inquiry (x >>= f) :=
  ⟨hx.noRefusal.bind fun a => (hf a).noRefusal, hx.keepsStore.bind fun a => (hf a).keepsStore⟩

theorem forIn {α β : Type} (xs : List α) (b : β) {f : α → β → Act (ForInStep β)}
    (hf : ∀ x b, Inquiry (f x b)) : Inquiry (forIn xs b f) :=
  ⟨.forIn xs b fun x b => (hf x b).noRefusal, .forIn xs b fun x b => (hf x b).keepsStore⟩

theorem query (k : QueryKind) (params : List Value) : Inquiry (query k params) := by
  refine ⟨.query k params, ?_⟩
  intro w r w' run
  rw [Cache.query_run] at run
  cases run
  rfl

theorem deref (h : Nat) : Inquiry (deref h) := of_readOnly (deref_readOnly h) (deref_noRefusal h)

theorem noMember {α : Type} (v : Value) (name : String) : Inquiry (noMember v name : Act α) :=
  of_readOnly (noMember_readOnly v name) (noMember_noRefusal v name)

theorem configGet (key : String) : Inquiry (Config.get key) := by
  refine of_readOnly (Listeners.configGet_readOnly key) ?_
  unfold Config.get Config.option Config.require Config.has Config.current
  repeat' first
    | split
    | with_reducible exact NoRefusal.pure _
    | with_reducible exact NoRefusal.raise fun _ => by simp [Fault.general, Fault.of]
    | with_reducible exact NoRefusal.get
    | with_reducible apply NoRefusal.bind
    | intro _

theorem configCurrent : Inquiry Config.current :=
  of_readOnly (ReadOnly.get.bind fun _ => .pure _) (NoRefusal.get.bind fun _ => .pure _)

theorem stationIdList : Inquiry Config.stationIdList := configCurrent.bind fun _ => pure _

end Inquiry

namespace Fields

/-- The steps every kind is made of: branches, returns, failures that are not refusals, calls to
the database and reads of the configuration or of the request. -/
theorem existingRow_inquiry (v : Value) : Inquiry (existingRow v) := by
  unfold existingRow fetchVar
  dsimp only
  repeat' first
    | split
    | exact Inquiry.pure _
    | refine (Inquiry.query _ _).bind fun _ => ?_

theorem requestField_inquiry (request : Value) (name : String) :
    Inquiry (requestField request name) := by
  unfold requestField
  split
  · refine (Inquiry.deref _).bind fun o => ?_
    split
    · exact Inquiry.pure _
    · exact Inquiry.noMember _ _
  · exact Inquiry.noMember _ _

theorem songIdOnStation_inquiry (v request : Value) : Inquiry (songIdOnStation v request) := by
  unfold songIdOnStation fetchVar
  dsimp only
  repeat' first
    | split
    | exact Inquiry.pure _
    | refine (requestField_inquiry _ _).bind fun _ => ?_
    | refine (Inquiry.query _ _).bind fun _ => ?_

theorem userId_inquiry (v : Value) : Inquiry (userId v) := by
  unfold userId fetchVar
  dsimp only
  repeat' first
    | split
    | exact Inquiry.pure _
    | refine (Inquiry.query _ _).bind fun _ => ?_

theorem groupId_inquiry (v : Value) : Inquiry (groupId v) := by
  unfold groupId fetchVar
  dsimp only
  refine (Inquiry.query _ _).bind fun _ => ?_
  split <;> exact Inquiry.pure _

theorem validRelay_inquiry (v : Value) : Inquiry (validRelay v) := by
  unfold validRelay
  repeat' first
    | split
    | intro _
    | dsimp only
    | exact Inquiry.pure _
    | exact Inquiry.noMember _ _
    | exact Inquiry.raise fun _ => by simp [Fault.missingKey, Fault.typeError, Fault.of]
    | refine (Inquiry.configGet _).bind fun _ => ?_
    | apply Inquiry.forIn
    | apply Inquiry.bind

theorem station_inquiry (v request : Value) : Inquiry (station v request) := by
  unfold station
  dsimp only
  repeat' first
    | split
    | exact Inquiry.pure _
    | refine (requestField_inquiry _ _).bind fun _ => ?_
    | refine Inquiry.stationIdList.bind fun _ => ?_

theorem songIdList_inquiry (v : Value) : Inquiry (songIdList v) := by
  unfold songIdList fetchVar
  refine (Inquiry.lift (integerList_noRefusal v)).bind fun l => ?_
  repeat' first
    | split
    | intro _
    | dsimp only
    | exact Inquiry.pure _
    | refine (Inquiry.query _ _).bind fun _ => ?_
    | apply Inquiry.forIn
    | apply Inquiry.bind

theorem mediaPlayer_inquiry (v : Value) : Inquiry (mediaPlayer v) := by
  unfold mediaPlayer
  repeat' first
    | split
    | dsimp only
    | exact Inquiry.pure _
    | exact Inquiry.noMember _ _

/-- No kind of argument refuses a request, and none changes an object. -/
theorem FieldKind.check_inquiry (k : FieldKind) (v request : Value) : Inquiry (k.check v request) := by
  cases k
  all_goals first
    | exact Inquiry.pure _
    | exact Fields.existingRow_inquiry v
    | exact Fields.songIdOnStation_inquiry v request
    | exact Fields.userId_inquiry v
    | exact Fields.validRelay_inquiry v
    | exact Fields.station_inquiry v request
    | exact Fields.songIdList_inquiry v
    | exact Fields.mediaPlayer_inquiry v
    | exact Fields.groupId_inquiry v
    | exact Inquiry.lift (Fields.floatNum_noRefusal v)
    | exact Inquiry.lift (Fields.longNum_noRefusal v)
    | exact Inquiry.lift (Fields.rating_noRefusal v)
    | exact Inquiry.lift (Fields.integerList_noRefusal v)
    | exact Inquiry.lift (Fields.icecastMount_noRefusal v)
    | exact Inquiry.lift (Fields.producerType_noRefusal v)

end Fields

/-! ### One argument: probe, verdict, record -/

namespace Api

/-- What reading an argument finds before its need is weighed: nothing when the request does
not give it, and otherwise what its kind gives for the value given. -/
def Field.probe (f : Field) (v : Value) (args : Dict) : Act (Option Value) :=
  match Dict.lookup? args (.str f.name) with
  | none => pure none
  | some a => do return some (← f.kind.check (← readGiven a) v)

/-- The need of an argument weighs what its probe found: an absent argument is refused when it
is required and recorded as none otherwise; a present one is refused when its kind gave none and
it is not lenient, and recorded as its kind gave it otherwise. -/
def Field.verdict (f : Field) : Option Value → Except Fault Value
  | none => if f.need == .required then .error f.missing else .ok .none
  | some x => if (x matches .none) && f.need != .lenient then .error f.invalid else .ok x

theorem readGiven_inquiry (x : Value) : Inquiry (readGiven x) := by
  unfold readGiven
  split
  · split
    · exact Inquiry.pure _
    · exact Inquiry.noMember _ _
    · exact Inquiry.raise fun _ => by simp [Fault.indexOut, Fault.of]
  · exact Inquiry.pure _

theorem Field.probe_inquiry (f : Field) (v : Value) (args : Dict) : Inquiry (f.probe v args) := by
  unfold Field.probe
  split
  · exact Inquiry.pure _
  · exact (readGiven_inquiry _).bind fun x =>
      (Fields.FieldKind.check_inquiry _ x v).bind fun _ => Inquiry.pure _

/-- The verdict refuses exactly a required argument the request does not give and a present one
whose kind gave none while it is not lenient, each with its own refusal. -/
theorem Field.verdict_eq_error_iff (f : Field) (o : Option Value) (e : Fault) :
    f.verdict o = .error e ↔
      (o = none ∧ f.need = .required ∧ f.missing = e) ∨
        (o = some .none ∧ f.need ≠ .lenient ∧ f.invalid = e) := by
  obtain ⟨name, kind, need⟩ := f
  cases o with
  | none => cases need <;> simp +decide [verdict]
  | some x => cases need <;> cases x <;> simp +decide [verdict]

/-- What the verdict records when it does not refuse: the value found, or none. -/
theorem Field.verdict_eq_ok {f : Field} {o : Option Value} {x : Value} (h : f.verdict o = .ok x) :
    x = o.getD .none := by
  obtain ⟨name, kind, need⟩ := f
  cases o with
  | none => cases need <;> simp_all +decide [verdict]
  | some y => cases need <;> cases y <;> simp_all +decide [verdict]

/-! ### The handler while it reads -/

/-- The handler under `hv`, having recorded the arguments `checked`, serves the request under
`r`, which gave the arguments `args`. -/
structure Reading (store : Array Obj) (hv r : Nat) (args checked : Dict) : Prop where
  apart : hv ≠ r
  handler : ∃ h : Handler, store[hv]? = some (.handler h) ∧ h.request = .ref r ∧ h.cleanedArgs = checked
  request : ∃ o : Obj, store[r]? = some o ∧ o.attribute? "arguments" = some (.dict args)

section Reading

variable {w : World} {hv r : Nat} {args c : Dict}

theorem Reading.handlerAt_run (reading : Reading w.store hv r args c) :
    ∃ h : Handler, (handlerAt (.ref hv)).run w = .ok (hv, h) w ∧ w.store[hv]? = some (.handler h) ∧
      h.request = .ref r ∧ h.cleanedArgs = c := by
  obtain ⟨h, stored, request, checked⟩ := reading.handler
  exact ⟨h, by simp [handlerAt, deref, stored], stored, request, checked⟩

theorem attributeOf_ref_run {h : Nat} {o : Obj} {name : String} {x : Value}
    (found : w.store[h]? = some o) (has : o.attribute? name = some x) :
    (attributeOf (.ref h) name).run w = .ok x w := by
  simp [attributeOf, deref, found, has]

theorem Reading.givenArguments_run (reading : Reading w.store hv r args c) :
    (givenArguments (.ref hv)).run w = .ok (.dict args) w := by
  obtain ⟨h, stored, request, -⟩ := reading.handler
  obtain ⟨o, found, given⟩ := reading.request
  have served : (Obj.handler h).attribute? "request" = some (.ref r) := by
    simp [Obj.attribute?, Obj.attributes, Handler.attributes, request]
  rw [givenArguments, EStateM.run_bind, attributeOf_ref_run stored served]
  exact attributeOf_ref_run found given

theorem Reading.isGiven_run (reading : Reading w.store hv r args c) (name : String) :
    (isGiven (.ref hv) name).run w = .ok (Dict.hasKey args (.str name)) w := by
  rw [isGiven, EStateM.run_bind, reading.givenArguments_run]
  rfl

/-- Asking for an argument the handler has recorded gives the recorded value. -/
theorem Reading.argument_run_recorded (reading : Reading w.store hv r args c) {name : String}
    {x : Value} (recorded : Dict.field? c name = some x) :
    (argument (.ref hv) name).run w = .ok x w := by
  obtain ⟨h, found, -, -, checked⟩ := reading.handlerAt_run
  simp [argument, argumentOr, handlerOf, EStateM.run_bind, found, checked, recorded]

/-- Asking for an argument the handler has not recorded reads the value the request gave. -/
theorem Reading.argument_run_given (reading : Reading w.store hv r args c) {name : String} {a : Value}
    (fresh : Dict.field? c name = none) (given : Dict.lookup? args (.str name) = some a) :
    (argument (.ref hv) name).run w = (readGiven a).run w := by
  obtain ⟨h, found, -, -, checked⟩ := reading.handlerAt_run
  have present : Dict.hasKey args (.str name) = true := by simp [Dict.hasKey, given]
  simp [argument, argumentOr, handlerOf, EStateM.run_bind, found, checked, fresh,
    reading.givenArguments_run, isIn, Value.contains, Value.requireHashable, present, itemOf, given,
    Act.lift]

/-- Recording an argument changes only the handler's recorded arguments. -/
theorem Reading.setArgument_run (reading : Reading w.store hv r args c) (name : String) (x : Value) :
    ∃ w', (setArgument (.ref hv) name x).run w = .ok () w' ∧
      Reading w'.store hv r args (Dict.putField c name x) := by
  obtain ⟨h, found, stored, request, checked⟩ := reading.handlerAt_run
  obtain ⟨o, asked, given⟩ := reading.request
  let h' : Handler := { h with cleanedArgs := Dict.putField h.cleanedArgs name x }
  refine ⟨{ w with store := w.store.set! hv (.handler h') }, ?_, ?_⟩
  · rw [setArgument, changeHandler, EStateM.run_bind, found]
    rfl
  · refine ⟨reading.apart, ⟨h', getElem?_set!_self stored _, request, by simp [h', checked]⟩, ?_⟩
    exact ⟨o, (getElem?_set!_of_ne _ reading.apart).trans asked, given⟩

/-- On a handler that has not recorded the argument yet, reading it is its probe, then its
verdict, then recording what the verdict gives. -/
theorem Reading.readArgument_run (reading : Reading w.store hv r args c) {f : Field}
    (fresh : Dict.field? c f.name = none) :
    (readArgument (.ref hv) f).run w =
      (f.probe (.ref hv) args >>= fun o => Act.lift (f.verdict o) >>= setArgument (.ref hv) f.name).run w := by
  rw [readArgument, EStateM.run_bind, reading.isGiven_run]
  cases given : Dict.lookup? args (.str f.name) with
  | none =>
    have absent : Dict.hasKey args (.str f.name) = false := by simp [Dict.hasKey, given]
    obtain ⟨name, kind, need⟩ := f
    cases need <;> simp +decide [absent, Field.probe, given, Field.verdict]
  | some a =>
    have present : Dict.hasKey args (.str f.name) = true := by simp [Dict.hasKey, given]
    simp only [present, Bool.not_true, Bool.false_eq_true, if_false]
    rw [EStateM.run_bind, reading.argument_run_given fresh given, Field.probe, given]
    simp only [bind_assoc, pure_bind, EStateM.run_bind]
    cases (readGiven a).run w with
    | error e s => rfl
    | ok x s =>
      dsimp only
      cases (f.kind.check x (.ref hv)).run s with
      | error e s' => rfl
      | ok parsed s' =>
        -- the handler tests the parsed value as the verdict does; the two tests are written
        -- apart, so they are compared on each form of value
        cases parsed
        case none => cases strict : f.need != .lenient <;> simp [Field.verdict, strict]
        all_goals simp [Field.verdict]

end Reading

theorem field?_putField (c : Dict) (a b : String) (x : Value) :
    Dict.field? (Dict.putField c a x) b = if a = b then some x else Dict.field? c b := by
  unfold Dict.field? Dict.putField
  rw [Dict.lookup?_put_str]
  by_cases same : a = b <;> simp [same, Value.equals]

/-! ### The arguments in order -/

section Fields

variable {hv r : Nat} {args : Dict}

/-- One argument read on a handler that has not recorded it: the probe ran through, the verdict
passed, and the handler went on recording what the verdict gave. -/
theorem Reading.readArgument_run_ok {w w' : World} {c : Dict} (reading : Reading w.store hv r args c)
    {f : Field} (fresh : Dict.field? c f.name = none)
    (run : (readArgument (.ref hv) f).run w = .ok () w') :
    ∃ o w1, (f.probe (.ref hv) args).run w = .ok o w1 ∧ f.verdict o = .ok (o.getD .none) ∧
      Reading w'.store hv r args (Dict.putField c f.name (o.getD .none)) := by
  rw [reading.readArgument_run fresh] at run
  obtain ⟨o, w1, probed, rest⟩ := run_bind_eq_ok run
  obtain ⟨x, w2, judged, recorded⟩ := run_bind_eq_ok rest
  obtain ⟨passed, same⟩ := Act.lift_run_eq_ok.mp judged
  have kept : w1.store = w.store := (f.probe_inquiry _ args).keepsStore w o w1 probed
  obtain ⟨w3, set, reading'⟩ := (kept ▸ reading).setArgument_run f.name x
  rw [same, set] at recorded
  cases recorded
  refine ⟨o, w1, probed, Field.verdict_eq_ok passed ▸ passed, ?_⟩
  exact Field.verdict_eq_ok passed ▸ reading'

/-- What reading arguments in order records: each argument holds what its verdict gave on the
probe made once the arguments before it were read, and other names keep what they held. -/
theorem Reading.readFields_run_ok {fs : List Field} {w w' : World} {c : Dict}
    (reading : Reading w.store hv r args c) (distinct : (fs.map (·.name)).Nodup)
    (fresh : ∀ f ∈ fs, Dict.field? c f.name = none)
    (run : (readFields (.ref hv) fs).run w = .ok () w') :
    ∃ c', Reading w'.store hv r args c' ∧
      (∀ name, name ∉ fs.map (·.name) → Dict.field? c' name = Dict.field? c name) ∧
      ∀ f ∈ fs, ∃ pre post w1 o w2, fs = pre ++ f :: post ∧
        (readFields (.ref hv) pre).run w = .ok () w1 ∧ (f.probe (.ref hv) args).run w1 = .ok o w2 ∧
        Dict.field? c' f.name = some (o.getD .none) := by
  induction fs generalizing w c with
  | nil =>
    obtain ⟨-, rfl⟩ := run_pure_eq_ok run
    exact ⟨c, reading, fun _ _ => rfl, fun f mem => nomatch mem⟩
  | cons f rest ih =>
    rw [List.map_cons, List.nodup_cons] at distinct
    rw [readFields, forM_cons_eq] at run
    obtain ⟨_, w1, first, later⟩ := run_bind_eq_ok run
    obtain ⟨o, w0, probed, -, reading1⟩ := reading.readArgument_run_ok (fresh f (by simp)) first
    -- the arguments after `f` have other names, so recording `f` leaves them unrecorded
    have fresh' : ∀ g ∈ rest, Dict.field? (Dict.putField c f.name (o.getD .none)) g.name = none := by
      intro g mem
      have other : f.name ≠ g.name := fun same => distinct.1 (same ▸ List.mem_map_of_mem mem)
      rw [field?_putField, if_neg other]
      exact fresh g (by simp [mem])
    obtain ⟨c', reading', kept, recorded⟩ := ih reading1 distinct.2 fresh' later
    refine ⟨c', reading', ?_, ?_⟩
    · intro name absent
      simp only [List.map_cons, List.mem_cons, not_or] at absent
      rw [kept name absent.2, field?_putField, if_neg (Ne.symm absent.1)]
    · intro g mem
      rcases List.mem_cons.mp mem with rfl | mem
      · refine ⟨[], rest, w, o, w0, rfl, rfl, probed, ?_⟩
        rw [kept g.name distinct.1, field?_putField, if_pos rfl]
      · obtain ⟨pre, post, w2, o', w3, split, ran, probed', holds⟩ := recorded g mem
        refine ⟨f :: pre, post, w2, o', w3, by rw [split, List.cons_append], ?_, probed', holds⟩
        rw [readFields, forM_cons_eq, EStateM.run_bind, first]
        exact ran

/-- Where reading stops short of an argument, the handler has not recorded that argument. -/
theorem Reading.readFields_prefix {pre post : List Field} {f : Field} {w w1 : World} {c : Dict}
    (reading : Reading w.store hv r args c) (distinct : ((pre ++ f :: post).map (·.name)).Nodup)
    (fresh : ∀ g ∈ pre ++ f :: post, Dict.field? c g.name = none)
    (ran : (readFields (.ref hv) pre).run w = .ok () w1) :
    ∃ c1, Reading w1.store hv r args c1 ∧ Dict.field? c1 f.name = none := by
  rw [List.map_append, List.nodup_append] at distinct
  have unread : f.name ∉ pre.map (·.name) := fun mem => distinct.2.2 _ mem _ (by simp) rfl
  obtain ⟨c1, reading1, kept, -⟩ :=
    reading.readFields_run_ok distinct.1 (fun g mem => fresh g (by simp [mem])) ran
  exact ⟨c1, reading1, (kept f.name unread).trans (fresh f (by simp))⟩

/-- Reading arguments in order is refused exactly at an argument whose verdict refuses what its
probe found, the arguments before it having been read through. -/
theorem Reading.readFields_run_refused {fs : List Field} {w w' : World} {c : Dict}
    (reading : Reading w.store hv r args c) (distinct : (fs.map (·.name)).Nodup)
    (fresh : ∀ f ∈ fs, Dict.field? c f.name = none) (err : ApiError) :
    (readFields (.ref hv) fs).run w = .error (.api err) w' ↔
      ∃ pre f post w1 o, fs = pre ++ f :: post ∧ (readFields (.ref hv) pre).run w = .ok () w1 ∧
        (f.probe (.ref hv) args).run w1 = .ok o w' ∧ f.verdict o = .error (.api err) := by
  rw [readFields, forM_run_eq_error]
  constructor
  · rintro ⟨pre, f, post, w1, rfl, ran, failed⟩
    obtain ⟨c1, reading1, fresh1⟩ := reading.readFields_prefix distinct fresh ran
    rw [reading1.readArgument_run fresh1] at failed
    -- the probe never refuses and recording never fails, so the refusal is the verdict's
    rcases run_bind_eq_error failed with refused | ⟨o, w2, probed, rest⟩
    · exact absurd refused ((f.probe_inquiry _ args).noRefusal w1 err w')
    · have kept : w2.store = w1.store := (f.probe_inquiry _ args).keepsStore w1 o w2 probed
      rcases run_bind_eq_error rest with judged | ⟨x, w3, judged, recorded⟩
      · obtain ⟨refused, rfl⟩ := Act.lift_run_eq_error.mp judged
        exact ⟨pre, f, post, w1, o, rfl, ran, probed, refused⟩
      · obtain ⟨-, rfl⟩ := Act.lift_run_eq_ok.mp judged
        obtain ⟨w4, set, -⟩ := (kept ▸ reading1).setArgument_run f.name x
        rw [set] at recorded
        cases recorded
  · rintro ⟨pre, f, post, w1, o, rfl, ran, probed, refused⟩
    obtain ⟨c1, reading1, fresh1⟩ := reading.readFields_prefix distinct fresh ran
    refine ⟨pre, f, post, w1, rfl, ran, ?_⟩
    rw [reading1.readArgument_run fresh1, EStateM.run_bind, probed]
    dsimp only
    rw [EStateM.run_bind, Act.lift_run, refused]

end Fields

/-- Reading an endpoint's arguments on a handler that has recorded none: the request is refused
exactly at an argument, in the endpoint's order, that is required and not given
(`missing_argument` naming it) or given and read as none by its kind while it is not lenient
(`invalid_argument` naming it), every argument before it having been read and passed. When
reading succeeds, every argument holds what its kind gave for the value the request gave (none
when the request gave none), and asking the handler for it gives that value. -/
theorem readArguments_decides_in_order {e : Endpoint} {w : World} {hv r : Nat} {args : Dict}
    (reading : Reading w.store hv r args []) (distinct : (e.fields.map (·.name)).Nodup) :
    (∀ err w', (readArguments e (.ref hv)).run w = .error (.api err) w' ↔
      ∃ pre f post w1 o, e.fields = pre ++ f :: post ∧
        (readFields (.ref hv) pre).run w = .ok () w1 ∧ (f.probe (.ref hv) args).run w1 = .ok o w' ∧
        ((o = none ∧ f.need = .required ∧ f.missing = .api err) ∨
          (o = some .none ∧ f.need ≠ .lenient ∧ f.invalid = .api err))) ∧
    (∀ w', (readArguments e (.ref hv)).run w = .ok () w' →
      ∃ c, Reading w'.store hv r args c ∧ ∀ f ∈ e.fields, ∃ pre post w1 o w2,
        e.fields = pre ++ f :: post ∧ (readFields (.ref hv) pre).run w = .ok () w1 ∧
        (f.probe (.ref hv) args).run w1 = .ok o w2 ∧ Dict.field? c f.name = some (o.getD .none) ∧
        (argument (.ref hv) f.name).run w' = .ok (o.getD .none) w') := by
  have fresh : ∀ f ∈ e.fields, Dict.field? [] f.name = none := fun _ _ => rfl
  refine ⟨fun err w' => ?_, fun w' run => ?_⟩
  · rw [readArguments, reading.readFields_run_refused distinct fresh err]
    simp only [Field.verdict_eq_error_iff]
  · obtain ⟨c, reading', -, recorded⟩ := reading.readFields_run_ok distinct fresh run
    refine ⟨c, reading', fun f mem => ?_⟩
    obtain ⟨pre, post, w1, o, w2, split, ran, probed, holds⟩ := recorded f mem
    exact ⟨pre, post, w1, o, w2, split, ran, probed, holds, reading'.argument_run_recorded holds⟩

/-- A handler under 0 serving a request under 1 that gave a song id and no rating. -/
def songOnlyRequest : World :=
  { store := #[.handler { route := "/api4/rate", request := .ref 1 },
      .record "FakeRequestObject" [("arguments", .dict [(.str "song_id", .str "5")])]] }

/-- Rating a song without giving the rating is refused for the missing rating, once the song id
has been read. -/
theorem rating_missing_refused :
    ∃ w', (readArguments Ratings.rate (.ref 0)).run songOnlyRequest =
      .error (needs "rating" .rating).missing w' := by
  have reading : Reading songOnlyRequest.store 0 1 [(.str "song_id", .str "5")] [] :=
    ⟨by decide, ⟨_, rfl, rfl, rfl⟩, ⟨_, rfl, rfl⟩⟩
  obtain ⟨refusal, -⟩ := @readArguments_decides_in_order Ratings.rate _ _ _ _ reading (by decide)
  exact ⟨_, (refusal _ _).mpr ⟨[needs "song_id" .songId], needs "rating" .rating, [], _, none, rfl,
    rfl, rfl, .inl ⟨rfl, rfl, rfl⟩⟩⟩

/-- Whether an action fails with a failure of the given kind. -/
def failsAs {α : Type} (x : Act α) (w : World) (k : FaultKind) : Bool :=
  match x.run w with
  | .ok _ _ => false
  | .error f _ => f.isKind k

theorem exists_error_of_failsAs {α : Type} {x : Act α} {w : World} {k : FaultKind}
    (fails : failsAs x w k = true) : ∃ f w', x.run w = .error f w' ∧ f.isKind k = true := by
  unfold failsAs at fails
  split at fails
  · cases fails
  · next f w' ran => exact ⟨f, w', ran, fails⟩

/-- A handler under 0 serving a request under 1 that gave an empty list as the song id and no
rating. -/
def emptySongIdRequest : World :=
  { store := #[.handler { route := "/api4/rate", request := .ref 1 },
      .record "FakeRequestObject" [("arguments", .dict [(.str "song_id", .list [])])]] }

/-- A song id given as an empty list has no last item to read: reading fails with an index error
before the missing rating is refused. -/
theorem emptySongId_fails_indexing :
    ∃ f w', (readArguments Ratings.rate (.ref 0)).run emptySongIdRequest = .error f w' ∧
      f.isKind .indexError = true :=
  exists_error_of_failsAs (by decide +kernel)

end Api

end Airwaves
