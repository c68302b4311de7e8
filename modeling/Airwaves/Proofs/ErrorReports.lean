import Airwaves.Proofs.ElectionOwnership
import Airwaves.Proofs.LineRebuild
/-!
# Error reports from the web client

Along any run of submissions, each report is stored newest first with every checked field as
submitted: no field is cut.
-/

namespace Airwaves

/-- The handler with an argument recorded as checked. -/
def Handler.withArgument (h : Handler) (name : String) (x : Value) : Handler :=
  { h with cleanedArgs := Dict.putField h.cleanedArgs name x }

/-- The handler with its answer replaced. -/
def Handler.withOutput (h : Handler) (out : Value) : Handler := { h with output := out }

/-- The world with the handler under `hv` replaced. -/
def World.withHandler (w : World) (hv : Nat) (h : Handler) : World :=
  { w with store := w.store.set! hv (.handler h) }

section Handlers

variable {w : World} {hv : Nat} {h h' : Handler}

@[simp] theorem World.withHandler_now : (w.withHandler hv h).now = w.now := rfl

theorem World.withHandler_withHandler (h'' : Handler) :
    (w.withHandler hv h').withHandler hv h'' = w.withHandler hv h'' := by
  simp only [World.withHandler, Array.set!_eq_setIfInBounds, Array.setIfInBounds_setIfInBounds]

theorem World.withHandler_held (held : w.store[hv]? = some (.handler h)) (h' : Handler) :
    (w.withHandler hv h').store[hv]? = some (.handler h') :=
  getElem?_set!_self held _

end Handlers

namespace Api

section Held

variable {w : World} {hv : Nat} {h : Handler}

theorem handlerAt_run_held (held : w.store[hv]? = some (.handler h)) :
    (handlerAt (.ref hv)).run w = .ok (hv, h) w := by
  simp [handlerAt, deref, held]

theorem handlerOf_run_held (held : w.store[hv]? = some (.handler h)) : (handlerOf (.ref hv)).run w = .ok h w := by
  rw [handlerOf, run_bind_ok (handlerAt_run_held held)]
  rfl

theorem changeHandler_run_held (held : w.store[hv]? = some (.handler h)) (f : Handler → Handler) :
    (changeHandler (.ref hv) f).run w = .ok () (w.withHandler hv (f h)) := by
  rw [changeHandler, run_bind_ok (handlerAt_run_held held)]
  rfl

theorem setArgument_run_held (held : w.store[hv]? = some (.handler h)) (name : String) (x : Value) :
    (setArgument (.ref hv) name x).run w =
      .ok () (w.withHandler hv (h.withArgument name x)) :=
  changeHandler_run_held held _

theorem append_run_held (held : w.store[hv]? = some (.handler h)) {d : Dict} (answers : h.output = .dict d)
    (single : h.outputArray.truthy = false) (key : Value) {e : Dict} (uncoded : Dict.hasKey e (.str "code") = false) :
    (append (.ref hv) key (.dict e)).run w =
      .ok (.bool true) (w.withHandler hv (h.withOutput (.dict (Dict.put d key (.dict e))))) := by
  have placed : (putEntry (.dict d) key (.dict e)).run w = .ok (.dict (Dict.put d key (.dict e))) w := rfl
  have asked (w' : World) : (isIn (.str "code") (.dict e)).run w' = .ok false w' := by
    simp [isIn, Value.contains, Value.requireHashable, Act.lift, uncoded]
  rw [append]
  dsimp only
  rw [if_neg Bool.false_ne_true, run_bind_ok (handlerOf_run_held held), if_neg (by simp [single]), answers, run_bind_ok placed,
    run_bind_ok (changeHandler_run_held held _), run_bind_ok (asked _), if_neg Bool.false_ne_true]
  · rfl
  · intro same
    cases same

/-- The standard part a successful answer adds: success, the key and the text given. -/
def successPart (key text : String) : Value :=
  Value.record [("success", .bool true), ("tl_key", .str key), ("text", .str text)]

/-- A handler whose answer is a mapping adds the standard part of a success with a text given under
its answer name. -/
theorem standardText_run_held (held : w.store[hv]? = some (.handler h)) {d : Dict} (answers : h.output = .dict d)
    (single : h.outputArray.truthy = false) (key : String) {text : String} (written : text ≠ "") :
    (standardText (.ref hv) key text).run w =
      .ok () (w.withHandler hv (h.withOutput (.dict (Dict.put d h.returnName (successPart key text))))) := by
  have given : (Value.str text).truthy = true := by simpa [Value.truthy] using written
  have named : (answerName (.ref hv)).run w = .ok h.returnName w := by
    rw [answerName, run_bind_ok (handlerOf_run_held held)]
    rfl
  have uncoded : Dict.hasKey (Dict.ofStrings [("success", .bool true), ("tl_key", .str key), ("text", .str text)])
      (.str "code") = false := by
    simp [Dict.ofStrings, Dict.hasKey, Dict.lookup?, Value.equals]
  rw [standardText, appendStandard]
  dsimp only
  rw [if_pos given, run_bind_ok (rfl : (pure (Value.str text) : Act Value).run w = .ok (.str text) w),
    if_neg (by decide), run_bind_ok named, Value.record, List.nil_append,
    run_bind_ok (append_run_held held answers single _ uncoded)]
  rfl

end Held

theorem Caller.withHandler {w : World} {user : Value} {u : User} {hv : Nat} {h : Handler} (c : Caller w user u)
    (held : w.store[hv]? = some (.handler h)) (h' : Handler) : Caller (w.withHandler hv h') user u := by
  obtain ⟨hu, rfl, listener⟩ := c
  -- the handle of the handler holds no user
  have apart : hv ≠ hu := by
    rintro rfl
    rw [held] at listener
    cases listener
  exact ⟨hu, rfl, (getElem?_set!_of_ne _ apart).trans listener⟩

theorem someUser_run {w : World} {user : Value} {u : User} (c : Caller w user u) (member : String) :
    (someUser user member).run w = .ok u w := by
  obtain ⟨hu, rfl, listener⟩ := c
  simp [someUser, Ratings.listener_run listener]

namespace Reports

/-- The reports the cache holds: its list of reports, or none when it holds no list. -/
def storedReports (c : Cache) : List Value :=
  match c.peek "error_reports" with
  | .list xs => xs
  | _ => []

/-- A report as it is kept: its checked fields with the submitter's id and name and the time. -/
def keptReport (fields : Dict) (id name time : Value) : Dict :=
  Dict.putField (Dict.putField (Dict.putField fields "user_id" id) "username" name) "time" time

/-- An error report submitted through a handler: the handler's handle, the handler as it stands
before serving, and the user it serves with the user's name. -/
structure Submission where
  handle : Nat
  handler : Handler
  user : User
  name : Value

namespace Submission

/-- The report a submission keeps at a time. -/
def report (s : Submission) (time : Value) : Value :=
  .dict (keptReport s.handler.cleanedArgs s.user.id s.name time)

/-- A submission's handler is stored and prepared to answer (its answer is one mapping), and it
serves a stored user whose data holds a name. -/
structure Ready (s : Submission) (w : World) : Prop where
  held : w.store[s.handle]? = some (.handler s.handler)
  caller : Caller w s.handler.user s.user
  named : Dict.field? s.user.data "name" = some s.name
  answers : ∃ d, s.handler.output = .dict d
  single : s.handler.outputArray.truthy = false

end Submission

/-- A submission keeps its report in front of the stored reports; besides the cache it changes
only its own handler. -/
theorem errorReport_run {w : World} {s : Submission} (ready : s.Ready w) (connected : w.cache.connected = true) :
    ∃ h', (errorReport.serve (.ref s.handle)).run w =
      .ok () { w.withHandler s.handle h' with
        cache := w.cache.store "error_reports" (.list (s.report (.float w.now) :: storedReports w.cache)) false } := by
  obtain ⟨held, caller, named, ⟨d, answers⟩, single⟩ := ready
  simp only [errorReport]
  rw [run_bind_ok (Ratings.userOf_run held), run_bind_ok (someUser_run caller "id"),
    run_bind_ok (setArgument_run_held held _ _), run_bind_ok (Caller.userOf_run (Caller.withHandler caller held _)),
    run_bind_ok (Ratings.dataOf_run _ named),
    run_bind_ok (setArgument_run_held (World.withHandler_held held _) _ _), World.withHandler_withHandler,
    run_bind_ok (timestamp_run _),
    run_bind_ok (setArgument_run_held (World.withHandler_held held _) _ _), World.withHandler_withHandler,
    run_bind_ok (Cache.read_run _ ?read), run_bind_ok (handlerOf_run_held (World.withHandler_held held _)),
    run_bind_ok (Cache.put_run _ _ _ ?write), standardText_run_held ?held ?answers ?single _ (by decide)]
  case read | write => exact connected
  case held => exact getElem?_set!_self held _
  case answers => exact answers
  case single => exact single
  -- the handler ends with its three recorded arguments and its answer
  refine ⟨(((s.handler.withArgument "user_id" s.user.id).withArgument "username" s.name).withArgument "time"
    (.float w.now)).withOutput (.dict (Dict.put d s.handler.returnName
      (successPart "report_submitted" "Error report submitted."))), ?_⟩
  simp only [World.withHandler, Array.set!_eq_setIfInBounds, Array.setIfInBounds_setIfInBounds]
  rfl

theorem storedReports_store (c : Cache) (xs : List Value) :
    storedReports (c.store "error_reports" (.list xs) false) = xs := by
  rw [storedReports, Requests.peek_store_same]

/-- A kept report shows the submitter's id and name, and every other checked field as it was
submitted. -/
theorem field?_keptReport (fields : Dict) (id name time : Value) (key : String) :
    Dict.field? (keptReport fields id name time) key =
      if key = "time" then some time else if key = "username" then some name
      else if key = "user_id" then some id else Dict.field? fields key := by
  simp only [keptReport, field?_putField]
  by_cases t : key = "time" <;> by_cases n : key = "username" <;> simp_all [eq_comm]

theorem Submission.field?_report (s : Submission) (time : Value) (key : String) :
    (s.report time).field? key =
      if key = "time" then some time else if key = "username" then some s.name
      else if key = "user_id" then some s.user.id else Dict.field? s.handler.cleanedArgs key := by
  simp [Submission.report, Value.field?, Value.entries?, field?_keptReport]

/-- Serving one submission leaves every other submission of the run ready. -/
theorem Submission.Ready.withHandler {w : World} {s t : Submission} (ready : t.Ready w)
    (held : w.store[s.handle]? = some (.handler s.handler)) (apart : s.handle ≠ t.handle) (h' : Handler)
    (c : Cache) : t.Ready { w.withHandler s.handle h' with cache := c } where
  held := (getElem?_set!_of_ne _ apart).trans ready.held
  caller := Caller.withHandler ready.caller held h'
  named := ready.named
  answers := ready.answers
  single := ready.single

/-- Error reports submitted one after another, each through its own handler. -/
def submitAll (subs : List Submission) : Act Unit := subs.forM fun s => errorReport.serve (.ref s.handle)

/-- Along a run of submissions through ready handlers, each one completes and puts its report in
front of the stored reports. -/
theorem submitAll_run (subs : List Submission) {w : World} (ready : ∀ s ∈ subs, s.Ready w)
    (distinct : (subs.map (·.handle)).Nodup) (connected : w.cache.connected = true) :
    ∃ w', (submitAll subs).run w = .ok () w' ∧ w'.now = w.now ∧ w'.cache.connected = true ∧
      storedReports w'.cache = (subs.map (·.report (.float w.now))).reverse ++ storedReports w.cache := by
  induction subs generalizing w with
  | nil => exact ⟨w, rfl, rfl, connected, rfl⟩
  | cons s rest ih =>
    obtain ⟨apart, distinct⟩ := List.nodup_cons.mp distinct
    obtain ⟨h', first⟩ := errorReport_run (ready s List.mem_cons_self) connected
    -- the rest of the run starts from the world the first submission leaves
    have later : ∀ t ∈ rest, t.Ready { w.withHandler s.handle h' with
        cache := w.cache.store "error_reports" (.list (s.report (.float w.now) :: storedReports w.cache)) false } :=
      fun t mem => (ready t (List.mem_cons_of_mem _ mem)).withHandler (ready s List.mem_cons_self).held
        (fun same => apart (List.mem_map.mpr ⟨t, mem, same.symm⟩)) h' _
    obtain ⟨w', run, clock, still, stored⟩ := ih later distinct (by simpa using connected)
    refine ⟨w', ?_, clock, still, ?_⟩
    · rw [submitAll, List.forM_eq_forM, List.forM_cons, run_bind_ok first]
      exact run
    · rw [stored, storedReports_store]
      simp

/-- Error reports along any run of submissions through ready handlers: every submission completes,
the stored reports become the new ones, newest first, in front of those kept before, and each new
report holds every checked field as it was submitted, uncut, beside the submitter's id and name. -/
theorem errorReports_stored (subs : List Submission) {w : World} (ready : ∀ s ∈ subs, s.Ready w)
    (distinct : (subs.map (·.handle)).Nodup) (connected : w.cache.connected = true) :
    ∃ w', (submitAll subs).run w = .ok () w' ∧
      storedReports w'.cache = (subs.map (·.report (.float w.now))).reverse ++ storedReports w.cache ∧
      ∀ s ∈ subs, (∀ key, key ≠ "user_id" → key ≠ "username" → key ≠ "time" →
          (s.report (.float w.now)).field? key = Dict.field? s.handler.cleanedArgs key) ∧
        (s.report (.float w.now)).field? "user_id" = some s.user.id ∧
        (s.report (.float w.now)).field? "username" = some s.name := by
  obtain ⟨w', run, -, -, stored⟩ := submitAll_run subs ready distinct connected
  refine ⟨w', run, stored, fun s _ => ⟨fun key other named timed => ?_, ?_, ?_⟩⟩
  · simp [Submission.field?_report, other, named, timed]
  · simp [Submission.field?_report]
  · simp [Submission.field?_report]

/-- A message of 2049 characters. -/
def longMessage : String := String.ofList (List.replicate 2049 'x')

/-- A report of listener 2 through handler 0, with a message of 2049 characters. -/
def longReportHandler : Handler :=
  { route := "/api4/error_report", user := .ref 2, output := .dict [],
    cleanedArgs := [(.str "name", .str "TypeError"), (.str "message", .str longMessage)] }

/-- A report of listener 2 through handler 1, with a short message. -/
def shortReportHandler : Handler :=
  { route := "/api4/error_report", user := .ref 2, output := .dict [],
    cleanedArgs := [(.str "name", .str "RangeError"), (.str "message", .str "short")] }

/-- Listener 2 sends the two reports, the long one first. -/
def reportingDesk : World where
  store := #[.handler longReportHandler, .handler shortReportHandler, .user { id := .int 2 }]

/-- The two submissions of `reportingDesk`. -/
def deskSubmissions : List Submission :=
  [⟨0, longReportHandler, { id := .int 2 }, .str "Anonymous"⟩,
   ⟨1, shortReportHandler, { id := .int 2 }, .str "Anonymous"⟩]

theorem longReport_kept_whole :
    ∃ w', (submitAll deskSubmissions).run reportingDesk = .ok () w' ∧
      storedReports w'.cache =
        (deskSubmissions.map (·.report (.float reportingDesk.now))).reverse ++ storedReports reportingDesk.cache ∧
      ∀ s ∈ deskSubmissions, (∀ key, key ≠ "user_id" → key ≠ "username" → key ≠ "time" →
          (s.report (.float reportingDesk.now)).field? key = Dict.field? s.handler.cleanedArgs key) ∧
        (s.report (.float reportingDesk.now)).field? "user_id" = some s.user.id ∧
        (s.report (.float reportingDesk.now)).field? "username" = some s.name := by
  have ready : ∀ s ∈ deskSubmissions, s.Ready reportingDesk := by
    intro s mem
    simp only [deskSubmissions, List.mem_cons, List.not_mem_nil, or_false] at mem
    rcases mem with rfl | rfl
    · exact ⟨rfl, ⟨2, rfl, rfl⟩, rfl, ⟨[], rfl⟩, rfl⟩
    · exact ⟨rfl, ⟨2, rfl, rfl⟩, rfl, ⟨[], rfl⟩, rfl⟩
  exact errorReports_stored deskSubmissions ready (by decide) rfl

end Reports

end Api

end Airwaves
