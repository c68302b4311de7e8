import Airwaves.Proofs.ThrottleNotices
import Airwaves.Proofs.RequestChecks
/-!
# A vote whose entry is refused

An entry that is missing in value or not a whole number gets a notice, and the vote is still
annotated, published as `vote_by` and served.
-/

namespace Airwaves.Live

open Api

variable {w : World} {hw : Nat} {s : Socket} {text : Value} {d : Dict}

/-- The connection under `hw` is authorised. -/
def Authorized (w : World) (hw : Nat) : Prop :=
  ∃ s a, w.store[hw]? = some (.socket s) ∧ s.get? "authorized" = some a ∧ a.truthy = true

/-- The connection under `hw` takes a message at once: it is not slowed down, fewer than four of
its messages came in the last three seconds (as far as it knows), and its votes count under `k`. -/
def Unhurried (w : World) (hw : Nat) (k : Value) : Prop :=
  ∃ s ts t, w.store[hw]? = some (.socket s) ∧ s.get? "msg_times" = some (.list ts) ∧
    ts.length < 4 ∧ s.get? "throttled" = some t ∧ t.truthy = false ∧
    s.get? "votes_by_key" = some k

/-! ### Storing the message -/

/-- The world once a message is stored as a new object. -/
def withMessage (w : World) (d : Dict) : World := { w with store := w.store.push (.message d) }

theorem allocMessage_run (w : World) (d : Dict) :
    (allocRef (.message d)).run w = .ok (.ref w.store.size) (withMessage w d) := rfl

theorem withMessage_old {h : Nat} (inside : h < w.store.size) :
    (withMessage w d).store[h]? = w.store[h]? := by
  simp [withMessage, Array.getElem?_push, Nat.ne_of_lt inside]

theorem withMessage_new : (withMessage w d).store[w.store.size]? = some (.message d) := by
  simp [withMessage]

theorem itemOf_message_run {n : Nat} (stored : w.store[n]? = some (.message d)) {k x : Value}
    (found : Dict.lookup? d k = some x) : (itemOf (.ref n) k).run w = .ok x w := by
  simp [itemOf, deref, stored, found]

theorem itemOf_message_missing {n : Nat} (stored : w.store[n]? = some (.message d)) {k : Value}
    (missing : Dict.lookup? d k = none) :
    (itemOf (.ref n) k).run w = .error (.missingKey k) w := by
  simp [itemOf, deref, stored, missing]

/-- An address that holds something other than a connection is not the connection's. -/
theorem ne_of_socket {h : Nat} {o : Obj} (socket : w.store[hw]? = some (.socket s))
    (stored : w.store[h]? = some o) (other : ∀ s', o ≠ .socket s') : h ≠ hw := by
  rintro rfl
  rw [socket] at stored
  exact other s (Option.some.inj stored).symm

/-! ### Notices -/

/-- Sending adds one message to the connection's outbox and changes nothing else. -/
theorem send_result {msg : Value} {w w' : World} {u : Unit} (run : (send msg).run w = .ok u w') :
    ∃ v, w' = { w with outbox := { w.outbox with
      socketMessages := w.outbox.socketMessages.push v } } := by
  obtain ⟨v, w1, wire, sent⟩ := run_bind_eq_ok run
  have same : w1 = w := by
    unfold wireForm at wire
    split at wire
    · cases wire
    · exact (run_pure_eq_ok wire).2
  subst same
  exact ⟨v, (EStateM.Result.ok.inj sent).2.symm⟩

/-- A translated notice followed by a send: one message out, nothing else changed. -/
theorem say_send_result {ws : Value} {key : String} {args : List (String × Value)}
    {form : Value → Value} {w w' : World} {u : Unit}
    (run : (say ws key args >>= fun text => send (form text)).run w = .ok u w') :
    ∃ v, w' = { w with outbox := { w.outbox with
      socketMessages := w.outbox.socketMessages.push v } } := by
  obtain ⟨text, w1, said, sent⟩ := run_bind_eq_ok run
  rw [say_readOnly ws key args w text w1 said] at sent
  exact send_result sent

/-- The entry check writes nothing but notices: one for an entry that is missing or not a whole
number, none for a whole number. -/
theorem checkVoteEntry_sends {ws x : Value} {w w' : World}
    (run : (checkVoteEntry ws x).run w = .ok () w') :
    ∃ sent : List Value,
      sent.length = (if x.truthy && (Fields.integer x).truthy then 0 else 1) ∧
      w' = { w with outbox := { w.outbox with
        socketMessages := w.outbox.socketMessages ++ sent.toArray } } := by
  unfold checkVoteEntry at run
  split at run
  · -- no entry: the refusal
    rename_i falsy
    obtain ⟨v, rfl⟩ := say_send_result (by simpa [refuseMessage, notice] using run)
    refine ⟨[v], ?_, by simp⟩
    simp_all
  split at run
  · -- an entry that is no whole number
    rename_i truthy other
    obtain ⟨v, rfl⟩ := say_send_result run
    refine ⟨[v], ?_, by simp⟩
    simp_all
  · -- a whole number passes without a word
    rename_i truthy whole
    obtain ⟨-, rfl⟩ := run_pure_eq_ok run
    refine ⟨[], ?_, by simp⟩
    simp_all

/-! ### Taking the message in -/

theorem field_readOnly (ws : Value) (name : String) : ReadOnly (field ws name) := by
  unfold field
  refine ReadOnly.bind (socketAt_readOnly ws) fun p => ?_
  split
  · exact ReadOnly.pure _
  · exact noMember_readOnly _ _

section Receive

variable (auth : Authorized w hw) (read : readMessage text = some d)
  (vote : Dict.lookup? d (.str "action") = some (.str "vote"))
include auth read vote

/-- Up to its entry, an authorised connection's vote is stored and read as a vote. -/
theorem receive_vote_reads_entry :
    (receive (.ref hw) text).run w =
      (do
        checkVoteEntry (.ref hw) (← entry (.ref w.store.size) "entry_id")
        setEntry (.ref w.store.size) "elec_id"
          (← Timeline.electionOfEntry (← field (.ref hw) "sid")
            (← entry (.ref w.store.size) "entry_id"))
        process (.ref hw) (.ref w.store.size) false).run (withMessage w d) := by
  obtain ⟨s, a, socket, authorized, yes⟩ := auth
  have inside : hw < w.store.size := (Array.getElem?_eq_some_iff.mp socket).1
  have socket' : (withMessage w d).store[hw]? = some (.socket s) := by
    rw [withMessage_old inside, socket]
  have has : Dict.hasKey d (.str "action") = true := by simp [Dict.hasKey, vote]
  unfold receive
  simp only [read]
  -- an action is there and is not empty, the connection is authorised, and the action is a vote
  rw [run_bind_ok (allocMessage_run w d), if_neg (by simp [has]), actionOf,
    run_bind_ok (itemOf_message_run withMessage_new vote), if_neg (by decide),
    run_bind_ok (field_run socket' authorized), if_neg (by simp [yes]), if_neg (by simp [yes]),
    if_pos (by decide)]

/-- A vote without an entry fails on the missing key, having answered nothing. -/
theorem receive_vote_missing (missing : Dict.lookup? d (.str "entry_id") = none) :
    (receive (.ref hw) text).run w = .error (.missingKey (.str "entry_id")) (withMessage w d) := by
  rw [receive_vote_reads_entry auth read vote, entry, EStateM.run_bind,
    itemOf_message_missing withMessage_new missing]

/-- A vote with an entry is checked, annotated with its election and processed, whatever the
check found. -/
theorem receive_vote_run {x : Value} (chosen : Dict.lookup? d (.str "entry_id") = some x) :
    (receive (.ref hw) text).run w =
      (do
        checkVoteEntry (.ref hw) x
        setEntry (.ref w.store.size) "elec_id"
          (← Timeline.electionOfEntry (← field (.ref hw) "sid") x)
        process (.ref hw) (.ref w.store.size) false).run (withMessage w d) := by
  rw [receive_vote_reads_entry auth read vote, entry,
    run_bind_ok (itemOf_message_run withMessage_new chosen), EStateM.run_bind, EStateM.run_bind]
  cases check : (checkVoteEntry (.ref hw) x).run (withMessage w d) with
  | error f w₂ => rfl
  | ok u w₂ =>
    -- the check only writes to the outbox, so the entry reads the same after it
    obtain ⟨sent, -, rfl⟩ := checkVoteEntry_sends check
    simp only [EStateM.run_bind]
    cases sid : (field (.ref hw) "sid").run _ with
    | error f w₃ => rfl
    | ok v w₃ =>
      obtain rfl := field_readOnly _ _ _ _ _ sid
      simp only
      rw [itemOf_message_run ?stored chosen]
      exact withMessage_new

end Receive

/-! ### Processing a vote -/

/-- The id a stored message carries, as it is served. -/
def storedId (d : Dict) : Value :=
  match Dict.lookup? d (.str "message_id") with
  | some y => Fields.zeroOrGreaterInteger y
  | none => .none

theorem messageIdOf_run {hm : Nat} (stored : w.store[hm]? = some (.message d)) :
    (messageIdOf (.ref hm)).run w = .ok (storedId d) w := by
  unfold messageIdOf storedId
  rw [run_bind_ok (hasEntry_message_run stored "message_id")]
  cases found : Dict.lookup? d (.str "message_id") with
  | none => simp [Dict.hasKey, found]
  | some y =>
    have has : Dict.hasKey d (.str "message_id") = true := by simp [Dict.hasKey, found]
    rw [if_pos has, entry, run_bind_ok (itemOf_message_run stored found)]
    rfl

theorem minus_float_int_run (w : World) (x : Double) (n : Int) :
    (minus (.float x) (.int n)).run w = .ok (.float (x - Double.ofInt n)) w := rfl

theorem endpointFor_vote :
    ∃ e, endpointFor (.str "/api4/vote") = some e ∧ e.url = "/api4/vote" :=
  ⟨_, rfl, rfl⟩

/-- On a connection that is not slowed down, a vote is published as `vote_by` and then served
by the vote endpoint; nothing is sent on the way. -/
theorem process_vote_publishes {k : Value} (ready : Unhurried w hw k) {hm : Nat}
    (stored : w.store[hm]? = some (.message d))
    (vote : Dict.lookup? d (.str "action") = some (.str "vote")) :
    ∃ (w' : World) (e : Endpoint), e.url = "/api4/vote" ∧
      w'.outbox.published =
        w.outbox.published.push (.record [("action", .str "vote_by"), ("by", k)]) ∧
      w'.outbox.socketMessages = w.outbox.socketMessages ∧
      (process (.ref hw) (.ref hm) false).run w =
        (do
          setEntry (.ref hm) "action" (.str "/api4/vote")
          serveBy (.ref hw) (.ref hm) e (storedId d)).run w' := by
  obtain ⟨s, ts, t, socket, times, few, calm, still, byKey⟩ := ready
  obtain ⟨e, found, url⟩ := endpointFor_vote
  have apart : hm ≠ hw := ne_of_socket socket stored fun _ same => by cases same
  unfold process
  -- the message's id is read, and the recent message times are filtered
  rw [run_bind_ok (messageIdOf_run stored)]
  dsimp only
  have recentRun : (ts.filterM fun x => isGreater x (.float (w.now - Double.ofInt 3))).run w =
      .ok (ts.filter fun x => Value.greater x (.float (w.now - Double.ofInt 3))) w :=
    filterM_run fun _ _ => rfl
  rw [run_bind_ok (timestamp_run w), run_bind_ok (minus_float_int_run w _ 3),
    run_bind_ok (field_run socket times), run_bind_ok (itemsOf_list_run ts w),
    run_bind_ok recentRun, run_bind_ok (setField_run _ _ socket),
    if_pos (show (!false) = true from rfl)]
  -- the connection's times are written twice, and nothing else of it changes
  set recent := ts.filter fun x => Value.greater x (.float (w.now - Double.ofInt 3))
  set s₁ := s.setAttribute "msg_times" (.list recent)
  set w₁ : World := { w with store := w.store.set! hw (.socket s₁) }
  have socket₁ : w₁.store[hw]? = some (.socket s₁) := set_self _ socket
  rw [run_bind_ok (setField_run _ _ socket₁)]
  set s₂ := s₁.setAttribute "msg_times" (.list (recent ++ [.float w.now]))
  set w₂ : World := { w₁ with store := w₁.store.set! hw (.socket s₂) }
  have socket₂ : w₂.store[hw]? = some (.socket s₂) := set_self _ socket₁
  have kept (name : String) (other : name ≠ "msg_times") : s₂.get? name = s.get? name := by
    rw [get?_setAttribute_other _ _ other, get?_setAttribute_other _ _ other]
  have stored₂ : w₂.store[hm]? = some (.message d) := by
    rw [set_frame _ _ hm apart, set_frame _ _ hm apart, stored]
  have short : ¬(recent.length + 1 ≥ 5) := by
    have : recent.length ≤ ts.length := List.length_filter_le _ _
    omega
  rw [run_bind_ok (field_run socket₂ ((kept _ (by decide)).trans calm)), if_neg (by simp [still]),
    if_neg short, actionOf, run_bind_ok (itemOf_message_run stored₂ vote), if_neg (by decide),
    if_neg (by decide), if_pos (by decide),
    run_bind_ok (field_run socket₂ ((kept _ (by decide)).trans byKey)),
    run_bind_ok (publish_run _ _), if_neg (by decide)]
  -- the vote is published; its address is that of the vote endpoint
  have path : Value.str ("/api4/" ++ (Value.str "vote").display) = .str "/api4/vote" := rfl
  rw [path, found]
  exact ⟨{ w₂ with outbox := { w₂.outbox with
    published := w₂.outbox.published.push (.record [("action", .str "vote_by"), ("by", k)]) } },
    e, url, rfl, rfl, rfl⟩

/-! ### The vote -/

/-- On an authorised connection, a vote without an entry key fails on the missing key, having
answered nothing; a vote with an entry is checked, annotated with its election and processed,
whatever the check found; the check sends one notice for an entry that is missing or not a
whole number, and nothing else; and on a connection that is not slowed down, processing the
vote publishes it as `vote_by` and serves it by the vote endpoint. -/
theorem refusedVote_still_served (w : World) (hw : Nat) :
    (∀ (text : Value) (d : Dict), Authorized w hw →
      readMessage text = some d → Dict.lookup? d (.str "action") = some (.str "vote") →
      (Dict.lookup? d (.str "entry_id") = none →
        (receive (.ref hw) text).run w =
          .error (.missingKey (.str "entry_id")) (withMessage w d)) ∧
      ∀ x, Dict.lookup? d (.str "entry_id") = some x →
        (receive (.ref hw) text).run w =
          (do
            checkVoteEntry (.ref hw) x
            setEntry (.ref w.store.size) "elec_id"
              (← Timeline.electionOfEntry (← field (.ref hw) "sid") x)
            process (.ref hw) (.ref w.store.size) false).run (withMessage w d)) ∧
    (∀ (ws x : Value) (w' : World), (checkVoteEntry ws x).run w = .ok () w' →
      ∃ sent : List Value,
        sent.length = (if x.truthy && (Fields.integer x).truthy then 0 else 1) ∧
        w' = { w with outbox := { w.outbox with
          socketMessages := w.outbox.socketMessages ++ sent.toArray } }) ∧
    (∀ (k : Value) (hm : Nat) (d : Dict), Unhurried w hw k →
      w.store[hm]? = some (.message d) → Dict.lookup? d (.str "action") = some (.str "vote") →
      ∃ (w' : World) (e : Endpoint), e.url = "/api4/vote" ∧
        w'.outbox.published =
          w.outbox.published.push (.record [("action", .str "vote_by"), ("by", k)]) ∧
        w'.outbox.socketMessages = w.outbox.socketMessages ∧
        (process (.ref hw) (.ref hm) false).run w =
          (do
            setEntry (.ref hm) "action" (.str "/api4/vote")
            serveBy (.ref hw) (.ref hm) e (storedId d)).run w') :=
  ⟨fun _ _ auth read vote =>
      ⟨receive_vote_missing auth read vote,
        fun _ chosen => receive_vote_run auth read vote chosen⟩,
    fun _ _ _ run => checkVoteEntry_sends run,
    fun _ _ _ ready stored vote => process_vote_publishes ready stored vote⟩

/-- A connection under 0: authorised on station 1, with no recent messages, not slowed down, its
votes counting under `"u1"`. -/
def zeroVoter : World :=
  { store := #[.socket { fields := [("authorized", .bool true), ("sid", .int 1),
      ("msg_times", .list []), ("throttled", .bool false), ("votes_by_key", .str "u1")] }] }

/-- The text of a vote for entry 0. -/
def zeroVoteText : Value := .str "\x7b\"action\": \"vote\", \"entry_id\": 0\x7d"

/-- A vote for entry 0 on that connection is checked, with one notice, and still annotated and
processed: processing it publishes it as `vote_by` and serves it by the vote endpoint. -/
theorem zeroVote_still_served :
    ∃ d, readMessage zeroVoteText = some d ∧ Dict.lookup? d (.str "entry_id") = some (.int 0) ∧
      Authorized zeroVoter 0 ∧ Unhurried (withMessage zeroVoter d) 0 (.str "u1") ∧
      (receive (.ref 0) zeroVoteText).run zeroVoter =
        (do
          checkVoteEntry (.ref 0) (.int 0)
          setEntry (.ref 1) "elec_id" (← Timeline.electionOfEntry (← field (.ref 0) "sid") (.int 0))
          process (.ref 0) (.ref 1) false).run (withMessage zeroVoter d) ∧
      (∀ w', (checkVoteEntry (.ref 0) (.int 0)).run (withMessage zeroVoter d) = .ok () w' →
        ∃ sent : List Value, sent.length = 1 ∧
          w'.outbox.socketMessages = zeroVoter.outbox.socketMessages ++ sent.toArray) ∧
      ∃ (w' : World) (e : Api.Endpoint), e.url = "/api4/vote" ∧
        w'.outbox.published = zeroVoter.outbox.published.push
          (.record [("action", .str "vote_by"), ("by", .str "u1")]) ∧
        (process (.ref 0) (.ref 1) false).run (withMessage zeroVoter d) =
          (do
            setEntry (.ref 1) "action" (.str "/api4/vote")
            serveBy (.ref 0) (.ref 1) e (storedId d)).run w' := by
  -- the kernel reads the text; its entries are checked through `getD`
  obtain ⟨d, read⟩ : ∃ d, readMessage zeroVoteText = some d :=
    Option.isSome_iff_exists.mp (by decide +kernel)
  have parsed : (readMessage zeroVoteText).getD [] = d := by rw [read]; rfl
  have action : Dict.lookup? d (.str "action") = some (.str "vote") := by
    rw [← parsed]
    exact Listeners.eq_of_isSomeStr (by decide +kernel)
  have entry : Dict.lookup? d (.str "entry_id") = some (.int 0) := by
    rw [← parsed]
    exact Listeners.eq_of_isSomeInt (by decide +kernel)
  have auth : Authorized zeroVoter 0 := ⟨_, _, rfl, rfl, rfl⟩
  have ready : Unhurried (withMessage zeroVoter d) 0 (.str "u1") :=
    ⟨_, [], _, rfl, rfl, by decide, rfl, rfl, rfl⟩
  obtain ⟨dispatch, -, -⟩ := refusedVote_still_served zeroVoter 0
  obtain ⟨-, checks, publishes⟩ := refusedVote_still_served (withMessage zeroVoter d) 0
  obtain ⟨w', e, url, published, -, served⟩ := publishes _ 1 d ready withMessage_new action
  refine ⟨d, read, entry, auth, ready, (dispatch _ d auth read action).2 _ entry,
    fun w'' run => ?_, w', e, url, published, served⟩
  obtain ⟨sent, count, rfl⟩ := checks _ _ w'' run
  exact ⟨sent, by simpa [Value.truthy] using count, rfl⟩

end Airwaves.Live
