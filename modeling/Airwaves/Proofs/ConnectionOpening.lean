import Airwaves.Proofs.VoteDispatch
import Airwaves.Proofs.LoadFrame
/-!
# Opening a connection and signing it in

A connection just made has no locale, so its refusal cannot be translated; signing in points
out each flaw of the message and signs in all the same.
-/

namespace Airwaves.Live

open Api

variable {w : World} {hw : Nat} {s : Socket}

/-! ### Opening -/

/-- The connection once the station argument is read. -/
def withStation (s : Socket) (args : List Value) : Socket :=
  match args.head? with
  | some given =>
    match Value.toInt given with
    | .ok sid => s.setAttribute "sid" sid
    | .error _ => s
  | none => s

/-- Reading the station argument writes the connection's station and nothing else. -/
theorem takeStation_run (socket : w.store[hw]? = some (.socket s)) (args : List Value) :
    ∃ w₁, (takeStation (.ref hw) args).run w = .ok () w₁ ∧
      w₁.store[hw]? = some (.socket (withStation s args)) ∧
      (∀ h ≠ hw, w₁.store[h]? = w.store[h]?) ∧ w₁.outbox = w.outbox ∧
      w₁.config = w.config := by
  cases head : args.head? with
  | none =>
    -- no argument: nothing is written
    exact ⟨w, by simp [takeStation, head], by simp [withStation, head, socket], fun _ _ => rfl,
      rfl, rfl⟩
  | some given =>
    cases reads : Value.toInt given with
    | error f =>
      exact ⟨w, by simp [takeStation, head, reads], by simp [withStation, head, reads, socket],
        fun _ _ => rfl, rfl, rfl⟩
    | ok sid =>
      refine ⟨{ w with store := w.store.set! hw (.socket (s.setAttribute "sid" sid)) }, ?_, ?_,
        set_frame _ _, rfl, rfl⟩
      · simp only [takeStation, head, reads]
        exact setField_run _ _ socket
      · simp only [withStation, head, reads]
        exact set_self _ socket

/-- The station a connection is opened on. -/
def openingStation (s : Socket) (args : List Value) : Value := (withStation s args).get "sid"

theorem get?_sid (s : Socket) : s.get? "sid" = some (s.get "sid") := by
  unfold Socket.get Socket.get?
  split <;> rfl

theorem withStation_locale (s : Socket) (args : List Value) :
    (withStation s args).get? "locale" = s.get? "locale" := by
  unfold withStation
  split
  · split
    · exact get?_setAttribute_other _ _ (by decide)
    · rfl
  · rfl

theorem stationIdList_run (w : World) : Config.stationIdList.run w = .ok w.config.stationIds w :=
  rfl

/-- A connection whose locale is none cannot translate a notice: the refusal fails on the
missing member, having sent nothing. -/
theorem refuseMessage_without_locale (socket : w.store[hw]? = some (.socket s))
    (noLocale : s.get? "locale" = some .none) (key : String) (args : List (String × Value)) :
    (refuseMessage (.ref hw) key args).run w =
      .error (Fault.noAttribute "NoneType" "translate") w := by
  simp [refuseMessage, notice, say, field_run socket noLocale, Locale.translateWith, localeAt,
    noMember, kindNameOf, Value.kindName]

/-! ### Notices -/

theorem applyArgument_str (l : Locale) (line name t : String) :
    l.applyArgument line name (.str t) = .ok (.inl (Locale.fillValue line name (.str t))) := rfl

/-- Arguments that are all texts fill a phrase without fail. -/
theorem go_texts (l : Locale) {args : List (String × Value)}
    (texts : ∀ p ∈ args, ∃ t, p.2 = .str t) (line : String) :
    ∃ r, Locale.translate.go l line args = .ok r := by
  induction args generalizing line with
  | nil => exact ⟨line, rfl⟩
  | cons p rest ih =>
    obtain ⟨name, v⟩ := p
    obtain ⟨t, rfl⟩ := texts (name, v) List.mem_cons_self
    rw [Locale.translate.go, applyArgument_str]
    exact ih (fun q mem => texts q (List.mem_cons_of_mem _ mem)) _

/-- A phrase translates whatever texts fill it. -/
theorem translate_texts (l : Locale) (key : String) {args : List (String × Value)}
    (texts : ∀ p ∈ args, ∃ t, p.2 = .str t) : ∃ r, l.translate key args = .ok r := by
  unfold Locale.translate
  split
  · exact ⟨_, rfl⟩
  · exact go_texts l texts _

/-- A notice is plain JSON. -/
theorem notice_normalize (name key text : String) :
    ∃ n, Json.normalize (.record [(name, .record [("tl_key", .str key), ("text", .str text)])]) =
      .ok n :=
  ⟨_, rfl⟩

/-- A connection with a locale translates a notice of texts and sends it: one message, and
nothing else changes. -/
theorem refuseMessage_with_locale (socket : w.store[hw]? = some (.socket s)) {hl : Nat}
    {l : Locale} (localized : s.get? "locale" = some (.ref hl))
    (stored : w.store[hl]? = some (.locale l)) (key : String) (args : List (String × Value))
    (texts : ∀ p ∈ args, ∃ t, p.2 = .str t) :
    ∃ v, (refuseMessage (.ref hw) key args).run w = .ok () { w with outbox := { w.outbox with
      socketMessages := w.outbox.socketMessages.push v } } := by
  obtain ⟨r, translated⟩ := translate_texts l key texts
  obtain ⟨n, normal⟩ := notice_normalize "wserror" key r
  simp [refuseMessage, notice, say, field_run socket localized, Locale.translateWith, localeAt,
    deref, stored, translated, send, wireForm, normal]
  exact ⟨_, rfl⟩

/-! ### Refused stations -/

/-- A station is refused when it is missing or not configured; opening on it comes down to
sending the refusal from the connection with the station read. -/
theorem openOn_refused (socket : w.store[hw]? = some (.socket s)) (args : List Value)
    (refused : (openingStation s args).truthy = false ∨
      (w.config.stationIds.any fun x => Value.equals x (openingStation s args)) = false) :
    ∃ w₁ key, (openOn (.ref hw) args).run w =
        (refuseMessage (.ref hw) key >>= fun _ => pure ()).run w₁ ∧
      w₁.store[hw]? = some (.socket (withStation s args)) ∧
      (∀ h ≠ hw, w₁.store[h]? = w.store[h]?) ∧ w₁.outbox = w.outbox := by
  obtain ⟨w₁, taken, socket₁, others, outbox₁, config₁⟩ := takeStation_run socket args
  unfold openOn
  rw [run_bind_ok taken, run_bind_ok (field_run socket₁ (get?_sid _))]
  by_cases falsy : (openingStation s args).truthy = false
  · rw [if_pos (by simpa [openingStation] using falsy)]
    exact ⟨w₁, _, rfl, socket₁, others, outbox₁⟩
  · have unlisted := refused.resolve_left falsy
    rw [if_neg (by simpa [openingStation] using falsy), run_bind_ok (stationIdList_run w₁), config₁,
      if_pos (by simpa [openingStation] using unlisted)]
    exact ⟨w₁, _, rfl, socket₁, others, outbox₁⟩

/-- Opening a connection that has no locale yet, as every connection before it is first opened,
on a station that is missing or not configured fails on the refusal it cannot translate, and
nothing is sent. -/
theorem openOn_refused_without_locale (socket : w.store[hw]? = some (.socket s))
    (noLocale : s.get? "locale" = some .none) (args : List Value)
    (refused : (openingStation s args).truthy = false ∨
      (w.config.stationIds.any fun x => Value.equals x (openingStation s args)) = false) :
    ∃ w', (openOn (.ref hw) args).run w = .error (Fault.noAttribute "NoneType" "translate") w' ∧
      w'.outbox = w.outbox := by
  obtain ⟨w₁, key, opened, socket₁, -, outbox₁⟩ := openOn_refused socket args refused
  have locale₁ : (withStation s args).get? "locale" = some .none := by
    rw [withStation_locale, noLocale]
  rw [opened, EStateM.run_bind, refuseMessage_without_locale socket₁ locale₁]
  exact ⟨w₁, rfl, outbox₁⟩

/-- Opening a connection that has a locale on a station that is missing or not configured sends
the refusal, one message, and nothing else. -/
theorem openOn_refused_with_locale (socket : w.store[hw]? = some (.socket s)) {hl : Nat}
    {l : Locale} (localized : s.get? "locale" = some (.ref hl))
    (stored : w.store[hl]? = some (.locale l)) (args : List Value)
    (refused : (openingStation s args).truthy = false ∨
      (w.config.stationIds.any fun x => Value.equals x (openingStation s args)) = false) :
    ∃ w' v, (openOn (.ref hw) args).run w = .ok () w' ∧
      w'.outbox = { w.outbox with socketMessages := w.outbox.socketMessages.push v } := by
  obtain ⟨w₁, key, opened, socket₁, others, outbox₁⟩ := openOn_refused socket args refused
  have apart : hl ≠ hw := ne_of_socket socket stored fun _ same => by cases same
  obtain ⟨v, sent⟩ := refuseMessage_with_locale socket₁ (l := l)
    (by rw [withStation_locale, localized]) (by rw [others hl apart, stored]) key []
    (fun _ mem => absurd mem List.not_mem_nil)
  rw [opened, run_bind_ok sent]
  exact ⟨_, v, rfl, by rw [outbox₁]⟩

/-! ### Signing in -/

/-- The argument check only sends notices: once it has run, signing in follows, whatever it
found, and a failure to sign in closes the connection. -/
theorem authenticate_after_check {ws m : Value} {w w₁ : World}
    (checked : (checkAuthArguments ws m).run w = .ok () w₁) :
    (authenticate ws m).run w =
      match (signInConnection ws m).run w₁ with
      | .ok _ w₂ => .ok () w₂
      | .error _ w₂ => close.run w₂ := by
  simp only [authenticate, EStateM.run_bind, attempt_run, run_bind_ok checked]
  cases (signInConnection ws m).run w₁ <;> rfl

/-- A listener given as something other than a number, with a key, earns one notice, and the
check passes on. -/
theorem checkAuthArguments_unnumbered (socket : w.store[hw]? = some (.socket s)) {hl : Nat}
    {l : Locale} (localized : s.get? "locale" = some (.ref hl))
    (storedLocale : w.store[hl]? = some (.locale l)) {hm : Nat} {d : Dict}
    (stored : w.store[hm]? = some (.message d)) {u k : Value}
    (user : Dict.lookup? d (.str "user_id") = some u) (named : u.truthy = true)
    (unnumbered : Fields.isNumber u = false) (keyed : Dict.lookup? d (.str "key") = some k)
    (given : k.truthy = true) :
    ∃ v, (checkAuthArguments (.ref hw) (.ref hm)).run w =
      .ok () { w with outbox := { w.outbox with
        socketMessages := w.outbox.socketMessages.push v } } := by
  have hasUser : Dict.hasKey d (.str "user_id") = true := by simp [Dict.hasKey, user]
  have hasKey : Dict.hasKey d (.str "key") = true := by simp [Dict.hasKey, keyed]
  obtain ⟨v, sent⟩ := refuseMessage_with_locale socket localized storedLocale "invalid_argument"
    [("argument", .str "user_id")] (by simp)
  -- the notice only adds to the outbox, so the message reads the same after it
  have stored' : ({ w with outbox := { w.outbox with
      socketMessages := w.outbox.socketMessages.push v } } : World).store[hm]? =
      some (.message d) := stored
  unfold checkAuthArguments
  rw [run_bind_ok (hasEntry_message_run stored "user_id")]
  dsimp only
  rw [if_neg (by simp [hasUser]), run_bind_ok (entry_message_run stored user),
    if_neg (by simp [named]), run_bind_ok (entry_message_run stored user),
    if_pos (by simp [unnumbered]), run_bind_ok sent,
    run_bind_ok (hasEntry_message_run stored' "key"),
    if_neg (by simp [hasKey]), run_bind_ok (entry_message_run stored' keyed),
    if_neg (by simp [given])]
  exact ⟨v, rfl⟩

/-! ### Both together -/

/-- Opening a connection that has no locale yet on a station that is missing or not configured
fails, sending nothing; with a locale it sends the one refusal. Signing in runs after the check of
the listener and key whatever the check found, and a failure to sign in closes the connection. A
listener given as something other than a number, with a key, earns one notice and passes the
check. -/
theorem openRefusal_and_authNotices (w : World) (hw : Nat) (s : Socket) (args : List Value) :
    (w.store[hw]? = some (.socket s) → s.get? "locale" = some .none →
      ((openingStation s args).truthy = false ∨
        (w.config.stationIds.any fun x => Value.equals x (openingStation s args)) = false) →
      ∃ w', (openOn (.ref hw) args).run w =
          .error (Fault.noAttribute "NoneType" "translate") w' ∧
        w'.outbox = w.outbox) ∧
    (∀ (hl : Nat) (l : Locale),
      w.store[hw]? = some (.socket s) → s.get? "locale" = some (.ref hl) →
      w.store[hl]? = some (.locale l) →
      ((openingStation s args).truthy = false ∨
        (w.config.stationIds.any fun x => Value.equals x (openingStation s args)) = false) →
      ∃ w' v, (openOn (.ref hw) args).run w = .ok () w' ∧
        w'.outbox = { w.outbox with socketMessages := w.outbox.socketMessages.push v }) ∧
    (∀ (ws m : Value) (w₁ : World), (checkAuthArguments ws m).run w = .ok () w₁ →
      (authenticate ws m).run w =
        match (signInConnection ws m).run w₁ with
        | .ok _ w₂ => .ok () w₂
        | .error _ w₂ => close.run w₂) ∧
    (∀ (hl : Nat) (l : Locale) (hm : Nat) (d : Dict) (u k : Value),
      w.store[hw]? = some (.socket s) → s.get? "locale" = some (.ref hl) →
      w.store[hl]? = some (.locale l) → w.store[hm]? = some (.message d) →
      Dict.lookup? d (.str "user_id") = some u → u.truthy = true → Fields.isNumber u = false →
      Dict.lookup? d (.str "key") = some k → k.truthy = true →
      ∃ v, (checkAuthArguments (.ref hw) (.ref hm)).run w = .ok () { w with outbox :=
        { w.outbox with socketMessages := w.outbox.socketMessages.push v } }) :=
  ⟨fun socket noLocale refused => openOn_refused_without_locale socket noLocale args refused,
    fun _ _ socket localized stored refused =>
      openOn_refused_with_locale socket localized stored args refused,
    fun _ _ _ checked => authenticate_after_check checked,
    fun _ _ _ _ _ _ socket localized storedLocale stored user named unnumbered keyed given =>
      checkAuthArguments_unnumbered socket localized storedLocale stored user named unnumbered
        keyed given⟩

/-- A connection as it is made, before it is opened. -/
def unopened : World := { store := #[.socket {}] }

/-- Opened on station `0`, a connection that was just made fails to refuse it. -/
theorem unopened_refusal_fails :
    ∃ w', (openOn (.ref 0) [.str "0"]).run unopened =
      .error (Fault.noAttribute "NoneType" "translate") w' ∧ w'.outbox = unopened.outbox :=
  (openRefusal_and_authNotices unopened 0 {} [.str "0"]).1 rfl rfl (.inl (by decide))

/-- A connection under 0 with a locale under 1, and a sign-in message under 2 that names the
listener as the text `"2"` and gives a key. -/
def localized : World :=
  { store := #[.socket { fields := [("locale", .ref 1)] },
      .locale { code := .str "en_CA", dict := [], missing := [] },
      .message (Dict.ofStrings [("user_id", .str "2"), ("key", .str "K")])] }

/-- With a locale, opening on station `0` sends one refusal and returns; the listener given as
text earns one notice from the check, and signing in then goes on from the world the check left. -/
theorem localized_refusal_and_notice :
    (∃ w' v, (openOn (.ref 0) [.str "0"]).run localized = .ok () w' ∧
      w'.outbox = { localized.outbox with socketMessages := localized.outbox.socketMessages.push v }) ∧
    ∃ v, (checkAuthArguments (.ref 0) (.ref 2)).run localized =
        .ok () { localized with outbox :=
          { localized.outbox with socketMessages := localized.outbox.socketMessages.push v } } ∧
      (authenticate (.ref 0) (.ref 2)).run localized =
        match (signInConnection (.ref 0) (.ref 2)).run { localized with outbox :=
            { localized.outbox with socketMessages := localized.outbox.socketMessages.push v } } with
        | .ok _ w₂ => .ok () w₂
        | .error _ w₂ => close.run w₂ := by
  obtain ⟨_, refused, after, noticed⟩ :=
    openRefusal_and_authNotices localized 0 { fields := [("locale", .ref 1)] } [.str "0"]
  obtain ⟨v, checked⟩ := noticed 1 _ 2 _ (.str "2") (.str "K") rfl rfl rfl rfl rfl rfl rfl rfl rfl
  exact ⟨refused 1 _ rfl rfl rfl (.inl (by decide)), v, checked, after _ _ _ checked⟩

end Airwaves.Live