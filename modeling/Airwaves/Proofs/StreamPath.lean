import Airwaves.Proofs.SignIn
import Mathlib.Data.List.TakeWhile
/-!
# The stream path round trip

A listener's stream path reads back as the mount, the id and the key the listener held when the
path was made.
-/

namespace Airwaves.Unicode

/-- Reading the digits of a whole number back gives the number. -/
theorem foldl_toDigits (n : Nat) :
    (Nat.toDigits 10 n).foldl (fun acc c => acc * 10 + ((c.toNat - 48 : Nat) : Int)) 0 = n := by
  induction n using Nat.strong_induction_on with
  | _ n ih =>
    by_cases small : n < 10
    · rw [Nat.toDigits_of_lt_base small]
      simp [Nat.toNat_digitChar_of_lt_ten small]
    · -- the last digit comes after the digits of the number's tenth
      have last : n % 10 < 10 := Nat.mod_lt _ (by decide)
      have split := @Nat.toDigits_append_toDigits 10 (n / 10) (n % 10) (by decide) (by omega) last
      rw [Nat.div_add_mod] at split
      rw [← split, List.foldl_append, ih (n / 10) (by omega), Nat.toDigits_of_lt_base last]
      simp [Nat.toNat_digitChar_of_lt_ten last]
      omega

theorem dropUnderscores_of_no_underscore : ∀ (prev : Char) (cs : List Char), '_' ∉ cs →
    dropUnderscores prev cs = some cs
  | _, [] => fun _ => rfl
  | prev, c :: rest => by
    intro none_in
    have c_ne : c ≠ '_' := fun h => none_in (h ▸ List.mem_cons_self)
    have rest_ok := dropUnderscores_of_no_underscore c rest (fun h => none_in (List.mem_cons_of_mem _ h))
    rw [dropUnderscores.eq_4 prev c rest c_ne, rest_ok]
    rfl

theorem digit_bounds {c : Char} (digit : c.isDigit = true) : 48 ≤ c.toNat ∧ c.toNat ≤ 57 := by
  simp only [Char.isDigit, Bool.and_eq_true, decide_eq_true_eq] at digit
  have ge0 := UInt32.le_iff_toNat_le.mp digit.1
  have le9 := UInt32.le_iff_toNat_le.mp digit.2
  have zero : ('0' : Char).val.toNat = 48 := rfl
  have nine : ('9' : Char).val.toNat = 57 := rfl
  exact ⟨by simp only [Char.toNat]; omega, by simp only [Char.toNat]; omega⟩

theorem not_space_of_digit {c : Char} (digit : c.isDigit = true) : isAsciiSpace c = false := by
  have bounds := digit_bounds digit
  have not_blank : c ≠ ' ' := fun h => by subst h; simp at bounds
  simp [isAsciiSpace, not_blank]
  omega

theorem dropWhile_space_digits {ds : List Char} (digits : ∀ c ∈ ds, c.isDigit = true) :
    ds.dropWhile isAsciiSpace = ds := by
  cases ds with
  | nil => rfl
  | cons c rest => simp [not_space_of_digit (digits c List.mem_cons_self)]

theorem numeralChars?_digits {ds : List Char} (digits : ∀ c ∈ ds, c.isDigit = true) :
    numeralChars? (String.ofList ds) = some ds := by
  have ascii : ∀ c ∈ ds, c.toNat < 127 := fun c mem => by
    have := digit_bounds (digits c mem)
    omega
  have kept : ds.mapM (fun c => if c.toNat < 127 then some c else if isSpace c then some ' '
      else (decimalValue? c).map fun d => Char.ofNat (48 + d)) = some ds := by
    induction ds with
    | nil => rfl
    | cons c rest ih =>
      simp [ascii c List.mem_cons_self,
        ih (fun c' m => digits c' (List.mem_cons_of_mem _ m)) (fun c' m => ascii c' (List.mem_cons_of_mem _ m))]
  have reversed : ∀ c ∈ ds.reverse, c.isDigit = true := fun c mem => digits c (List.mem_reverse.mp mem)
  simp only [numeralChars?, String.toList_ofList, kept, Option.bind_eq_bind, Option.bind_some,
    dropWhile_space_digits digits, dropWhile_space_digits reversed, List.reverse_reverse]
  rfl

/-- The decimal text of a whole number that is not negative. -/
theorem toString_natCast (n : Nat) : toString (n : Int) = String.ofList (Nat.toDigits 10 n) := rfl

/-- The text of a whole number that is not negative reads back as the number. -/
theorem readInt?_toString (n : Nat) : readInt? (toString (n : Int)) = some (n : Int) := by
  have digits : ∀ c ∈ Nat.toDigits 10 n, c.isDigit = true := fun c mem =>
    Nat.isDigit_of_mem_toDigits (by decide) (by decide) mem
  obtain ⟨c, rest, split⟩ : ∃ c rest, Nat.toDigits 10 n = c :: rest :=
    List.exists_cons_of_ne_nil Nat.toDigits_ne_nil
  have c_digit := digits c (split ▸ List.mem_cons_self)
  have no_underscore : '_' ∉ Nat.toDigits 10 n := fun mem => absurd (digits _ mem) (by decide)
  have not_minus : c ≠ '-' := fun h => absurd (h ▸ c_digit) (by decide)
  have not_plus : c ≠ '+' := fun h => absurd (h ▸ c_digit) (by decide)
  unfold readInt?
  rw [toString_natCast, numeralChars?_digits digits]
  simp only [Option.bind_eq_bind, Option.bind_some]
  rw [split] at no_underscore digits ⊢
  -- a digit first is no sign
  split
  · rename_i r same
    exact absurd (List.cons.inj same).1 not_minus
  · rename_i r same
    exact absurd (List.cons.inj same).1 not_plus
  · have allDigits : (c :: rest).all Char.isDigit = true := List.all_eq_true.mpr digits
    have value := foldl_toDigits n
    rw [split] at value
    simp only [dropUnderscores_of_no_underscore ' ' _ no_underscore, Option.bind_some, List.isEmpty_cons,
      allDigits, Bool.not_true, Bool.or_false, Bool.false_eq_true, ite_false, value]
    rfl

end Airwaves.Unicode

namespace Airwaves.Fields

theorem isDigit_eq_char_isDigit (c : Char) : isDigit c = c.isDigit := by
  simp [isDigit, Char.isDigit, Char.le_def]

/-- A mount name: at least one character, each a word character, a dash or a dot. -/
def MountName (cs : List Char) : Prop := cs ≠ [] ∧ ∀ c ∈ cs, (isWord c || c == '-' || c == '.') = true

/-- A listen key as the mount pattern reads it: at least one word character. -/
def KeyWord (cs : List Char) : Prop := cs ≠ [] ∧ ∀ c ∈ cs, isWord c = true

instance : DecidablePred MountName := fun cs =>
  decidable_of_iff ((!cs.isEmpty && cs.all fun c => isWord c || c == '-' || c == '.') = true)
    (by simp [MountName, List.all_eq_true])

instance : DecidablePred KeyWord := fun cs =>
  decidable_of_iff ((!cs.isEmpty && cs.all isWord) = true) (by simp [KeyWord, List.all_eq_true])

theorem icecastMount_tagged {mount ds key : List Char} (hm : MountName mount)
    (hds : ds ≠ [] ∧ ∀ c ∈ ds, isDigit c = true) (hk : KeyWord key) :
    icecastMount (.str (String.ofList ('/' :: (mount ++ '?' :: (ds ++ ':' :: key))))) =
      .ok (.tuple [.str (String.ofList mount), .int ((Value.parseInt? (String.ofList ds)).getD 0),
        .str (String.ofList key)]) := by
  have mountStops : List.takeWhile (fun c => isWord c || c == '-' || c == '.') ('?' :: (ds ++ ':' :: key)) = [] :=
    List.takeWhile_cons_of_neg (by decide)
  have digitsStop : List.takeWhile isDigit (ds ++ ':' :: key) = ds := by
    rw [List.takeWhile_append_of_pos hds.2, List.takeWhile_cons_of_neg (by decide), List.append_nil]
  have keyEnds : List.takeWhile isWord key = key := List.takeWhile_eq_self_iff.mpr hk.2
  unfold icecastMount
  simp [Value.truthy, String.toList_ofList, List.takeWhile_append_of_pos hm.2, mountStops, digitsStop, keyEnds, hm.1, hds.1, hk.1]


theorem icecastMount_plain {mount : List Char} (hm : MountName mount) :
    icecastMount (.str (String.ofList ('/' :: mount))) = .ok (.tuple [.str (String.ofList mount), .int 1, .none]) := by
  unfold icecastMount
  simp [Value.truthy, String.toList_ofList, List.takeWhile_eq_self_iff.mpr hm.2, hm.1]

theorem icecastMount_stream {mount key : String} (id : Nat) (hm : MountName mount.toList)
    (hk : KeyWord key.toList) :
    icecastMount (.str ("/" ++ mount ++ "?" ++ toString (id : Int) ++ ":" ++ key)) =
      .ok (.tuple [.str mount, .int id, .str key]) := by
  have digits : ∀ c ∈ Nat.toDigits 10 id, isDigit c = true := fun c mem => by
    rw [isDigit_eq_char_isDigit]
    exact Nat.isDigit_of_mem_toDigits (by decide) (by decide) mem
  have text : "/" ++ mount ++ "?" ++ toString (id : Int) ++ ":" ++ key =
      String.ofList ('/' :: (mount.toList ++ '?' :: (Nat.toDigits 10 id ++ ':' :: key.toList))) := by
    rw [Unicode.toString_natCast]
    apply String.toList_inj.mp
    simp
  rw [text, icecastMount_tagged hm ⟨Nat.toDigits_ne_nil, digits⟩ hk, Value.parseInt?, ← Unicode.toString_natCast,
    Unicode.readInt?_toString]
  simp

theorem mountName_format {name format : String} (mount : MountName name.toList)
    (formats : format = "mp3" ∨ format = "ogg") : MountName (name ++ "." ++ format).toList := by
  refine ⟨by simp, fun c mem => ?_⟩
  simp only [String.toList_append, List.mem_append] at mem
  rcases mem with (inName | inDot) | inFormat
  · exact mount.2 c inName
  · rw [show ".".toList = ['.'] from rfl, List.mem_singleton] at inDot
    subst inDot
    decide
  · rcases formats with rfl | rfl <;> simp at inFormat <;> rcases inFormat with rfl | rfl | rfl <;> decide

theorem icecastMount_mount {mount : String} (hm : MountName mount.toList) :
    icecastMount (.str ("/" ++ mount)) = .ok (.tuple [.str mount, .int 1, .none]) := by
  have text : "/" ++ mount = String.ofList ('/' :: mount.toList) := by
    apply String.toList_inj.mp
    simp
  rw [text, icecastMount_plain hm, String.ofList_toList]

end Airwaves.Fields

namespace Airwaves.Api.Now

open Listeners

theorem display_int (n : Int) : (Value.int n).display = toString n := rfl

theorem display_str (s : String) : (Value.str s).display = s := rfl

theorem anonymous_user_run {w : World} {h : Nat} {u : User} {k : Int} (stored : w.store[h]? = some (.user u))
    (id : u.id = .int k) : (anonymous (.ref h)).run w = .ok (decide (k ≤ 1)) w := by
  simp [anonymous, someUser, run_map, Api.Ratings.listener_run stored, isAnonymous, isAtMost, id,
    Value.lessEq_int]

/-- The stream path of a registered listener carries the id and the listen key after a
question mark. -/
theorem streamFilename_registered {w : World} {sid : Value} {name format : String} {h : Nat} {u : User}
    {k : Int} {x : Value} (file : (Config.stationGet sid "stream_filename").run w = .ok (.str name) w)
    (stored : w.store[h]? = some (.user u)) (id : u.id = .int k) (registered : 1 < k)
    (listenKey : Dict.field? u.data "listen_key" = some x) :
    (streamFilename sid format (.ref h)).run w =
      .ok (name ++ "." ++ format ++ "?" ++ toString k ++ ":" ++ x.display) w := by
  have known : decide (k ≤ 1) = false := decide_eq_false (by omega)
  simp [streamFilename, run_map, file, anonymous_user_run stored id, known,
    Api.Ratings.listener_run stored, Api.Ratings.dataOf_run w listenKey, id, display_int, display_str]

/-- The stream path of an anonymous listener is the mount alone. -/
theorem streamFilename_anonymous {w : World} {sid user : Value} {name format : String}
    (file : (Config.stationGet sid "stream_filename").run w = .ok (.str name) w)
    (anon : user = .none ∨ ∃ h u k, user = .ref h ∧ w.store[h]? = some (.user u) ∧ u.id = .int k ∧ k ≤ 1) :
    (streamFilename sid format user).run w = .ok (name ++ "." ++ format) w := by
  rcases anon with rfl | ⟨h, u, k, rfl, stored, id, atMost⟩
  · simp [streamFilename, run_map, file, display_str]
  · simp [streamFilename, file, anonymous_user_run stored id, atMost, display_str]

open Fields in
/-- Tuning in: the stream path of a station for a listener whose key was just accepted reads
back through the mount pattern as the station's mount, the listener's id and the listen key
stored for the listener before signing in. A listener with no stored key gets a fresh key of ten
characters written to the database, while the path carries the unset key (`None`). The path of
an anonymous listener reads back as the mount with user one and no key. -/
theorem streamPath_reads_back {sid : Value} {name format : String}
    (mount : MountName name.toList) (formats : format = "mp3" ∨ format = "ogg")
    {w w' : World} {h : Nat} {u : User} {k : Int} {key : Value} {bypass : Bool}
    {row : Dict} {later : List Value} {stored : Value}
    (file : (Config.stationGet sid "stream_filename").run w = .ok (.str name) w)
    (listener : w.store[h]? = some (.user u)) (id : u.id = .int k) (registered : 1 < k)
    (signedOut : u.authorized.truthy = false)
    (rows : w.db.queues.row = .dict row :: later) (distinct : row.Pairwise fun a b => a.1 ≠ b.1)
    (holds : Dict.field? row "listen_key" = some stored)
    (keyText : stored = .none ∨ ∃ s, stored = .str s ∧ KeyWord s.toList)
    (run : (authorize (.ref h) key bypass).run w = .ok () w')
    (signedIn : (userIn w'.store h).any (fun u => u.authorized.truthy) = true) :
    (∃ path, (streamFilename sid format (.ref h)).run w' = .ok path w' ∧
      icecastMount (.str ("/" ++ path)) =
        .ok (.tuple [.str (name ++ "." ++ format), .int k, .str stored.display])) ∧
    (stored = .none → ∃ fresh : String, fresh.length = 10 ∧
      w'.db.log.back? = some (.list [.str "update", .list [.str fresh, .int k]])) ∧
    (∀ w user, (Config.stationGet sid "stream_filename").run w = .ok (.str name) w →
      (user = .none ∨ ∃ h u k, user = .ref h ∧ w.store[h]? = some (.user u) ∧ u.id = .int k ∧ k ≤ 1) →
      ∃ path, (streamFilename sid format user).run w = .ok path w ∧
        icecastMount (.str ("/" ++ path)) = .ok (.tuple [.str (name ++ "." ++ format), .int 1, .none])) := by
  have mountOk := mountName_format mount formats
  -- the key check either refused the key, leaving the user signed out, or signed the user in
  rcases authorize_checked listener id registered run with refused | ⟨w1, same, signInRun⟩
  · have parts := congrArg (fun v => v.2.2) refused
    simp only [userView, userIn_of_store listener, Option.map_some, Option.map_eq_some_iff] at parts
    obtain ⟨u', found, sameParts⟩ := parts
    simp only [signInPart, Prod.mk.injEq] at sameParts
    simp [found, sameParts.2, signedOut] at signedIn
  -- the world the user was signed in from has the same configuration, rows and user
  have config1 : w1.config = w.config := congrArg Prod.fst same
  have rows1 : w1.db.queues.row = .dict row :: later := (congrArg (fun v => v.2.1) same).trans rows
  obtain ⟨u1, listener1, id1⟩ : ∃ u1, w1.store[h]? = some (.user u1) ∧ u1.id = .int k := by
    have parts := congrArg (fun v => v.2.2) same
    simp only [userView, userIn_of_store listener, Option.map_some, Option.map_eq_some_iff] at parts
    obtain ⟨u1, found, sameParts⟩ := parts
    simp only [signInPart, Prod.mk.injEq] at sameParts
    exact ⟨u1, userIn_eq_some.mp found, sameParts.1.trans id⟩
  -- signing in merged the stored row, and the listen key and id stayed as merged
  have keyView := signIn_keyView listener1 rows1 signInRun
  rw [Dict.field?_merge_row distinct holds] at keyView
  obtain ⟨u', found', sameKey⟩ : ∃ u', userIn w'.store h = some u' ∧ keyPart u' = (u1.id, some stored) := by
    have parts := congrArg (fun v => v.2.2) keyView
    simpa only [userView, Option.map_eq_some_iff] using parts
  simp only [keyPart, Prod.mk.injEq] at sameKey
  obtain ⟨id', listenKey'⟩ := sameKey
  have file' := stationGet_run_transfer file ((congrArg Prod.fst keyView).trans config1)
  refine ⟨⟨_, streamFilename_registered file' (userIn_eq_some.mp found') (id'.trans id1) registered
    listenKey', ?_⟩, ?_, ?_⟩
  · -- the path reads back: mount, id and key each stop where the next separator starts
    obtain ⟨n, rfl⟩ : ∃ n : Nat, k = n := ⟨k.toNat, (Int.toNat_of_nonneg (by omega)).symm⟩
    have keyWord : KeyWord stored.display.toList := by
      rcases keyText with rfl | ⟨s, rfl, word⟩
      · decide
      · exact word
    have text : "/" ++ (name ++ "." ++ format ++ "?" ++ toString (n : Int) ++ ":" ++ stored.display) =
        "/" ++ (name ++ "." ++ format) ++ "?" ++ toString (n : Int) ++ ":" ++ stored.display := by
      simp only [String.append_assoc]
    rw [text, icecastMount_stream n mountOk keyWord]
  · intro unset
    have written := signIn_leaves h key w1 () w' signInRun u' stored found' listenKey' (by rw [unset]; rfl)
    rwa [id'.trans id1] at written
  · intro w user file anon
    exact ⟨_, streamFilename_anonymous file anon, icecastMount_mount mountOk⟩

/-- The database row of a listener who never had a listen key. -/
def unkeyedRow : Dict := Dict.ofStrings [("_avatar_type", .str "avatar.driver.upload"),
  ("avatar", .str "2_1.png"), ("_group_id", .int 2), ("_total_ratings", .int 10), ("listen_key", .none),
  ("name", .str "Someone")]

/-- A station whose stream file is `game`, and listener 2 about to sign in. -/
def tuneInStation : World :=
  { config := { opts := [(.str "stations", .dict [(.int 1, .dict [(.str "stream_filename", .str "game")])]),
      (.str "rating_allow_all_threshold", .int 1000)] }
    store := #[.user { id := .int 2 }]
    db := { queues := { row := [.dict unkeyedRow] } }
    rng := { words := #[], index := 0 } }

/-- The station once listener 2 is signed in. -/
def signedInStation : World := worldAfter (authorize (.ref 0) (.str "k") true) tuneInStation

/-- A listener without a stored key tunes in with the key `None`, while the key written to the
database is another. -/
theorem unkeyed_listener_tunes_in_with_none :
    (∃ path, (streamFilename (.int 1) "mp3" (.ref 0)).run signedInStation = .ok path signedInStation ∧
      Fields.icecastMount (.str ("/" ++ path)) = .ok (.tuple [.str "game.mp3", .int 2, .str "None"])) ∧
    ∃ fresh : String, fresh.length = 10 ∧
      signedInStation.db.log.back? = some (.list [.str "update", .list [.str fresh, .int 2]]) := by
  obtain ⟨read, written, -⟩ := @streamPath_reads_back (.int 1) "game" "mp3" (by decide) (.inl rfl)
    tuneInStation signedInStation 0 { id := .int 2 } 2 (.str "k") true unkeyedRow [] .none
    rfl rfl rfl (by decide) rfl rfl (by simp [unkeyedRow, Dict.ofStrings]) rfl (.inl rfl)
    (run_eq_ok_of_succeeds (by decide +kernel)) (by decide +kernel)
  exact ⟨read, written rfl⟩

end Airwaves.Api.Now
