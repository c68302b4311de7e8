import Airwaves.Proofs.RequestAllowance
import Airwaves.Proofs.LoadFrame
import Airwaves.Proofs.ArtistOrder
/-!
# Checking a request before it is stored

A request is refused for a full allowance, then by the first stored request of the same song or,
without perks, of the same album; an accepted one is stored with one insert.
-/

namespace Airwaves

/-! ### Loading a song leaves the users alone -/

/-- The user under a handle, when there is one, stays as it was. -/
def UserKept (h : Nat) (u : User) (w w' : World) : Prop :=
  w.store[h]? = some (.user u) → w'.store[h]? = some (.user u)

theorem userKept_loaderFrame (h : Nat) (u : User) : LoaderFrame (UserKept h u) where
  trans first second kept := second (first kept)
  same same kept := by rw [same]; exact kept
  push o pushed kept := by rw [pushed]; exact getElem?_push_of_some kept o
  rewrite m' stored rewritten kept := by
    -- what is rewritten holds an album, artist or group, so it is not the user
    rw [rewritten, getElem?_set!_of_ne _ (fun same => by rw [same, kept] at stored; cases stored)]
    exact kept

namespace Songs

variable {h : Nat} {u : User}

theorem changeSong_keepsUser (m : Nat) (f : Song → Song) : Guards (UserKept h u) (changeSong (.ref m) f) :=
  changeSong_guards (userKept_loaderFrame h u).toFrame fun _ _ song kept => by
    rw [getElem?_set!_of_ne _ (fun same => by rw [same, kept] at song; cases song)]
    exact kept

theorem fresh_keepsUser : Guards (UserKept h u) fresh := fun w =>
  ⟨fun _ _ run => by rw [fresh_run] at run; cases run; exact (userKept_loaderFrame h u).push _ rfl,
    fun _ _ run => by rw [fresh_run] at run; cases run⟩

/-- Whatever its outcome, loading a song leaves every user as it was. -/
theorem loadFromId_keepsUser (h : Nat) (u : User) (songId sid : Value) :
    Guards (UserKept h u) (loadFromId songId sid) := by
  have L := userKept_loaderFrame h u
  unfold loadFromId
  refine Guards.bind L.toFrame (findRow_guards L.toFrame _ _) fun p => ?_
  dsimp only
  split
  · exact Guards.raise_bind L.toFrame _ _
  · refine Guards.bind_of_run L.toFrame fresh_keepsUser fun w v w1 allocated => ?_
    rw [fresh_run] at allocated
    cases allocated
    -- from the allocation on, only the new song is rewritten
    refine Guards.bind L.toFrame (changeSong_keepsUser _ _) (fun _ => Guards.bind L.toFrame
      (Guards.attempt L.toFrame (fill_guards L (fun f _ => changeSong_keepsUser _ f) _ _ _)) fun filled => ?_) _
    split
    · exact Guards.pure L.toFrame _
    · exact Guards.bind L.toFrame (disable_guards L.toFrame _) fun _ => Guards.raise L.toFrame _

end Songs

namespace Listeners

/-! ### The stored requests -/

/-- A stored request as the database lists it for the listener: the song and its album. -/
structure StoredRequest where
  songId : Value
  albumId : Value

/-- The row the database gives for a stored request. -/
def StoredRequest.row (r : StoredRequest) : Value :=
  .dict (Dict.ofStrings [("song_id", r.songId), ("album_id", r.albumId)])

/-- The refusal a request for a song meets, checking the stored requests in the order given: the
first that names the song refuses it as a repeat, and, without perks, the first on the song's
album refuses it as from the same album. -/
def verdict (songId albumId : Value) (perks : Bool) : List StoredRequest → Option String
  | [] => none
  | r :: rs =>
    if Value.equals songId r.songId then some "same_request_exists"
    else if !perks && Value.equals albumId r.albumId then some "same_request_album"
    else verdict songId albumId perks rs

theorem verdict_cons (songId albumId : Value) (perks : Bool) (r : StoredRequest) (rs : List StoredRequest) :
    verdict songId albumId perks (r :: rs) = (verdict songId albumId perks [r]).or (verdict songId albumId perks rs) := by
  simp only [verdict]
  split
  · rfl
  · split <;> rfl

example : verdict (.int 5) (.int 9) false [⟨.int 4, .int 9⟩, ⟨.int 5, .int 2⟩] = some "same_request_album" := by
  decide

example : verdict (.int 5) (.int 9) true [⟨.int 4, .int 9⟩, ⟨.int 5, .int 2⟩] = some "same_request_exists" := by
  decide

/-- The id of a song's first album, as the store holds it. -/
def firstAlbumId (store : Array Obj) (s : Song) : Option Value :=
  match s.albums with
  | .list (.ref a :: _) =>
    match store[a]? with
    | some (.metadata m) => some m.id
    | _ => none
  | _ => none

/-- The id of the first album of the song under a handle. -/
def firstAlbumAt (store : Array Obj) (k : Nat) : Option Value :=
  match store[k]? with
  | some (.song s) => firstAlbumId store s
  | _ => none

theorem firstAlbumId_eq_some {store : Array Obj} {s : Song} {albumId : Value}
    (first : firstAlbumId store s = some albumId) :
    ∃ a more m, s.albums = .list (.ref a :: more) ∧ store[a]? = some (.metadata m) ∧ m.id = albumId := by
  unfold firstAlbumId at first
  split at first
  · rename_i a more albums
    split at first
    · rename_i m stored
      cases first
      exact ⟨a, more, m, albums, stored, rfl⟩
    · cases first
  · cases first

/-! ### Checking the stored requests -/

section Checks

variable {w : World} {h : Nat} {u : User} {s : Song} {perks albumId : Value}
  (listener : w.store[h]? = some (.user u)) (hasPerks : Dict.field? u.data "perks" = some perks)
  (album : perks.truthy = false → firstAlbumId w.store s = some albumId)
include listener hasPerks album

/-- Checking one stored request refuses the request as `verdict` says, and reads only. -/
theorem checkStored_run (r : StoredRequest) :
    (checkStored (.ref h) s r.row).run w = match verdict s.id albumId perks.truthy [r] with
      | some key => .error (refusal key) w
      | none => .ok () w := by
  have songCol : (col r.row "song_id").run w = .ok r.songId w := col_dict_run rfl w
  have albumCol : (col r.row "album_id").run w = .ok r.albumId w := col_dict_run rfl w
  rw [checkStored, run_bind_ok songCol]
  dsimp only
  by_cases same : Value.equals s.id r.songId
  · -- the stored request names the song
    rw [if_pos same]
    simp [verdict, same]
  rw [if_neg same, run_bind_ok (Api.Ratings.listener_run listener), run_bind_ok (Api.Ratings.dataOf_run _ hasPerks)]
  by_cases rich : perks.truthy
  · -- with perks the album is not looked at
    simp [verdict, same, rich]
  -- without perks the first album of the song is compared with the stored request's
  obtain ⟨a, more, m, albums, stored, rfl⟩ := firstAlbumId_eq_some (album (by simpa using rich))
  have item : (itemOf s.albums (.int 0)).run w = .ok (.ref a) w := by
    rw [albums]
    simp [itemOf]
  rw [if_pos (by simp [rich]), run_bind_ok item, run_bind_ok (Catalog.metadataOf_run stored),
    run_bind_ok albumCol]
  by_cases sameAlbum : Value.equals m.id r.albumId <;> simp [verdict, same, rich, sameAlbum]

/-- The checks over the stored requests, in the order the database lists them, refuse the
request exactly as `verdict` says, and read only. -/
theorem forIn_checkStored (rows : List StoredRequest) :
    (forIn (rows.map StoredRequest.row) PUnit.unit fun requested _ => do
        checkStored (.ref h) s requested
        pure (ForInStep.yield PUnit.unit)).run w =
      match verdict s.id albumId perks.truthy rows with
      | some key => .error (refusal key) w
      | none => .ok PUnit.unit w := by
  induction rows with
  | nil => rfl
  | cons r rs ih =>
    rw [List.map_cons, List.forIn_cons, EStateM.run_bind, EStateM.run_bind,
      checkStored_run listener hasPerks album r, verdict_cons s.id albumId perks.truthy r rs]
    cases verdict s.id albumId perks.truthy [r] with
    | some key => rfl
    | none => exact ih

end Checks

theorem songOf_run {w : World} {k : Nat} {s : Song} (stored : w.store[k]? = some (.song s)) :
    (Songs.songOf (.ref k)).run w = .ok s w := by
  simp [Songs.songOf, songAt, deref, EStateM.run_bind, stored]

/-- A request by a registered listener for a song, on a world where the count of stored requests
is `n`, the song loads under `k` leaving `loaded`, and the stored requests are `rows`. Beyond
the allowance it is refused as too many. Otherwise the first stored request that names the song,
or without perks is on its first album, refuses it; a refused request writes nothing. An
accepted one is stored with one insert, and the listener then joins the station's request line
exactly when their station is the one asked about and they are tuned in. -/
theorem addRequest_checks {w loaded : World} {h k : Nat} {u : User} {uid n : Int}
    {perks albumId station tuned songId sid : Value} {rows : List StoredRequest}
    (listener : w.store[h]? = some (.user u)) (id : u.id = .int uid) (registered : 1 < uid)
    (hasPerks : Dict.field? u.data "perks" = some perks) (counted : w.db.varAnswer 0 = .int n)
    (loads : (Songs.loadFromId songId sid).run (w.afterCall .var [.int uid]) = .ok (.ref k) loaded)
    (album : perks.truthy = false → firstAlbumAt loaded.store k = some albumId)
    (listed : (loaded.db.call .all (some [.int uid]) "").1 = .list (rows.map StoredRequest.row))
    (onStation : Dict.field? u.data "sid" = some station) (tunedIn : Dict.field? u.data "tuned_in" = some tuned) :
    (addRequest (.ref h) sid songId).run w =
      if allowance perks ≤ n then .error (refusal "too_many_requests") (w.afterCall .var [.int uid])
      else match verdict songId albumId perks.truthy rows with
        | some key => .error (refusal key) (loaded.afterCall .all [.int uid])
        | none =>
          if Value.equals station sid && tuned.truthy then
            (do
              let _ ← joinLine (.ref h) sid
              pure ((loaded.afterCall .all [.int uid]).db.call .update (some [.int uid, songId, sid]) "").1).run
              ((loaded.afterCall .all [.int uid]).afterCall .update [.int uid, songId, sid])
          else .ok ((loaded.afterCall .all [.int uid]).db.call .update (some [.int uid, songId, sid]) "").1
            ((loaded.afterCall .all [.int uid]).afterCall .update [.int uid, songId, sid]) := by
  have room := requestRoom_run listener id registered hasPerks counted
  by_cases full : allowance perks ≤ n
  · rw [if_pos full] at room
    rw [if_pos full, addRequest, EStateM.run_bind, room]
  rw [if_neg full] at room
  rw [if_neg full, addRequest, run_bind_ok room, run_bind_ok loads]
  -- the song loads under a fresh handle with the id asked for, and the listener stays
  obtain ⟨fresh, s, song, named⟩ := Songs.loadFromId_fresh loads
  cases fresh
  have kept : loaded.store[h]? = some (.user u) :=
    (Songs.loadFromId_keepsUser h u songId sid _).1 _ _ loads listener
  have fetched : (fetchAll [.int uid]).run loaded =
      .ok (.list (rows.map StoredRequest.row)) (loaded.afterCall .all [.int uid]) := by
    rw [fetchAll, Cache.query_run, listed]
    rfl
  -- the checks read the world the listing of stored requests leaves, whose store is the same
  have sameStore : (loaded.afterCall .all [.int uid]).store = loaded.store := rfl
  have listed' : (loaded.afterCall .all [.int uid]).store[h]? = some (.user u) := by rw [sameStore, kept]
  have firstAlbum : perks.truthy = false →
      firstAlbumId (loaded.afterCall .all [.int uid]).store s = some albumId := fun plain => by
    rw [sameStore]
    simpa [firstAlbumAt, song] using album plain
  rw [run_bind_ok (songOf_run song), run_bind_ok (Api.Ratings.listener_run kept), id, run_bind_ok fetched,
    run_bind_ok (rfl : (itemsOf (.list (rows.map StoredRequest.row))).run _ = _), EStateM.run_bind,
    forIn_checkStored listed' hasPerks firstAlbum rows, named]
  cases verdict songId albumId perks.truthy rows with
  | some key => rfl
  | none =>
    -- one insert, then the line is joined only from the listener's own station while tuned in
    dsimp only
    rw [run_bind_ok (dbUpdate_run _ _),
      run_bind_ok (Api.Ratings.listener_run (w := (loaded.afterCall .all [.int uid]).afterCall .update _) kept),
      run_bind_ok (Api.Ratings.dataOf_run _ onStation)]
    by_cases here : Value.equals station sid
    · rw [if_pos here, run_bind_ok (Api.Ratings.dataOf_run _ tunedIn)]
      by_cases tuning : tuned.truthy
      · simp only [here, tuning, Bool.and_self, if_true]
      · simp [here, tuning]
    · simp [here]

/-! ### Reading runs on a given world

The worlds a witness runs on are evaluated by the kernel, through checks that give a `Bool`. -/

/-- The world an action ends in, whether it returns or fails. -/
def endOf {α : Type} (x : Act α) (w : World) : World :=
  match x.run w with
  | .ok _ w' => w'
  | .error _ w' => w'

/-- Whether an action returns a reference to a given handle. -/
def returnsRef (x : Act Value) (w : World) (k : Nat) : Bool :=
  match x.run w with
  | .ok (.ref k') _ => k' == k
  | _ => false

theorem run_eq_of_returnsRef {x : Act Value} {w : World} {k : Nat} (returned : returnsRef x w k = true) :
    x.run w = .ok (.ref k) (endOf x w) := by
  unfold returnsRef at returned
  unfold endOf
  split at returned
  · rename_i ran
    rw [beq_iff_eq.mp returned] at ran
    rw [ran]
  · cases returned

/-- Whether an optional value is a given whole number. -/
def isSomeInt (o : Option Value) (j : Int) : Bool :=
  match o with
  | some (.int i) => i == j
  | _ => false

theorem eq_of_isSomeInt {o : Option Value} {j : Int} (same : isSomeInt o j = true) : o = some (.int j) := by
  unfold isSomeInt at same
  split at same
  · rw [beq_iff_eq.mp same]
  · cases same

/-- Whether an optional value is a given text. -/
def isSomeStr (o : Option Value) (t : String) : Bool :=
  match o with
  | some (.str s) => s == t
  | _ => false

theorem eq_of_isSomeStr {o : Option Value} {t : String} (same : isSomeStr o t = true) :
    o = some (.str t) := by
  unfold isSomeStr at same
  split at same
  · rw [beq_iff_eq.mp same]
  · cases same

/-- Whether values are the rows of stored requests for the songs and albums given by whole
numbers, in that order. -/
def rowsOfIds : List Value → List (Int × Int) → Bool
  | [], [] => true
  | .dict [(.str "song_id", .int s), (.str "album_id", .int a)] :: more, (s', a') :: rest =>
    s == s' && a == a' && rowsOfIds more rest
  | _, _ => false

/-- The stored requests for the songs and albums given by whole numbers. -/
def storedIds (ids : List (Int × Int)) : List StoredRequest := ids.map fun p => ⟨.int p.1, .int p.2⟩

theorem eq_of_rowsOfIds {vs : List Value} {ids : List (Int × Int)} (same : rowsOfIds vs ids = true) :
    vs = (storedIds ids).map StoredRequest.row := by
  induction vs, ids using rowsOfIds.induct with
  | case1 => rfl
  | case2 s a more s' a' rest ih =>
    simp only [rowsOfIds, Bool.and_eq_true, beq_iff_eq] at same
    obtain ⟨⟨rfl, rfl⟩, rest⟩ := same
    simp [storedIds, ih rest, StoredRequest.row, Dict.ofStrings]
  | case3 => simp_all [rowsOfIds]

/-- Whether a value is the listing of stored requests for the songs and albums given by whole
numbers. -/
def isListing (v : Value) (ids : List (Int × Int)) : Bool :=
  match v with
  | .list vs => rowsOfIds vs ids
  | _ => false

theorem eq_of_isListing {v : Value} {ids : List (Int × Int)} (same : isListing v ids = true) :
    v = .list ((storedIds ids).map StoredRequest.row) := by
  unfold isListing at same
  split at same
  · rw [eq_of_rowsOfIds same]
  · cases same

/-- A listener without perks, tuned in to station 1. -/
def plainListener : User :=
  { id := .int 2, data := Dict.ofStrings [("perks", .bool false), ("sid", .int 1), ("tuned_in", .bool true)] }

/-- The listener under 0 with no stored requests; song 5 of album 9 loads from its row and its
album's row, with no artists or groups. -/
def roomForSong : World where
  config := { opts := Dict.ofStrings [("album_art_file_path", .str "")] }
  store := #[.user plainListener]
  db := { queues :=
    { var := [.int 0]
      row := [.dict (Dict.ofStrings [("song_filename", .str "a.mp3"), ("song_verified", .bool true),
          ("song_replay_gain", .int 0), ("album_id", .int 9)]),
        .dict (Dict.ofStrings [("album_id", .int 9), ("album_name", .str "Nine"), ("album_added_on", .int 0)])] } }

/-- `roomForSong` with one stored request of the listener's, for a song on an album; loading
song 5 first lists its artists and groups, both empty. -/
def oneStored (song album : Int) : World :=
  { roomForSong with db := { roomForSong.db with queues := { roomForSong.db.queues with
    all := [.list [], .list [], .list [StoredRequest.row ⟨.int song, .int album⟩]] } } }

/-- Requesting song 5 of album 9: with nothing stored it is stored and the listener joins the
station's request line; a stored request for song 5 refuses it as a repeat, and one for another
song of album 9 refuses it as from the same album, the listener having no perks. -/
theorem songFive_requests_checked :
    (∃ added w', (addRequest (.ref 0) (.int 1) (.int 5)).run roomForSong =
      (do let _ ← joinLine (.ref 0) (.int 1); pure added).run w') ∧
    (∃ w', (addRequest (.ref 0) (.int 1) (.int 5)).run (oneStored 5 3) =
      .error (refusal "same_request_exists") w') ∧
    (∃ w', (addRequest (.ref 0) (.int 1) (.int 5)).run (oneStored 4 9) =
      .error (refusal "same_request_album") w') :=
  ⟨⟨_, _, (@addRequest_checks roomForSong
      (endOf (Songs.loadFromId (.int 5) (.int 1)) (roomForSong.afterCall .var [.int 2]))
      0 1 plainListener 2 0 (.bool false) (.int 9) (.int 1) (.bool true) (.int 5) (.int 1) []
      rfl rfl (by decide) rfl rfl (run_eq_of_returnsRef (by decide +kernel))
      (fun _ => eq_of_isSomeInt (by decide +kernel)) (@eq_of_isListing _ [] (by decide +kernel))
      rfl rfl).trans rfl⟩,
    ⟨_, (@addRequest_checks (oneStored 5 3)
      (endOf (Songs.loadFromId (.int 5) (.int 1)) ((oneStored 5 3).afterCall .var [.int 2]))
      0 1 plainListener 2 0 (.bool false) (.int 9) (.int 1) (.bool true) (.int 5) (.int 1)
      (storedIds [(5, 3)])
      rfl rfl (by decide) rfl rfl (run_eq_of_returnsRef (by decide +kernel))
      (fun _ => eq_of_isSomeInt (by decide +kernel)) (eq_of_isListing (by decide +kernel))
      rfl rfl).trans rfl⟩,
    ⟨_, (@addRequest_checks (oneStored 4 9)
      (endOf (Songs.loadFromId (.int 5) (.int 1)) ((oneStored 4 9).afterCall .var [.int 2]))
      0 1 plainListener 2 0 (.bool false) (.int 9) (.int 1) (.bool true) (.int 5) (.int 1)
      (storedIds [(4, 9)])
      rfl rfl (by decide) rfl rfl (run_eq_of_returnsRef (by decide +kernel))
      (fun _ => eq_of_isSomeInt (by decide +kernel)) (eq_of_isListing (by decide +kernel))
      rfl rfl).trans rfl⟩⟩

end Listeners

end Airwaves
