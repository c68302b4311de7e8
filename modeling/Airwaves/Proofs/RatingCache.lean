import Airwaves.Proofs.FaveCount
import Airwaves.Proofs.LineRebuild
/-!
# A cleared rating in the rating cache

Clearing a rating writes no song rating to the cache, so a read after the clear finds the rating
cached before it.
-/

namespace Airwaves.Rating

/-- What a read of a listener's rating of a song sees: whether the cache has a client, and the
cached entry. -/
def songRatingView (songId userId : Value) (w : World) : Bool × Option Value :=
  (w.cache.connected, Dict.field? w.cache.ratings (Cache.songKey songId userId))

/-- Song entries and album entries of the rating cache never share a key. -/
theorem songKey_ne_albumKey (songId userId sid albumId userId' : Value) :
    Cache.songKey songId userId ≠ Cache.albumKey sid albumId userId' := by
  intro same
  unfold Cache.songKey Cache.albumKey at same
  simp only [String.append_assoc] at same
  -- the two keys part at their eighth character, "rating_s" against "rating_a"
  have prefixes := congrArg (fun s : String => s.toList.take 8) same
  simp only [String.toList_append] at prefixes
  rw [List.take_append_of_le_length (by decide), List.take_append_of_le_length (by decide)] at prefixes
  exact absurd prefixes (by decide)

section Frame

variable {songId userId : Value}

theorem query_keeps_songRating (k : QueryKind) (params : List Value) :
    Keeps (songRatingView songId userId) (query k params) := by
  intro w r w' run
  have same : w'.cache = w.cache := Requests.query_keeps_cache k params w r w' run
  rw [songRatingView, songRatingView, same]

/-- Writing an album entry keeps every song entry. -/
theorem putAlbumRating_keeps_songRating (sid albumId userId' entry : Value) :
    Keeps (songRatingView songId userId) (Cache.putAlbumRating sid albumId userId' entry) := by
  intro w r w' run
  have connected : w.cache.connected = true := by
    by_contra off
    simp only [Bool.not_eq_true] at off
    simp [Cache.putAlbumRating, Cache.requireClient, Cache.state, EStateM.run_bind, off] at run
  rw [Cache.putAlbumRating_run connected] at run
  cases run
  have other : Cache.albumKey sid albumId userId' ≠ Cache.songKey songId userId :=
    (songKey_ne_albumKey _ _ _ _ _).symm
  simp [songRatingView, Cache.withRating, Api.field?_putField, other]

/-- Recomputing a listener's album ratings writes album entries and no song entry. -/
theorem updateAlbumRatings_keeps_songRating (targetSid songId' userId' : Value) :
    Keeps (songRatingView songId userId) (updateAlbumRatings targetSid songId' userId') := by
  unfold updateAlbumRatings
  dsimp only
  repeat' first
    | with_reducible refine Keeps.bind ?_ fun _ => ?_
    | with_reducible refine Keeps.forIn _ _ fun _ _ => ?_
    | split
    | exact Keeps.of_readOnly (.pure _)
    | exact Keeps.of_readOnly (.lift _)
    | exact Keeps.of_readOnly (itemsOf_readOnly _)
    | exact Keeps.of_readOnly (itemOf_readOnly _ _)
    | exact query_keeps_songRating _ _
    | exact putAlbumRating_keeps_songRating _ _ _ _

theorem clearSongRating_keeps_songRating (sid songId' userId' : Value) :
    Keeps (songRatingView songId userId) (clearSongRating sid songId' userId') :=
  (query_keeps_songRating _ _).bind fun _ => updateAlbumRatings_keeps_songRating _ _ _

end Frame

/-- A read of a rating that is cached returns it, and caches it again. -/
theorem songRating_run_cached {songId userId x : Value} {w : World} (connected : w.cache.connected = true)
    (cached : Dict.field? w.cache.ratings (Cache.songKey songId userId) = some x) (rated : x.truthy = true) :
    (songRating songId userId).run w =
      .ok x { w with cache := w.cache.withRating (Cache.songKey songId userId) x } := by
  have read : (Cache.readSongRating songId userId).run w = .ok x w := by
    unfold Cache.readSongRating
    rw [EStateM.run_bind, Cache.requireClient_run connected]
    show EStateM.Result.ok ((Dict.field? w.cache.ratings (Cache.songKey songId userId)).getD .none) w = _
    rw [cached]
    rfl
  unfold songRating
  rw [run_bind_ok read]
  simp only [rated, Bool.not_true, Bool.false_eq_true, ↓reduceIte]
  rw [run_bind_ok (Cache.putSongRating_run connected songId userId x)]
  rfl

/-- Clearing a rating leaves the rating cached before the clear, and a read after the clear
returns it. -/
theorem cleared_rating_read_back {sid songId userId r x : Value} {w w' : World}
    (connected : w.cache.connected = true)
    (cached : Dict.field? w.cache.ratings (Cache.songKey songId userId) = some x) (rated : x.truthy = true)
    (cleared : (clearSongRating sid songId userId).run w = .ok r w') :
    (songRating songId userId).run w' =
      .ok x { w' with cache := w'.cache.withRating (Cache.songKey songId userId) x } := by
  have kept : songRatingView songId userId w' = songRatingView songId userId w :=
    clearSongRating_keeps_songRating sid songId userId w r w' cleared
  simp only [songRatingView, Prod.mk.injEq] at kept
  exact songRating_run_cached (kept.1.trans connected) (kept.2.trans cached) rated

/-- A rating of 4 with no favourite, as the rating cache holds it. -/
def fourStars : Value := .dict (Dict.ofStrings [("rating_user", .int 4), ("fave", .none)])

/-- A listener under 2 whose rating of song 10 is cached, with no album of the song on record. -/
def ratedDesk : World :=
  { cache := { ratings := [(.str "rating_song_10_2", fourStars)] }
    rng := { words := #[], index := 0 } }

theorem ratedDesk_reads_cleared_rating :
    ∃ r w', (clearSongRating (.int 1) (.int 10) (.int 2)).run ratedDesk = .ok r w' ∧
      (songRating (.int 10) (.int 2)).run w' =
        .ok fourStars { w' with cache := w'.cache.withRating (Cache.songKey (.int 10) (.int 2)) fourStars } := by
  obtain ⟨r, cleared⟩ := Requests.returns_in_worldAfter
    (x := clearSongRating (.int 1) (.int 10) (.int 2)) (w := ratedDesk) (by decide +kernel)
  exact ⟨r, _, cleared, cleared_rating_read_back rfl rfl rfl cleared⟩

end Airwaves.Rating
