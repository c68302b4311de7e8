import Airwaves.Proofs.TimelineFrame
import Airwaves.Catalog.SongPlay
import Airwaves.Listener.Account
/-!
# What the catalog leaves alone

Cooldowns, ratings, the catalog, the song pool and the listeners' accounts keep the timeline.
-/

namespace Airwaves

open KeepsTimeline

-- A long do block is one instance problem as deep as the block is long.
set_option synthInstance.maxSize 2048

/-! ## Ratings -/

instance {ratings : Value} : KeepsTimeline (Rating.calculate ratings) := by
  unfold Rating.calculate
  repeat' first | infer_instance | split | with_reducible refine bind_of ?_ fun _ => ?_ | refine forIn_of _ _ fun _ _ => ?_

instance {songId userId : Value} : KeepsTimeline (Rating.songRating songId userId) := by
  unfold Rating.songRating; infer_instance

instance {sid albumId userId : Value} : KeepsTimeline (Rating.albumRating sid albumId userId) := by
  unfold Rating.albumRating; infer_instance

/-! ## Cooldowns -/

instance : KeepsTimeline Cooldown.table := by unfold Cooldown.table; infer_instance

instance {sid : Value} {key : String} {v : Value} : KeepsTimeline (Cooldown.setFigure sid key v) := by
  unfold Cooldown.setFigure
  exact bind_of inferInstance fun _ => of_modify _ fun _ => rfl

instance {sid : Value} {key : String} : KeepsTimeline (Cooldown.figure sid key) := by
  unfold Cooldown.figure; infer_instance

instance {low v high : Value} : KeepsTimeline (Cooldown.clamp low v high) := by
  unfold Cooldown.clamp; infer_instance

instance {sid : Value} : KeepsTimeline (Cooldown.prepare sid) := by
  unfold Cooldown.prepare
  repeat' first | infer_instance | split | with_reducible refine bind_of ?_ fun _ => ?_

instance {v : Value} : KeepsTimeline (Cooldown.real v) := by unfold Cooldown.real; infer_instance

instance {addedOn : Value} : KeepsTimeline (Cooldown.ageMultiplier addedOn) := by
  unfold Cooldown.ageMultiplier
  repeat' first | infer_instance | split | with_reducible refine bind_of ?_ fun _ => ?_

/-! ## Albums, artists and groups -/

instance {v : Value} : KeepsTimeline (Catalog.metadataOf v) := by
  unfold Catalog.metadataOf; infer_instance

instance {v : Value} {f : Metadata → Metadata} : KeepsTimeline (Catalog.changeMetadata v f) := by
  unfold Catalog.changeMetadata; infer_instance

instance {v : Value} {key : String} {x : Value} : KeepsTimeline (Catalog.setData v key x) := by
  unfold Catalog.setData; infer_instance

instance {m : Metadata} {key : String} : KeepsTimeline (Catalog.dataOf m key) := by
  unfold Catalog.dataOf
  split <;> infer_instance

instance {sid albumId : Value} : KeepsTimeline (Catalog.markUpdated sid albumId) := by
  unfold Catalog.markUpdated
  repeat' first | infer_instance | split | with_reducible refine bind_of ?_ fun _ => ?_ | refine forIn_of _ _ fun _ _ => ?_ | exact of_modify _ fun _ => rfl

instance {_albumId _sid : Value} : KeepsTimeline (Catalog.artUrl _albumId _sid) := by
  unfold Catalog.artUrl; infer_instance

instance {v row : Value} : KeepsTimeline (Catalog.assignPlain v row) := by
  unfold Catalog.assignPlain; infer_instance

instance {v row : Value} {sid : Value} : KeepsTimeline (Catalog.assignAlbum v row sid) := by
  unfold Catalog.assignAlbum
  infer_instance

instance {v row : Value} {sid : Value} : KeepsTimeline (Catalog.assign v row sid) := by
  unfold Catalog.assign
  refine bind_of inferInstance fun _ => ?_
  split <;> infer_instance

instance {role : MetadataRole} : KeepsTimeline (Catalog.fresh role) := by
  unfold Catalog.fresh; infer_instance

instance {v : Value} : KeepsTimeline (Catalog.stationOf v) := by
  unfold Catalog.stationOf
  refine bind_of inferInstance fun _ => ?_
  split <;> infer_instance

instance {role : MetadataRole} {rows : Value} : KeepsTimeline (Catalog.fromRows role rows) := by
  unfold Catalog.fromRows; infer_instance

instance {role : MetadataRole} {songId : Value} {sid : Value} : KeepsTimeline (Catalog.loadListFromSongId role songId sid) := by
  unfold Catalog.loadListFromSongId; infer_instance

instance {v sid count : Value} : KeepsTimeline (Catalog.blockElectionsRows v sid count) := by
  unfold Catalog.blockElectionsRows
  refine bind_of inferInstance fun _ => ?_
  split <;> infer_instance

instance {v sid count : Value} : KeepsTimeline (Catalog.startElectionBlock v sid count) := by
  unfold Catalog.startElectionBlock; infer_instance

instance {v sid coolTime : Value} : KeepsTimeline (Catalog.cooldownRows v sid coolTime) := by
  unfold Catalog.cooldownRows
  refine bind_of inferInstance fun _ => ?_
  split <;> infer_instance

instance {v sid : Value} : KeepsTimeline (Catalog.albumSongCount v sid) := by
  unfold Catalog.albumSongCount; infer_instance

instance {v sid : Value} : KeepsTimeline (Catalog.albumCoolTime v sid) := by
  unfold Catalog.albumCoolTime
  repeat' first | infer_instance | split | with_reducible refine bind_of ?_ fun _ => ?_

instance {v sid coolTime : Value} : KeepsTimeline (Catalog.startCooldown v sid coolTime) := by
  unfold Catalog.startCooldown
  refine bind_of inferInstance fun _ => ?_
  split <;> infer_instance

instance {v : Value} : KeepsTimeline (Catalog.reconcileGroup v) := by
  unfold Catalog.reconcileGroup
  infer_instance

instance {v : Value} : KeepsTimeline (Catalog.updateAllUserRatings v) := by
  unfold Catalog.updateAllUserRatings; infer_instance

instance {v : Value} : KeepsTimeline (Catalog.reconcileAlbum v) := by
  unfold Catalog.reconcileAlbum
  repeat' first | infer_instance | split | with_reducible refine bind_of ?_ fun _ => ?_ | refine forIn_of _ _ fun _ _ => ?_

instance {v user : Value} : KeepsTimeline (Catalog.toDict v user) := by
  unfold Catalog.toDict
  repeat' first | infer_instance | split | with_reducible refine bind_of ?_ fun _ => ?_

instance {v user : Value} : KeepsTimeline (Catalog.toDictFull v user) := by
  unfold Catalog.toDictFull
  repeat' first | infer_instance | split | with_reducible refine bind_of ?_ fun _ => ?_

/-! ## Albums on a station -/

instance {albumId sid : Value} : KeepsTimeline (Albums.loadFromIdSid albumId sid) := by
  unfold Albums.loadFromIdSid; infer_instance

instance {v sid : Value} : KeepsTimeline (Albums.solveCoolLowest v sid) := by
  unfold Albums.solveCoolLowest; infer_instance

instance {v : Value} : KeepsTimeline (Albums.updateRating v) := by
  unfold Albums.updateRating
  repeat' first | infer_instance | split | with_reducible refine bind_of ?_ fun _ => ?_ | refine forIn_of _ _ fun _ _ => ?_

instance {v sid : Value} : KeepsTimeline (Albums.updateLastPlayed v sid) := by
  unfold Albums.updateLastPlayed; infer_instance

instance {v sid : Value} : KeepsTimeline (Albums.allRatings v sid) := by
  unfold Albums.allRatings
  infer_instance

instance {v sid : Value} : KeepsTimeline (Albums.updateRequestCount v sid) := by
  unfold Albums.updateRequestCount; infer_instance

instance {sid : Value} : KeepsTimeline (Albums.clearUpdated sid) := by
  unfold Albums.clearUpdated
  exact bind_of inferInstance fun _ => of_modify _ fun _ => rfl

instance {sid : Value} : KeepsTimeline (Albums.updatedDiff sid) := by
  unfold Albums.updatedDiff
  repeat' first | infer_instance | split | with_reducible refine bind_of ?_ fun _ => ?_

instance {sid : Value} : KeepsTimeline (Albums.warmCooled sid) := by
  unfold Albums.warmCooled; infer_instance

/-! ## Songs -/

instance {v : Value} : KeepsTimeline (Songs.songOf v) := by unfold Songs.songOf; infer_instance

instance {v : Value} {f : Song → Song} : KeepsTimeline (Songs.changeSong v f) := by
  unfold Songs.changeSong; infer_instance

instance {v : Value} {key : String} {x : Value} : KeepsTimeline (Songs.setData v key x) := by
  unfold Songs.setData; infer_instance

instance {s : Song} {key : String} : KeepsTimeline (Songs.dataOf s key) := by
  unfold Songs.dataOf
  split <;> infer_instance

instance {v : Value} : KeepsTimeline (Songs.stationOf v) := by
  unfold Songs.stationOf
  refine bind_of inferInstance fun _ => ?_
  split <;> infer_instance

instance : KeepsTimeline Songs.fresh := by unfold Songs.fresh; infer_instance

instance {m : Value} : KeepsTimeline (Songs.reconcile m) := by
  unfold Songs.reconcile
  refine bind_of inferInstance fun _ => ?_
  split <;> infer_instance

instance {v : Value} : KeepsTimeline (Songs.disable v) := by
  unfold Songs.disable
  infer_instance

instance {v row : Value} : KeepsTimeline (Songs.assignRow v row) := by
  unfold Songs.assignRow
  split <;> infer_instance

instance {songId sid : Value} : KeepsTimeline (Songs.findRow songId sid) := by
  unfold Songs.findRow; infer_instance

instance {v songId sid row : Value} : KeepsTimeline (Songs.fill v songId sid row) := by
  unfold Songs.fill
  repeat' first | infer_instance | split | with_reducible refine bind_of ?_ fun _ => ?_

instance {songId sid : Value} : KeepsTimeline (Songs.loadFromId songId sid) := by
  unfold Songs.loadFromId
  repeat' first | infer_instance | split | with_reducible refine bind_of ?_ fun _ => ?_

/-! ## The song pool -/

instance {sid : Value} : KeepsTimeline (Pool.averageSongLength sid) := by
  unfold Pool.averageSongLength; infer_instance

instance {stop : Value} : KeepsTimeline (Pool.rangeStop stop) := by
  unfold Pool.rangeStop
  repeat' first | infer_instance | split

instance {count : Value} : KeepsTimeline (Pool.drawUpTo count) := by
  unfold Pool.drawUpTo; infer_instance

instance {sid : Value} : KeepsTimeline (Pool.randomIgnoringAll sid) := by
  unfold Pool.randomIgnoringAll; infer_instance

instance {sid : Value} : KeepsTimeline (Pool.randomIgnoringRequests sid) := by
  unfold Pool.randomIgnoringRequests; infer_instance

instance {sid : Value} : KeepsTimeline (Pool.randomSong sid) := by
  unfold Pool.randomSong; infer_instance

instance {sid target margin : Value} : KeepsTimeline (Pool.randomTimed sid target margin) := by
  unfold Pool.randomTimed
  infer_instance

instance {sid : Value} : KeepsTimeline (Pool.shortestSong sid) := by
  unfold Pool.shortestSong; infer_instance

instance {sid : Value} : KeepsTimeline (Pool.warmCooledSongs sid) := by
  unfold Pool.warmCooledSongs; infer_instance

instance {sid user : Value} : KeepsTimeline (Pool.albumsList sid user) := by
  unfold Pool.albumsList; infer_instance

instance {sid : Value} : KeepsTimeline (Pool.artistsList sid) := by
  unfold Pool.artistsList; infer_instance

instance {sid : Value} : KeepsTimeline (Pool.groupsList sid) := by
  unfold Pool.groupsList; infer_instance

instance {sid : Value} : KeepsTimeline (Pool.reduceSongBlocks sid) := by
  unfold Pool.reduceSongBlocks; infer_instance

/-! ## The request line -/

instance {v : Value} : KeepsTimeline (Listeners.userOf v) := by
  unfold Listeners.userOf; infer_instance

instance {v : Value} {f : User → User} : KeepsTimeline (Listeners.changeUser v f) := by
  unfold Listeners.changeUser; infer_instance

instance {u : User} {key : String} : KeepsTimeline (Listeners.dataOf u key) := by
  unfold Listeners.dataOf
  split <;> infer_instance

instance {u : User} : KeepsTimeline (Listeners.isRegistered u) := by
  unfold Listeners.isRegistered; infer_instance

instance {u : User} : KeepsTimeline (Listeners.isAnonymous u) := by
  unfold Listeners.isAnonymous; infer_instance

instance {v sid : Value} : KeepsTimeline (Listeners.requestCount v sid) := by
  unfold Listeners.requestCount; infer_instance

instance {v : Value} : KeepsTimeline (Listeners.leaveLine v) := by
  unfold Listeners.leaveLine; infer_instance

instance {v sid : Value} : KeepsTimeline (Listeners.topRequest v sid) := by
  unfold Listeners.topRequest; infer_instance

instance {v sid : Value} : KeepsTimeline (Listeners.joinLine v sid) := by
  unfold Listeners.joinLine
  infer_instance

/-! ## Listener accounts -/

instance {sid : Value} : KeepsTimeline (Listeners.trimListeners sid) := by
  unfold Listeners.trimListeners; infer_instance

instance {sid : Value} : KeepsTimeline (Listeners.unlockListeners sid) := by
  unfold Listeners.unlockListeners; infer_instance

instance {id : Value} : KeepsTimeline (Listeners.create id) := by
  unfold Listeners.create; infer_instance

instance {d : Value} : KeepsTimeline (Listeners.updateEntries d) := by
  unfold Listeners.updateEntries
  repeat' first | infer_instance | split | with_reducible refine bind_of ?_ fun _ => ?_ | refine forIn_of _ _ fun _ _ => ?_

instance {v d : Value} : KeepsTimeline (Listeners.mergeData v d) := by
  unfold Listeners.mergeData; infer_instance

instance {v : Value} : KeepsTimeline (Listeners.listenerRecord v) := by
  unfold Listeners.listenerRecord; infer_instance

instance {v : Value} : KeepsTimeline (Listeners.tunedInStation v) := by
  unfold Listeners.tunedInStation; infer_instance

/-! ## Playing songs -/

instance {v sid : Value} : KeepsTimeline (Songs.startCooldown v sid) := by
  unfold Songs.startCooldown
  repeat' first | infer_instance | split | with_reducible refine bind_of ?_ fun _ => ?_

instance {v sid blockedBy length : Value} : KeepsTimeline (Songs.setElectionBlock v sid blockedBy length) := by
  unfold Songs.setElectionBlock; infer_instance

instance {v sid count : Value} : KeepsTimeline (Songs.startElectionBlock v sid count) := by
  unfold Songs.startElectionBlock; infer_instance

instance {v skipAlbums : Value} : KeepsTimeline (Songs.updateRating v skipAlbums) := by
  unfold Songs.updateRating
  repeat' first | infer_instance | split | with_reducible refine bind_of ?_ fun _ => ?_

instance {v user : Value} : KeepsTimeline (Songs.toDict v user) := by
  unfold Songs.toDict
  repeat' first | infer_instance | split | with_reducible refine bind_of ?_ fun _ => ?_ | refine forIn_of _ _ fun _ _ => ?_

instance {v : Value} : KeepsTimeline (Songs.allRatings v) := by
  unfold Songs.allRatings; infer_instance

instance {v sid : Value} : KeepsTimeline (Songs.updateLastPlayed v sid) := by
  unfold Songs.updateLastPlayed; infer_instance

instance {v votes _sid : Value} : KeepsTimeline (Songs.addToVoteCount v votes _sid) := by
  unfold Songs.addToVoteCount; infer_instance

instance {v user : Value} : KeepsTimeline (Songs.checkRatingAcl v user) := by
  unfold Songs.checkRatingAcl
  infer_instance

instance {v sid updateAlbums : Value} {albumRecount : Value → Value → Act Value}
    [∀ x y, KeepsTimeline (albumRecount x y)] :
    KeepsTimeline (Songs.recount v sid updateAlbums albumRecount) := by
  unfold Songs.recount; infer_instance

instance {v sid updateAlbums : Value} : KeepsTimeline (Songs.updateRequestCount v sid updateAlbums) := by
  unfold Songs.updateRequestCount; infer_instance

instance {v : Value} : KeepsTimeline (Songs.length v) := by unfold Songs.length; infer_instance

end Airwaves
