import Airwaves.Proofs.LoopFrame
/-!
# What serving a session leaves of the event loop

Answering a session's request sets no timer and writes no bank: every action it runs keeps the
event loop (`KeepsLoop`).
-/

namespace Airwaves

open KeepsLoop

-- A long do block is one instance problem as deep as the block is long.
set_option synthInstance.maxSize 2048

/-! ## The catalog -/

instance {_albumId : Value} {_sid : Value} : KeepsLoop (Catalog.artUrl _albumId _sid) := by
  unfold Catalog.artUrl; infer_instance

instance {v : Value} : KeepsLoop (Songs.songOf v) := by unfold Songs.songOf; infer_instance

instance {s : Song} {key : String} : KeepsLoop (Songs.dataOf s key) := by
  unfold Songs.dataOf
  split <;> infer_instance

instance {songId : Value} {userId : Value} : KeepsLoop (Rating.songRating songId userId) := by
  unfold Rating.songRating; infer_instance

instance {v : Value} : KeepsLoop (Catalog.metadataOf v) := by
  unfold Catalog.metadataOf; infer_instance

instance {m : Metadata} {key : String} : KeepsLoop (Catalog.dataOf m key) := by
  unfold Catalog.dataOf
  split <;> infer_instance

instance {v : Value} : KeepsLoop (Catalog.stationOf v) := by
  unfold Catalog.stationOf
  refine bind_of inferInstance fun _ => ?_
  split <;> infer_instance

instance {sid : Value} {albumId : Value} {userId : Value}
    : KeepsLoop (Rating.albumRating sid albumId userId) := by
  unfold Rating.albumRating; infer_instance

instance {v : Value} {user : Value} : KeepsLoop (Catalog.toDict v user) := by
  unfold Catalog.toDict
  repeat' first | infer_instance | split | with_reducible refine bind_of ?_ fun _ => ?_

instance {v : Value} {user : Value} : KeepsLoop (Songs.toDict v user) := by
  unfold Songs.toDict
  repeat' first | infer_instance | split | with_reducible refine bind_of ?_ fun _ => ?_ | refine forIn_of _ _ fun _ _ => ?_

instance {v : Value} {f : Song → Song} : KeepsLoop (Songs.changeSong v f) := by
  unfold Songs.changeSong; infer_instance

instance {v : Value} {key : String} {x : Value} : KeepsLoop (Songs.setData v key x) := by
  unfold Songs.setData; infer_instance

instance {v : Value} : KeepsLoop (Songs.stationOf v) := by
  unfold Songs.stationOf
  refine bind_of inferInstance fun _ => ?_
  split <;> infer_instance

instance {v : Value} {user : Value} : KeepsLoop (Songs.checkRatingAcl v user) := by
  unfold Songs.checkRatingAcl
  infer_instance

instance {sid : Value} {user : Value} : KeepsLoop (Pool.albumsList sid user) := by
  unfold Pool.albumsList; infer_instance

instance : KeepsLoop Pool.updateCounts := by
  unfold Pool.updateCounts
  repeat' first
    | intro _
    | lift_lets
    | with_reducible refine bind_of ?_ fun _ => ?_
    | with_reducible refine ite_of ?_ ?_
    | refine forIn_of _ _ fun _ _ => ?_
    | infer_instance
    | split
    | exact of_modify _ fun _ => .quiet rfl rfl rfl rfl rfl

instance : KeepsLoop Cooldown.table := by unfold Cooldown.table; infer_instance

instance {sid : Value} {key : String} : KeepsLoop (Cooldown.figure sid key) := by
  unfold Cooldown.figure; infer_instance

instance {low : Value} {v : Value} {high : Value} : KeepsLoop (Cooldown.clamp low v high) := by
  unfold Cooldown.clamp; infer_instance

instance {sid : Value} {key : String} {v : Value} : KeepsLoop (Cooldown.setFigure sid key v) := by
  unfold Cooldown.setFigure
  exact bind_of inferInstance fun _ => of_modify _ fun _ => .quiet rfl rfl rfl rfl rfl

instance {sid : Value} : KeepsLoop (Cooldown.prepare sid) := by
  unfold Cooldown.prepare
  repeat' first | infer_instance | split | with_reducible refine bind_of ?_ fun _ => ?_

/-! ## Listeners -/

instance {v : Value} : KeepsLoop (Listeners.userOf v) := by
  unfold Listeners.userOf; infer_instance

instance {u : User} : KeepsLoop (Listeners.isAnonymous u) := by
  unfold Listeners.isAnonymous; infer_instance

instance {u : User} {key : String} : KeepsLoop (Listeners.dataOf u key) := by
  unfold Listeners.dataOf
  split <;> infer_instance

instance {v : Value}
    : KeepsLoop (Listeners.tunedIn v) := by unfold Listeners.tunedIn; infer_instance

instance {v : Value}
    : KeepsLoop (Listeners.isAdmin v) := by unfold Listeners.isAdmin; infer_instance

instance {v : Value} : KeepsLoop (Listeners.perks v) := by unfold Listeners.perks; infer_instance

instance {v : Value} {f : User → User} : KeepsLoop (Listeners.changeUser v f) := by
  unfold Listeners.changeUser; infer_instance

instance {v : Value} {key : String} {x : Value}
    : KeepsLoop (Listeners.setData v key x) := by unfold Listeners.setData; infer_instance

instance {u : User} : KeepsLoop (Listeners.isRegistered u) := by
  unfold Listeners.isRegistered; infer_instance

instance {d : Value} : KeepsLoop (Listeners.updateEntries d) := by
  unfold Listeners.updateEntries
  repeat' first | infer_instance | split | with_reducible refine bind_of ?_ fun _ => ?_ | refine forIn_of _ _ fun _ _ => ?_

instance {v : Value} {d : Value} : KeepsLoop (Listeners.mergeData v d) := by
  unfold Listeners.mergeData; infer_instance

instance {v : Value} : KeepsLoop (Listeners.listenerRecord v) := by
  unfold Listeners.listenerRecord; infer_instance

instance {v : Value} {table : Value}
    : KeepsLoop (Listeners.cachedEntry v table) := by unfold Listeners.cachedEntry; infer_instance

instance {v : Value} {sid : Value}
    : KeepsLoop (Listeners.linePosition v sid) := by unfold Listeners.linePosition; infer_instance

instance {v : Value}
    : KeepsLoop (Listeners.lineExpiry v) := by unfold Listeners.lineExpiry; infer_instance

instance {v : Value} : KeepsLoop (Listeners.inLine v) := by unfold Listeners.inLine; infer_instance

instance {v : Value} {sid : Value} : KeepsLoop (Listeners.requestCount v sid) := by
  unfold Listeners.requestCount; infer_instance

instance {v : Value} {sid : Value} : KeepsLoop (Listeners.topRequest v sid) := by
  unfold Listeners.topRequest; infer_instance

instance {v : Value} : KeepsLoop (Listeners.leaveLine v) := by
  unfold Listeners.leaveLine; infer_instance

instance {v : Value} {sid : Value} : KeepsLoop (Listeners.joinLine v sid) := by
  unfold Listeners.joinLine
  infer_instance

instance {v : Value} {sid : Value} : KeepsLoop (Listeners.refresh v sid) := by
  unfold Listeners.refresh
  repeat' first | infer_instance | split | with_reducible refine bind_of ?_ fun _ => ?_

instance {sid : Value} {row : Value} : KeepsLoop (Listeners.shownRequest sid row) := by
  unfold Listeners.shownRequest
  infer_instance

instance {v : Value} {sid : Value} : KeepsLoop (Listeners.requestsOn v sid) := by
  unfold Listeners.requestsOn
  infer_instance

instance {v : Value}
    : KeepsLoop (Listeners.privateView v) := by unfold Listeners.privateView; infer_instance

instance {v : Value} : KeepsLoop (Listeners.isDj v) := by unfold Listeners.isDj; infer_instance

instance {v : Value} {key : String}
    : KeepsLoop (Listeners.popData v key) := by unfold Listeners.popData; infer_instance

/-! ## The schedule -/

instance {v : Value} : KeepsLoop (Events.eventOf v) := by unfold Events.eventOf; infer_instance

instance {v : Value} : KeepsLoop (Schedule.isElectionEvent v) := by
  unfold Schedule.isElectionEvent; infer_instance

instance {v : Value} {user : Value} {checkAcl : Bool} {lengthOf : Value → Act Value} [∀ x, KeepsLoop (lengthOf x)]
    : KeepsLoop (Events.viewWith v user checkAcl lengthOf) := by
  unfold Events.viewWith
  infer_instance

instance {song : Value} : KeepsLoop (Elections.songData song) := by
  unfold Elections.songData; infer_instance

instance {song : Value} {key : String} : KeepsLoop (Elections.entryOf song key) := by
  unfold Elections.entryOf; infer_instance

instance {v : Value} : KeepsLoop (Elections.songsOf v) := by
  unfold Elections.songsOf; infer_instance

instance {v : Value} : KeepsLoop (Elections.length v) := by
  unfold Elections.length; infer_instance

instance {v : Value} {user : Value} {checkAcl : Bool}
    : KeepsLoop (Elections.view v user checkAcl) := by
  unfold Elections.view
  split
  · refine bind_of inferInstance fun _ => ?_
    split <;> infer_instance
  · infer_instance

instance {e : Event} : KeepsLoop (Events.firstSong e) := by
  unfold Events.firstSong; infer_instance

instance {song : Value} : KeepsLoop (Events.songLength song) := by
  unfold Events.songLength; infer_instance

instance {v : Value} : KeepsLoop (Events.length v) := by unfold Events.length; infer_instance

instance {v : Value} {user : Value} {checkAcl : Bool}
    : KeepsLoop (Events.view v user checkAcl) := by
  unfold Events.view; infer_instance

instance {v : Value} {user : Value} {checkAcl : Bool}
    : KeepsLoop (Schedule.eventView v user checkAcl) := by
  unfold Schedule.eventView; infer_instance

instance {v : Value} : KeepsLoop (Elections.playedSong v) := by
  unfold Elections.playedSong
  refine bind_of inferInstance fun _ => ?_
  split <;> infer_instance

instance {v : Value} : KeepsLoop (Events.playedSong v) := by
  unfold Events.playedSong; infer_instance

instance {v : Value} : KeepsLoop (Schedule.eventSong v) := by
  unfold Schedule.eventSong; infer_instance

/-! ## Field checks -/

instance {v : Value}
    : KeepsLoop (Fields.existingRow v) := by unfold Fields.existingRow; infer_instance

instance {request : Value} {name : String} : KeepsLoop (Fields.requestField request name) := by
  unfold Fields.requestField
  split
  · refine bind_of inferInstance fun _ => ?_
    split <;> infer_instance
  · infer_instance

instance {v : Value} {request : Value}
    : KeepsLoop (Fields.songIdOnStation v request) := by unfold Fields.songIdOnStation; infer_instance

instance {v : Value} : KeepsLoop (Fields.userId v) := by unfold Fields.userId; infer_instance

instance {v : Value} : KeepsLoop (Fields.validRelay v) := by
  unfold Fields.validRelay
  repeat' first
    | (intro jp; refine (fun (hjp : ∀ a, KeepsLoop (jp a)) => ?_) (fun a => ?_); clear_value jp)
    | intro _
    | lift_lets
    | with_reducible refine bind_of ?_ fun _ => ?_
    | with_reducible refine ite_of ?_ ?_
    | refine forIn_of _ _ fun _ _ => ?_
    | infer_instance
    | split
    | (beta_reduce; split)

instance {v : Value} {request : Value}
    : KeepsLoop (Fields.station v request) := by unfold Fields.station; infer_instance

instance {v : Value} : KeepsLoop (Fields.songIdList v) := by
  unfold Fields.songIdList
  repeat' first
    | intro _
    | lift_lets
    | with_reducible refine bind_of ?_ fun _ => ?_
    | with_reducible refine ite_of ?_ ?_
    | refine forIn_of _ _ fun _ _ => ?_
    | infer_instance
    | split

instance {v : Value} : KeepsLoop (Fields.mediaPlayer v) := by
  unfold Fields.mediaPlayer
  repeat' first
    | intro _
    | lift_lets
    | with_reducible refine bind_of ?_ fun _ => ?_
    | with_reducible refine ite_of ?_ ?_
    | refine forIn_of _ _ fun _ _ => ?_
    | infer_instance
    | split

instance {v : Value} : KeepsLoop (Fields.groupId v) := by unfold Fields.groupId; infer_instance

instance {k : Fields.FieldKind} {v : Value} {request : Value}
    : KeepsLoop (Fields.FieldKind.check k v request) := by
  unfold Fields.FieldKind.check
  split <;> infer_instance

/-! ## Handlers -/

instance {e : Api.Endpoint}
    : KeepsLoop (Api.openHandler e) := by unfold Api.openHandler; infer_instance

instance {v : Value} : KeepsLoop (Api.handlerAt v) := by
  unfold Api.handlerAt
  split
  · refine bind_of inferInstance fun _ => ?_
    split <;> infer_instance
  · infer_instance

theorem handlerAt_stored {w w' : World} {v : Value} {r : Nat × Handler}
    (run : (Api.handlerAt v).run w = .ok r w') : w' = w ∧ w.store[r.1]? = some (.handler r.2) := by
  unfold Api.handlerAt at run
  split at run
  · obtain ⟨o, w1, read, rest⟩ := run_bind_eq_ok run
    obtain ⟨rfl, stored⟩ := deref_run_inv read
    split at rest
    · obtain ⟨rfl, rfl⟩ := run_pure_eq_ok rest
      exact ⟨rfl, stored⟩
    · exact absurd rest (noMember_fails _ _ _ _ _)
  · exact absurd run (noMember_fails _ _ _ _ _)

instance {v : Value} {f : Handler → Handler} : KeepsLoop (Api.changeHandler v f) := by
  unfold Api.changeHandler
  refine bind_of_run inferInstance fun _ r w1 ran => ?_
  obtain ⟨rfl, found⟩ := handlerAt_stored ran
  rw [store_run]
  exact ⟨fun _ _ run => by cases run; exact store_kept found rfl rfl, fun _ _ run => (by cases run)⟩

instance {v : Value} : KeepsLoop (Api.handlerOf v) := by unfold Api.handlerOf; infer_instance

instance {e : Api.Endpoint} {v : Value}
    : KeepsLoop (Api.setupOutput e v) := by unfold Api.setupOutput; infer_instance

instance {v : Value}
    : KeepsLoop (Api.givenArguments v) := by unfold Api.givenArguments; infer_instance

instance {v : Value} {name : String}
    : KeepsLoop (Api.isGiven v name) := by unfold Api.isGiven; infer_instance

instance {v : Value} {name : String} {x : Value}
    : KeepsLoop (Api.setArgument v name x) := by unfold Api.setArgument; infer_instance

instance {x : Value} : KeepsLoop (Api.readGiven x) := by
  unfold Api.readGiven
  repeat' first | infer_instance | split

instance {v : Value} {name : String} {fallback : Value}
    : KeepsLoop (Api.argumentOr v name fallback) := by
  unfold Api.argumentOr
  refine bind_of inferInstance fun _ => ?_
  split <;> infer_instance

instance {v : Value} {name : String}
    : KeepsLoop (Api.argument v name) := by unfold Api.argument; infer_instance

instance {v : Value} {f : Api.Field}
    : KeepsLoop (Api.readArgument v f) := by unfold Api.readArgument; infer_instance

instance {v : Value} {fs : List Api.Field}
    : KeepsLoop (Api.readFields v fs) := by unfold Api.readFields; infer_instance

instance {e : Api.Endpoint} {v : Value}
    : KeepsLoop (Api.readArguments e v) := by unfold Api.readArguments; infer_instance

instance {e : Api.Endpoint} : KeepsLoop e.seen := by unfold Api.Endpoint.seen; infer_instance

instance {e : Api.Endpoint} {v : Value} : KeepsLoop (Api.checkStation e v) := by
  unfold Api.checkStation
  infer_instance

instance {v : Value} : KeepsLoop (Api.userOf v) := by unfold Api.userOf; infer_instance

instance {v : Value} : KeepsLoop (Api.stationOf v) := by unfold Api.stationOf; infer_instance

instance {asked : Bool} {present : Bool} {key : String} {holds : Act Bool} [KeepsLoop holds]
    : KeepsLoop (Api.requireCaller asked present key holds) := by unfold Api.requireCaller; infer_instance

instance {user : Value} {member : String}
    : KeepsLoop (Api.someUser user member) := by unfold Api.someUser; infer_instance

instance {user : Value} : KeepsLoop (Api.anonymous user) := by unfold Api.anonymous; infer_instance

instance {user : Value} : KeepsLoop (Api.tunedIn user) := by unfold Api.tunedIn; infer_instance

instance {asked : Bool} {present : Bool} {user : Value} {sid : Value}
    : KeepsLoop (Api.requireUnlocked asked present user sid) := by
  unfold Api.requireUnlocked
  infer_instance

instance {asked : Bool} {present : Bool} {user : Value} {sid : Value}
    : KeepsLoop (Api.requireDj asked present user sid) := by
  unfold Api.requireDj
  infer_instance

instance {asked : Bool} {present : Bool} {user : Value}
    : KeepsLoop (Api.requireDjPreparation asked present user) := by unfold Api.requireDjPreparation; infer_instance

instance {e : Api.Endpoint} {v : Value} : KeepsLoop (Api.checkCaller e v) := by
  unfold Api.checkCaller
  infer_instance

instance {d : Value} {key : Value} {x : Value} : KeepsLoop (Api.putEntry d key x) := by
  unfold Api.putEntry
  split <;> infer_instance

instance {v : Value} {key : Value} {x : Value} : KeepsLoop (Api.append v key x) := by
  unfold Api.append
  repeat' first | infer_instance | split | with_reducible refine bind_of ?_ fun _ => ?_

instance {v : Value} {key : String} {x : Value}
    : KeepsLoop (Api.put v key x) := by unfold Api.put; infer_instance

instance {e : Api.Endpoint} {v : Value} {messageId : Value}
    : KeepsLoop (Api.prepareStandalone e v messageId) := by unfold Api.prepareStandalone; infer_instance

instance {v : Value} {name : String}
    : KeepsLoop (Api.cookie v name) := by unfold Api.cookie; infer_instance

instance {v : Value} : KeepsLoop (Api.answerName v) := by unfold Api.answerName; infer_instance

instance {v : Value} : KeepsLoop (Api.localeOf v) := by unfold Api.localeOf; infer_instance

instance {locale : Value} {key : Value} {args : List (String × Value)}
    : KeepsLoop (Locale.translateWith locale key args) := by
  unfold Locale.translateWith
  repeat' first
    | (intro jp; refine (fun (hjp : ∀ a, KeepsLoop (jp a)) => ?_) (fun a => ?_); clear_value jp)
    | intro _
    | lift_lets
    | with_reducible refine bind_of ?_ fun _ => ?_
    | with_reducible refine ite_of ?_ ?_
    | refine forIn_of _ _ fun _ _ => ?_
    | infer_instance
    | split
    | unfold jp

instance {locale : Value} {f : Fault} : KeepsLoop (Api.localize locale f) := by
  unfold Api.localize
  repeat' first
    | intro _
    | lift_lets
    | with_reducible refine bind_of ?_ fun _ => ?_
    | with_reducible refine ite_of ?_ ?_
    | refine forIn_of _ _ fun _ _ => ?_
    | infer_instance
    | split

instance {v : Value} {key : String}
    : KeepsLoop (Api.translate v key) := by unfold Api.translate; infer_instance

instance {v : Value} {f : Fault} {status : ℕ} : KeepsLoop (Api.writeError v f status) := by
  unfold Api.writeError
  repeat' first
    | (intro jp; refine (fun (hjp : ∀ a, KeepsLoop (jp a)) => ?_) (fun a => ?_); clear_value jp)
    | intro _
    | lift_lets
    | with_reducible refine bind_of ?_ fun _ => ?_
    | with_reducible refine ite_of ?_ ?_
    | refine forIn_of _ _ fun _ _ => ?_
    | infer_instance
    | split
    | unfold jp

/-! ## Answers over HTTP -/

instance {v : Value} {name : String} {value : Value}
    : KeepsLoop (Web.setHeader v name value) := by unfold Web.setHeader; infer_instance

instance {v : Value}
    : KeepsLoop (Web.finishResponse v) := by unfold Web.finishResponse; infer_instance

instance {v : Value} : KeepsLoop (Web.isFinished v) := by unfold Web.isFinished; infer_instance

instance {v : Value} {text : String}
    : KeepsLoop (Web.write v text) := by unfold Web.write; infer_instance

instance {v : Value} : KeepsLoop (Web.finishAnswer v) := by
  unfold Web.finishAnswer
  repeat' first | infer_instance | split | with_reducible refine bind_of ?_ fun _ => ?_

instance {v : Value} : KeepsLoop (Web.flush v) := by unfold Web.flush; infer_instance

/-! ## The station's state -/

instance {evt : Value}
    : KeepsLoop (Api.Now.isContest evt) := by unfold Api.Now.isContest; infer_instance

instance {events : List Value} {i : ℕ} : KeepsLoop (Api.Now.openVoting events i) := by
  unfold Api.Now.openVoting
  split <;> infer_instance

instance {v : Value} {user : Value} {sid : Value}
    : KeepsLoop (Api.Now.registeredSchedule v user sid) := by
  unfold Api.Now.registeredSchedule
  -- each join point of the block is named and its fact proved once, before the branches that
  -- call it
  repeat' first
    | (intro jp; refine (fun (hjp : ∀ a b, KeepsLoop (jp a b)) => ?_) (fun a b => ?_); clear_value jp)
    | (intro jp; refine (fun (hjp : ∀ a, KeepsLoop (jp a)) => ?_) (fun a => ?_); clear_value jp)
    | intro _
    | lift_lets
    | with_reducible refine bind_of ?_ fun _ => ?_
    | with_reducible refine ite_of ?_ ?_
    | refine forIn_of _ _ fun _ _ => ?_
    | infer_instance

instance {user : Value} {sid : Value} : KeepsLoop (Api.Now.cachedSchedule user sid) := by
  unfold Api.Now.cachedSchedule
  repeat' first | infer_instance | split | with_reducible refine bind_of ?_ fun _ => ?_

instance {v : Value} {name : String}
    : KeepsLoop (Api.Now.asked v name) := by unfold Api.Now.asked; infer_instance

instance {sid : Value} {user : Value}
    : KeepsLoop (Api.Now.albumsFor sid user) := by unfold Api.Now.albumsFor; infer_instance

instance {v : Value}
    : KeepsLoop (Api.Now.attachDjInfo v) := by unfold Api.Now.attachDjInfo; infer_instance

instance {v : Value} {extra : String} {allLists : Bool} {liveVoting : Bool}
    : KeepsLoop (Api.Now.attachInfo v extra allLists liveVoting) := by
  unfold Api.Now.attachInfo
  -- each join point of the block is named and its fact proved once, before the branches that
  -- call it
  repeat' first
    | (intro jp; refine (fun (hjp : ∀ a, KeepsLoop (jp a)) => ?_) (fun a => ?_); clear_value jp)
    | intro _
    | lift_lets
    | with_reducible refine bind_of ?_ fun _ => ?_
    | with_reducible refine ite_of ?_ ?_
    | refine forIn_of _ _ fun _ _ => ?_
    | infer_instance

end Airwaves
