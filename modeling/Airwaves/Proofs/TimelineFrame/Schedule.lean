import Airwaves.Proofs.TimelineFrame.Catalog
import Airwaves.Schedule.Timeline
/-!
# What the schedule leaves alone

Events, elections, producers and the request queue keep the timeline; only planning, advancing
and finishing write it (`Proofs.QueueOrder`).
-/

namespace Airwaves

open KeepsTimeline

-- A long do block is one instance problem as deep as the block is long.
set_option synthInstance.maxSize 2048

/-! ## Events -/

instance {v : Value} : KeepsTimeline (Events.eventOf v) := by unfold Events.eventOf; infer_instance

instance {v : Value} {f : Event → Event} : KeepsTimeline (Events.changeEvent v f) := by
  unfold Events.changeEvent; infer_instance

instance {e : Event} : KeepsTimeline (Events.firstSong e) := by
  unfold Events.firstSong; infer_instance

instance {song : Value} : KeepsTimeline (Events.songLength song) := by
  unfold Events.songLength; infer_instance

instance {v : Value} : KeepsTimeline (Events.playedSong v) := by
  unfold Events.playedSong; infer_instance

instance {v : Value} : KeepsTimeline (Events.playedFile v) := by
  unfold Events.playedFile; infer_instance

instance {v : Value} : KeepsTimeline (Events.prepare v) := by unfold Events.prepare; infer_instance

instance {v : Value} : KeepsTimeline (Events.start v) := by unfold Events.start; infer_instance

instance {v : Value} : KeepsTimeline (Events.finish v) := by unfold Events.finish; infer_instance

instance {v : Value} : KeepsTimeline (Events.length v) := by unfold Events.length; infer_instance

instance {v user : Value} {checkAcl : Bool} {lengthOf : Value → Act Value}
    [∀ x, KeepsTimeline (lengthOf x)] : KeepsTimeline (Events.viewWith v user checkAcl lengthOf) := by
  unfold Events.viewWith
  infer_instance

instance {v user : Value} {checkAcl : Bool} : KeepsTimeline (Events.view v user checkAcl) := by
  unfold Events.view; infer_instance

instance {oneUpId sid : Value} : KeepsTimeline (Events.loadOneUp oneUpId sid) := by
  unfold Events.loadOneUp; infer_instance

instance {v : Value} : KeepsTimeline (Events.finishOneUp v) := by
  unfold Events.finishOneUp; infer_instance

instance {v : Value} : KeepsTimeline (Events.deleteOneUp v) := by
  unfold Events.deleteOneUp; infer_instance

/-! ## Requests -/

instance {t now : Value} : KeepsTimeline (Requests.hasPassed t now) := by
  unfold Requests.hasPassed; infer_instance

instance {u : User} {row songId : Value} : KeepsTimeline (Requests.noteValid u row songId) := by
  unfold Requests.noteValid
  infer_instance

instance {row songId : Value} {acc : Requests.Rebuild} : KeepsTimeline (Requests.withSong row songId acc) := by
  unfold Requests.withSong; infer_instance

instance {user row songId now : Value} {acc : Requests.Rebuild} :
    KeepsTimeline (Requests.withoutSong user row songId now acc) := by
  unfold Requests.withoutSong
  infer_instance

instance {user row sid now : Value} {acc : Requests.Rebuild} : KeepsTimeline (Requests.checkTunedIn user row sid now acc) := by
  unfold Requests.checkTunedIn
  infer_instance

instance {row tuneInExpiry now : Value} : KeepsTimeline (Requests.awaitTuneIn row tuneInExpiry now) := by
  unfold Requests.awaitTuneIn
  infer_instance

instance {user row sid now : Value} {u : User} {acc : Requests.Rebuild} :
    KeepsTimeline (Requests.checkRow user row sid now u acc) := by
  unfold Requests.checkRow
  infer_instance

instance {sid now : Value} {acc : Requests.Rebuild} {row : Value} : KeepsTimeline (Requests.placeRow sid now acc row) := by
  unfold Requests.placeRow
  infer_instance

instance {line sid now : Value} : KeepsTimeline (Requests.rebuildLine line sid now) := by
  unfold Requests.rebuildLine
  infer_instance

instance {line sid : Value} : KeepsTimeline (Requests.processLine line sid) := by
  unfold Requests.processLine; infer_instance

instance {sid : Value} : KeepsTimeline (Requests.updateLine sid) := by
  unfold Requests.updateLine; infer_instance

instance {row : Value} : KeepsTimeline (Requests.expiryOf row) := by
  unfold Requests.expiryOf; infer_instance

instance : KeepsTimeline Requests.updateExpireTimes := by
  unfold Requests.updateExpireTimes; infer_instance

instance {entry : Value} : KeepsTimeline (Requests.passOver entry) := by
  unfold Requests.passOver; infer_instance

instance {sid : Value} : KeepsTimeline (Requests.nextRequest sid) := by
  unfold Requests.nextRequest
  repeat' first | infer_instance | split | with_reducible refine bind_of ?_ fun _ => ?_ | refine forIn_of _ _ fun _ _ => ?_ | exact of_modify _ fun _ => rfl | dsimp only

/-! ## Elections -/

instance {kind : EventKind} {sid : Value} : KeepsTimeline (Elections.construct kind sid) := by
  unfold Elections.construct; infer_instance

instance {v : Value} : KeepsTimeline (Elections.songsOf v) := by
  unfold Elections.songsOf; infer_instance

instance {song : Value} : KeepsTimeline (Elections.songData song) := by
  unfold Elections.songData; infer_instance

instance {song : Value} {key : String} : KeepsTimeline (Elections.entryOf song key) := by
  unfold Elections.entryOf; infer_instance

instance {song : Value} {key : String} : KeepsTimeline (Elections.hasEntry song key) := by
  unfold Elections.hasEntry; infer_instance

instance {songId sid : Value} : KeepsTimeline (Elections.entrySong songId sid) := by
  unfold Elections.entrySong
  refine bind_of inferInstance fun _ => ?_
  split <;> infer_instance

instance {v sid songRow : Value} : KeepsTimeline (Elections.restoreEntry v sid songRow) := by
  unfold Elections.restoreEntry
  infer_instance

instance {kind : EventKind} {elecId : Value} : KeepsTimeline (Elections.load kind elecId) := by
  unfold Elections.load
  infer_instance

instance {kind : EventKind} {sid schedId : Value} : KeepsTimeline (Elections.create kind sid schedId) := by
  unfold Elections.create; infer_instance

instance {v song : Value} : KeepsTimeline (Elections.appendSong v song) := by
  unfold Elections.appendSong; infer_instance

instance {v song : Value} : KeepsTimeline (Elections.addSong v song) := by
  unfold Elections.addSong
  repeat' first | infer_instance | split | with_reducible refine bind_of ?_ fun _ => ?_

instance {interval : Bool} : KeepsTimeline (Elections.counter interval) := by
  unfold Elections.counter; infer_instance

instance {interval : Bool} {sid x : Value} : KeepsTimeline (Elections.setCounter interval sid x) := by
  unfold Elections.setCounter
  repeat' first | infer_instance | split | with_reducible refine bind_of ?_ fun _ => ?_ | refine forIn_of _ _ fun _ _ => ?_ | exact of_modify _ fun _ => rfl

instance {interval : Bool} {sid : Value} : KeepsTimeline (Elections.counterOf interval sid) := by
  unfold Elections.counterOf; infer_instance

instance {sid : Value} : KeepsTimeline (Elections.forceRequest sid) := by
  unfold Elections.forceRequest; infer_instance

instance {interval : Bool} {sid : Value} : KeepsTimeline (Elections.loadCounter interval sid) := by
  unfold Elections.loadCounter; infer_instance

instance {sid : Value} : KeepsTimeline (Elections.countDown sid) := by
  unfold Elections.countDown
  infer_instance

instance {sid : Value} : KeepsTimeline (Elections.requestDue sid) := by
  unfold Elections.requestDue; infer_instance

instance {v : Value} : KeepsTimeline (Elections.isRequestNeeded v) := by
  unfold Elections.isRequestNeeded; infer_instance

instance {sid : Value} : KeepsTimeline (Elections.lineLength sid) := by
  unfold Elections.lineLength; infer_instance

instance {v : Value} : KeepsTimeline (Elections.resetRequestSequence v) := by
  unfold Elections.resetRequestSequence
  infer_instance

instance {v : Value} : KeepsTimeline (Elections.takeRequest v) := by
  unfold Elections.takeRequest; infer_instance

instance {v : Value} : KeepsTimeline (Elections.addRequests v) := by
  unfold Elections.addRequests
  repeat' first | infer_instance | split | with_reducible refine bind_of ?_ fun _ => ?_

instance {v target : Value} : KeepsTimeline (Elections.drawSong v target) := by
  unfold Elections.drawSong; infer_instance

instance {v target : Value} : KeepsTimeline (Elections.nextTarget v target) := by
  unfold Elections.nextTarget
  repeat' first | infer_instance | split | with_reducible refine bind_of ?_ fun _ => ?_

instance {v target : Value} : KeepsTimeline (Elections.fillOne v target) := by
  unfold Elections.fillOne; infer_instance

instance {v target skipRequests : Value} : KeepsTimeline (Elections.fill v target skipRequests) := by
  unfold Elections.fill
  repeat' first | infer_instance | split | with_reducible refine bind_of ?_ fun _ => ?_ | refine forIn_of _ _ fun _ _ => ?_

instance {v : Value} : KeepsTimeline (Elections.prepare v) := by
  unfold Elections.prepare
  repeat' first | infer_instance | split | with_reducible refine bind_of ?_ fun _ => ?_ | refine forIn_of _ _ fun _ _ => ?_

instance {v : Value} : KeepsTimeline (Elections.start v) := by
  unfold Elections.start
  repeat' first | infer_instance | split | with_reducible refine bind_of ?_ fun _ => ?_ | refine forIn_of _ _ fun _ _ => ?_

instance {v : Value} : KeepsTimeline (Elections.playedSong v) := by
  unfold Elections.playedSong
  refine bind_of inferInstance fun _ => ?_
  split <;> infer_instance

instance {v : Value} : KeepsTimeline (Elections.playedFile v) := by
  unfold Elections.playedFile
  refine bind_of inferInstance fun _ => ?_
  split <;> infer_instance

instance {v : Value} : KeepsTimeline (Elections.length v) := by
  unfold Elections.length; infer_instance

instance {v : Value} : KeepsTimeline (Elections.finish v) := by
  unfold Elections.finish
  repeat' first | infer_instance | split | with_reducible refine bind_of ?_ fun _ => ?_

instance {v user : Value} {checkAcl : Bool} : KeepsTimeline (Elections.view v user checkAcl) := by
  unfold Elections.view
  split
  · refine bind_of inferInstance fun _ => ?_
    split <;> infer_instance
  · infer_instance

instance {v entryId : Value} : KeepsTimeline (Elections.entry v entryId) := by
  unfold Elections.entry
  repeat' first | infer_instance | split | with_reducible refine bind_of ?_ fun _ => ?_ | refine forIn_of _ _ fun _ _ => ?_ | exact of_modify _ fun _ => rfl | dsimp only

instance {v : Value} : KeepsTimeline (Elections.delete v) := by
  unfold Elections.delete; infer_instance

instance {v : Value} : KeepsTimeline (Elections.refreshVotes v) := by
  unfold Elections.refreshVotes; infer_instance

/-! ## Events of any kind -/

instance {v : Value} : KeepsTimeline (Schedule.isElectionEvent v) := by
  unfold Schedule.isElectionEvent; infer_instance

instance {v : Value} : KeepsTimeline (Schedule.eventLength v) := by
  unfold Schedule.eventLength; infer_instance

instance {v : Value} : KeepsTimeline (Schedule.prepareEvent v) := by
  unfold Schedule.prepareEvent; infer_instance

instance {v : Value} : KeepsTimeline (Schedule.startEvent v) := by
  unfold Schedule.startEvent; infer_instance

instance {v : Value} : KeepsTimeline (Schedule.finishEvent v) := by
  unfold Schedule.finishEvent; infer_instance

instance {v : Value} : KeepsTimeline (Schedule.eventSong v) := by
  unfold Schedule.eventSong; infer_instance

instance {v : Value} : KeepsTimeline (Schedule.eventFile v) := by
  unfold Schedule.eventFile; infer_instance

instance {v user : Value} {checkAcl : Bool} : KeepsTimeline (Schedule.eventView v user checkAcl) := by
  unfold Schedule.eventView; infer_instance

instance {v : Value} : KeepsTimeline (Schedule.deleteEvent v) := by
  unfold Schedule.deleteEvent; infer_instance

/-! ## Producers -/

instance {v : Value} : KeepsTimeline (Producers.producerOf v) := by
  unfold Producers.producerOf; infer_instance

instance {v : Value} {f : Producer → Producer} : KeepsTimeline (Producers.changeProducer v f) := by
  unfold Producers.changeProducer; infer_instance

instance {kind : ProducerKind} {sid : Value} : KeepsTimeline (Producers.construct kind sid) := by
  unfold Producers.construct
  split <;> infer_instance

instance {kind : ProducerKind} {sid : Value} : KeepsTimeline (Producers.make kind sid) := by
  unfold Producers.make; infer_instance

instance {schedId : Value} : KeepsTimeline (Producers.loadById schedId) := by
  unfold Producers.loadById
  repeat' first | infer_instance | split | with_reducible refine bind_of ?_ fun _ => ?_

instance {v : Value} : KeepsTimeline (Producers.start v) := by
  unfold Producers.start; infer_instance

instance {v : Value} : KeepsTimeline (Producers.finish v) := by
  unfold Producers.finish; infer_instance

instance {v : Value} : KeepsTimeline (Producers.nextOneUp v) := by
  unfold Producers.nextOneUp; infer_instance

instance {v target skipRequests : Value} : KeepsTimeline (Producers.fillNewElection v target skipRequests) := by
  unfold Producers.fillNewElection
  infer_instance

instance {v target skipRequests : Value} : KeepsTimeline (Producers.createElection v target skipRequests) := by
  unfold Producers.createElection
  refine bind_of inferInstance fun _ => ?_
  split <;> infer_instance

/-- The search for a playable election retries on empty ones, so the fact follows the fuel. -/
theorem nextElection_keepsTimeline {v target minElecId skipRequests : Value} (fuel : Nat) :
    KeepsTimeline (Producers.nextElection v target minElecId skipRequests fuel) := by
  induction fuel generalizing target minElecId skipRequests with
  | zero => unfold Producers.nextElection; infer_instance
  | succ fuel ih =>
    unfold Producers.nextElection
    infer_instance

instance {v target minElecId skipRequests : Value} {fuel : Nat} :
    KeepsTimeline (Producers.nextElection v target minElecId skipRequests fuel) :=
  nextElection_keepsTimeline fuel

instance {v : Value} : KeepsTimeline (Producers.hasNext v) := by
  unfold Producers.hasNext
  refine bind_of inferInstance fun _ => ?_
  split <;> infer_instance

instance {v target minElecId skipRequests : Value} : KeepsTimeline (Producers.loadNext v target minElecId skipRequests) := by
  unfold Producers.loadNext
  refine bind_of inferInstance fun _ => ?_
  split <;> infer_instance

/-! ## Reading and refreshing the timeline -/

instance {p : Timeline.Part} : KeepsTimeline (Timeline.table p) := by
  unfold Timeline.table; infer_instance

instance {p : Timeline.Part} {sid : Value} : KeepsTimeline (Timeline.partOf p sid) := by
  unfold Timeline.partOf; infer_instance

instance {p : Timeline.Part} {sid : Value} : KeepsTimeline (Timeline.eventsOf p sid) := by
  unfold Timeline.eventsOf; infer_instance

instance {e : Value} : KeepsTimeline (Timeline.isElection e) := by
  unfold Timeline.isElection; infer_instance

instance {sid atTime : Value} : KeepsTimeline (Timeline.producerAt sid atTime) := by
  unfold Timeline.producerAt
  repeat' first | infer_instance | split | with_reducible refine bind_of ?_ fun _ => ?_

instance {sid : Value} : KeepsTimeline (Timeline.stats sid) := by
  unfold Timeline.stats
  repeat' first | infer_instance | split | with_reducible refine bind_of ?_ fun _ => ?_ | refine forIn_of _ _ fun _ _ => ?_

instance {sid : Value} : KeepsTimeline (Timeline.averageLength sid) := by
  unfold Timeline.averageLength; infer_instance

instance {sid gap : Value} : KeepsTimeline (Timeline.aim sid gap) := by
  unfold Timeline.aim
  infer_instance

instance {sid : Value} : KeepsTimeline (Timeline.advancingEvent sid) := by
  unfold Timeline.advancingEvent; infer_instance

instance {sid : Value} : KeepsTimeline (Timeline.advancingFile sid) := by
  unfold Timeline.advancingFile; infer_instance

instance {action field : String} {v : Value} : KeepsTimeline (Timeline.announce action field v) := by
  unfold Timeline.announce; infer_instance

instance {e : Value} : KeepsTimeline (Timeline.isSpent e) := by
  unfold Timeline.isSpent; infer_instance

instance {sid : Value} : KeepsTimeline (Timeline.trim sid) := by
  unfold Timeline.trim
  infer_instance

instance {sid : Value} : KeepsTimeline (Timeline.updateLiveVoting sid) := by
  unfold Timeline.updateLiveVoting
  infer_instance

instance {sid : Value} : KeepsTimeline (Timeline.cacheSchedule sid) := by
  unfold Timeline.cacheSchedule
  repeat' first | infer_instance | split | with_reducible refine bind_of ?_ fun _ => ?_

instance {sid : Value} {events : List Value} : KeepsTimeline (Timeline.primeRatings sid events) := by
  unfold Timeline.primeRatings
  repeat' first | infer_instance | split | with_reducible refine bind_of ?_ fun _ => ?_ | refine forIn_of _ _ fun _ _ => ?_

instance {evt : Value} : KeepsTimeline (Timeline.djOf evt) := by
  unfold Timeline.djOf
  split <;> infer_instance

instance {sid : Value} : KeepsTimeline (Timeline.updateMemcache sid) := by
  unfold Timeline.updateMemcache
  repeat' first | infer_instance | split | with_reducible refine bind_of ?_ fun _ => ?_

instance {sid : Value} : KeepsTimeline (Timeline.readPartnerListing sid) := by
  unfold Timeline.readPartnerListing
  repeat' first | infer_instance | split | with_reducible refine bind_of ?_ fun _ => ?_

end Airwaves
