import Airwaves.Api.Now
import Airwaves.Api.Boot
import Airwaves.Api.Rating
import Airwaves.Api.Voting
import Airwaves.Api.Queue
import Airwaves.Api.Library
import Airwaves.Api.Listeners
import Airwaves.Api.Reports
import Airwaves.Api.Admin.Cooldown
import Airwaves.Api.Admin.Dj
import Airwaves.Api.Admin.Stats
import Airwaves.Api.Admin.Blocks
import Airwaves.Api.Admin.Library
/-!
# The endpoints by address

Every endpoint of the API, and the lookup of an endpoint by its address.
-/
namespace Airwaves.Api

/-- Every endpoint of the API. -/
def directory : List Endpoint :=
  [Now.info, Now.infoAll, Now.stations, Boot.bootstrap, Boot.bootstrapDj, Boot.helloWorld,
   Boot.testUser,
   Ratings.rate, Ratings.clearRating, Ratings.faveSong, Ratings.faveAlbum, Voting.submitVote,
   Queue.request, Queue.deleteRequest, Queue.orderRequests, Queue.requestUnrated,
   Queue.requestFavourites, Queue.clearRequests, Queue.pauseQueue, Queue.resumeQueue,
   Queue.requestLine,
   Library.allAlbums, Library.allArtists, Library.allGroups, Library.artist, Library.group,
   Library.album, Library.song, Library.allSongs, Library.unratedSongs, Library.top100,
   Library.allFaves, Library.playbackHistory, Library.stationSongCount, Library.requestedHistory,
   Library.recentVotes,
   People.listener, People.currentListeners, People.userInfo, People.userSearch, People.search,
   Reports.errorReport, Reports.scanErrors, Reports.tipJar, Reports.addDonation,
   Cooldowns.setSongCooldown, Cooldowns.resetSongCooldown, Cooldowns.setAlbumCooldown,
   Cooldowns.resetAlbumCooldown,
   Dj.pause, Dj.unpause, Dj.skip, Dj.changePassword, Dj.pauseTitle, Dj.heartbeat,
   Stats.listenerStats, Stats.listenerStatsByHour,
   Blocks.listProducers, Blocks.listProducersAll, Blocks.listProducerTypes, Blocks.createProducer,
   Blocks.changeProducerName, Blocks.changeProducerUrl, Blocks.changeProducerStart,
   Blocks.changeProducerEnd, Blocks.deleteProducer, Blocks.listPowerHours, Blocks.getPowerHour,
   Blocks.addSongToPowerHour, Blocks.addAlbumToPowerHour, Blocks.removeFromPowerHour,
   Blocks.shufflePowerHour, Blocks.moveUpInPowerHour, Blocks.getDjElection,
   Blocks.addToDjElection, Blocks.removeFromDjElection, Blocks.commitDjElection,
   Blocks.deleteElection,
   LibraryAdmin.removeGroupFromSong, LibraryAdmin.editGroupElectionBlock,
   LibraryAdmin.editGroupCooldown, LibraryAdmin.setSongRequestOnly, LibraryAdmin.adminRequestLine,
   LibraryAdmin.collectSong, LibraryAdmin.collectAlbum]

/-- The endpoint at an address. -/
def endpointAt? (url : String) : Option Endpoint := directory.find? (·.url == url)

end Airwaves.Api
