import Airwaves.Clock.Relative
import Airwaves.Protocol
import Airwaves.Script.Builtins
import Airwaves.Proofs.AnonymousListeners
import Airwaves.Proofs.BrowserLocale
import Airwaves.Proofs.CooldownPreparation
import Airwaves.Proofs.DelayedVotes
import Airwaves.Proofs.ElectionQueueRemoval
import Airwaves.Proofs.ErrorReports
import Airwaves.Proofs.EventLength
import Airwaves.Proofs.GroupDisplay
import Airwaves.Proofs.IntegerLists
import Airwaves.Proofs.ListenerRefresh
import Airwaves.Proofs.NumericFields
import Airwaves.Proofs.OrdinalSuffix
import Airwaves.Proofs.PageLimit
import Airwaves.Proofs.PhraseTemplates
import Airwaves.Proofs.PowerHourReorder
import Airwaves.Proofs.QueueOrder
import Airwaves.Proofs.RatingCache
import Airwaves.Proofs.RatingRange
import Airwaves.Proofs.RequestChecks
import Airwaves.Proofs.RequestRhythm
import Airwaves.Proofs.SearchText
import Airwaves.Proofs.StationZero
import Airwaves.Proofs.VoteWrites
