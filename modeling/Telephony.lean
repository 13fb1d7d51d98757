import Telephony.Link.Methods
import Telephony.Link.Script
import Telephony.Main
import Telephony.Scenario.Encoding
import Telephony.Settings.Load
import Telephony.Wire.Signature
import Telephony.Proofs.CallIds
import Telephony.Proofs.Requests.Desk
import Telephony.Proofs.Requests.Queues
import Telephony.Proofs.Requests.Ledger
import Telephony.Proofs.Requests.Steps
import Telephony.Proofs.Requests.Conservation
import Telephony.Proofs.Requests.Cancellation
import Telephony.Proofs.Sessions.Dialogue
import Telephony.Proofs.Sessions.Dismissal
import Telephony.Proofs.Coherence.Fields
import Telephony.Proofs.Coherence.Holdings
import Telephony.Proofs.Coherence.Effects
import Telephony.Proofs.Coherence.Taking
import Telephony.Proofs.Coherence.Arrival
import Telephony.Proofs.Coherence.Loop
import Telephony.Proofs.Coherence.Order
import Telephony.Proofs.Coherence.Steadiness
import Telephony.Proofs.Coherence.Script
import Telephony.Proofs.Coherence.Runs
import Telephony.Proofs.Coherence.Start
import Telephony.Proofs.Sessions.Reopening
import Telephony.Proofs.Sessions.Prompting
import Telephony.Proofs.Sessions.Switching
import Telephony.Proofs.Sessions.Muting
import Telephony.Proofs.Sessions.Footing
import Telephony.Proofs.Sessions.Emergencies
import Telephony.Proofs.Sessions.Flows
import Telephony.Proofs.Sessions.Bulletins
import Telephony.Proofs.Operations
import Telephony.Proofs.News.Coalescing
import Telephony.Proofs.News.Departures
import Telephony.Proofs.Requests.Isolation
import Telephony.Proofs.Codes.Confirmation
import Telephony.Proofs.Subscriptions.Upkeep
import Telephony.Proofs.Codes.Blame
import Telephony.Proofs.Codes.Spending
import Telephony.Proofs.Lifecycle.Interleaving
import Telephony.Proofs.Lifecycle.Reliance
import Telephony.Proofs.CallHistories
import Telephony.Proofs.Consistency
import Telephony.Proofs.News.CodeQueries
import Telephony.Proofs.AnyOrder
import Telephony.Proofs.Sessions.Notices
import Telephony.Proofs.Dialling.ReadBack
import Telephony.Proofs.Codes.Blocking
import Telephony.Proofs.News.FanOuts
import Telephony.Proofs.Wire.Changes
import Telephony.Proofs.Wire.Replies
import Telephony.Proofs.Console.Planning
import Telephony.Proofs.Console.Arguments
import Telephony.Proofs.Console.Refusals
import Telephony.Proofs.Settings.Keys
import Telephony.Proofs.Console.Outcomes
