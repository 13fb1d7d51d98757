import Telephony.CodeSession.Basic
import Telephony.Console.Catalogue
import Telephony.Scenario.Rig
import Telephony.Switchboard.Basic

/-!
# Outcomes

What comes out of the steps of a scenario: the outcome of a step, and everything that could be seen
from outside while it was carried out.
-/

namespace Telephony.Scenario

/-- Everything the service knows about one modem. -/
structure View where
  modem : Option Modem.State
  sim : Option Sim.State
  network : Option Network.State
  data : Option PacketData.State
  deriving DecidableEq

/-- What an operation of the service gives when it succeeds. -/
inductive Payload where
  | unit
  | flag (on : Bool)
  | subscribed (topic : Topic)
  | operators (operators : List Network.Operator)
  | reply (reply : ServiceReply)
  | forwarding (forwarding : CallForwarding)
  deriving DecidableEq

inductive Outcome where
  | unit
  | flag (on : Bool)
  | result (result : Except Failure Payload)
  | command (result : Except Console.CommandError String)
  | accepted (call : Except Failure CallId)
  | cancellation (cancellation : Cancellation)
  | paths (paths : List ModemPath)
  | path (path : Option ModemPath)
  | dialled (codes : List (ModemPath × String))
  | registered (operators : List String)
  | view (view : View)
  | injected (sent : Bool) (changes : List Change)
  | session (stage : CodeSession.Stage) (retries : UInt32) (emergency : Bool)
  | stage (stage : CodeSession.Stage)
  /-- Whether an answer reached a dialog or was put by. -/
  | delivered (now : Bool)
  | batch (outcomes : List Outcome)
  | pending

/-- The place of a step in its scenario, and its place in a batch. -/
structure StepId where
  index : Nat
  part : Option Nat
  deriving DecidableEq, Repr

/-- Zero for a step itself, and more for a later part of it. -/
def StepId.rank (id : StepId) : Nat := (id.part.map (· + 1)).getD 0

/-- By place, and a step before its parts. -/
def StepId.before (a b : StepId) : Bool :=
  a.index < b.index || (a.index == b.index && a.rank ≤ b.rank)

instance : ToString StepId where
  toString id := match id.part with
    | none => toString id.index
    | some part => s!"{id.index}.{part}"

/-- What a code session shows, and where it stood then. -/
inductive Shown where
  | dialog (dialog : CodeSession.Dialog)
  | notice (notice : CodeSession.Notice)
  deriving DecidableEq, Repr

structure Display where
  shown : Shown
  stage : CodeSession.Stage
  retries : UInt32
  deriving DecidableEq, Repr

structure Sighting where
  name : String
  path : ModemPath
  news : News
  known : Bool
  deriving DecidableEq

structure Report where
  outcome : Outcome
  /-- Outcomes of earlier steps, and replies to requests that were only accepted at first. -/
  done : List (StepId × Outcome)
  seen : List Sighting
  calls : List DaemonCall
  displays : List Display
  /-- The last list of modems that was published, if the script follows it. -/
  roster : Option (List ModemPath)
  output : String
  errors : String

end Telephony.Scenario
