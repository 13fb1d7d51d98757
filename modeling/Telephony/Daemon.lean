import Telephony.SecurityCode
import Telephony.SupplementaryService
import Telephony.Switchboard.Basic

/-!
# Daemons

What the modem service needs of a modem daemon, for any type `δ` of daemon states. Each operation
takes the state of the daemon and gives the answer together with the state after it, so nothing is
assumed of a daemon but that it answers.

Listing operators and dialling a service string take their time: such an errand is begun at once,
and then polled until its answer is there.
-/

namespace Telephony

/-- Operations that the daemon takes its time for. -/
inductive Errand where
  | dial (code : String)
  | listOperators (scan : Bool)
  deriving DecidableEq, Repr

inductive Answer where
  | reply (result : Except Failure ServiceReply)
  | operators (result : Except Failure (List Network.Operator))

def Errand.failed (failure : Failure) : Errand → Answer
  | dial _ => .reply (.error failure)
  | listOperators _ => .operators (.error failure)

class Daemon (δ : Type) where
  /-- Starts the flow of events and lists the modems that are there, with their properties. -/
  connect : δ → Except Failure (List (ModemPath × List Change)) × δ
  disconnect : δ → δ
  /-- The events sent since they were last asked for, the oldest first. -/
  receive : δ → List Event × δ
  watch : ModemPath → Interface → δ → Except Failure Unit × δ
  unwatch : ModemPath → Interface → δ → δ
  properties : ModemPath → Interface → δ → Except Failure (List Change) × δ
  setSwitch : ModemPath → Switch → Bool → δ → Except Failure Unit × δ
  enterPin : ModemPath → SecurityCode → String → δ → Except Failure Unit × δ
  resetPin : ModemPath → SecurityCode → String → String → δ → Except Failure Unit × δ
  changePin : ModemPath → SecurityCode → String → String → δ → Except Failure Unit × δ
  lockPin : ModemPath → SecurityCode → String → δ → Except Failure Unit × δ
  unlockPin : ModemPath → SecurityCode → String → δ → Except Failure Unit × δ
  registerOperator : String → δ → Except Failure Unit × δ
  registerAutomatically : ModemPath → δ → Except Failure Unit × δ
  /-- Begins an errand; one that cannot begin is answered at once. -/
  begin : ModemPath → Errand → δ → Option Answer × δ
  /-- The answer to an errand that has begun, if it is there. -/
  poll : ModemPath → Errand → δ → Option Answer × δ

end Telephony
