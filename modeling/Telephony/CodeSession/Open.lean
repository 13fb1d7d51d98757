import Telephony.CodeSession.Machine
import Telephony.Service.Controls

/-!
# Code sessions on a service

How a session begins and ends on a modem service, and how its attempts reach the SIM.
-/

namespace Telephony

namespace CodeSession

/-- What a new session already knows of the SIM it serves. -/
def firstNotes (board : Switchboard) (modem : Option ModemPath) : List Note :=
  match modem.bind fun path => (board.sim? path).map (path, ·) with
  | none => []
  | some (path, sim) =>
    .status path sim.status :: if sim.status.needsCode then [.codeQuery path sim.status] else []

def new (board : Switchboard) (options : CodeOptions) (startup : Bool)
    (subscriptions : List Subscription) : CodeSession :=
  let modem := options.modem <|> board.defaultModem
  { stage := if startup then .startup else .none
    retries := 0
    active := true
    emergency := false
    assigned := modem
    followed := modem
    lastStatus := .unknown
    cachedCode := none
    correctCommand := options.correctCommand
    emergencyNumbers := options.emergencyNumbers
    subscriptions
    phase := .idle
    notes := firstNotes board modem }

def noteOf (path : ModemPath) : News → Option Note
  | .sim state => some (.status path state.status)
  | .codeQuery status => some (.codeQuery path status)
  | _ => none

end CodeSession

namespace Service

open CodeSession

variable {δ : Type} [Daemon δ]

def subscribeSession (service : Service δ) (number : Nat) :
    Except Failure (List Subscription) × Service δ :=
  match service.subscribe .sim (.session number) with
  | (.error failure, service) => (.error failure, service)
  | (.ok status, service) =>
    match service.subscribe .codeQuery (.session number) with
    | (.error failure, service) => (.error failure, (service.close status).2)
    | (.ok query, service) => (.ok [status, query], service)

/-- Opens a code session, unless one is open or the service cannot be started. -/
def openSession (service : Service δ) (number : Nat) (options : CodeOptions) (startup : Bool) :
    Except Failure CodeSession × Service δ :=
  match service.beginSession with
  | (.error failure, service) => (.error failure, service)
  | (.ok (), service) =>
    match service.subscribeSession number with
    | (.error failure, service) => (.error failure, service.endSession)
    | (.ok subscriptions, service) =>
      (.ok (CodeSession.new service.board options startup subscriptions), service)

/-- Closes a code session and stops the service if nothing else needs it. -/
def closeSession (service : Service δ) (session : CodeSession) : Service δ :=
  (service.releaseSession session.subscriptions).stop.2

def attempt (service : Service δ) : Attempt → Except Failure Unit × Service δ
  | .enter path code pin _ => service.enterPin path code pin
  | .reset path code puk newPin _ => service.resetPin path code puk newPin
  | .change path current newPin _ => service.changePin path .pin current newPin

end Service

end Telephony
