import Telephony.Service.Basic

/-!
# Requests

Calls that take their time. A request is accepted under a ticket and answered under it exactly once,
unless it is cancelled while it still waits for its interface: such a request is never sent and
never answered. A request under way that is cancelled is answered as canceled.
-/

namespace Telephony.Service

variable {δ : Type}

def addJob (service : Service δ) (job : Job) : Service δ :=
  { service with jobs := service.jobs ++ [job] }

def submit (service : Service δ) (path : ModemPath) (code : String) (ticket : Ticket) :
    Except Failure CallId × Service δ :=
  match service.board.submit path code ticket with
  | .error failure => (.error failure, service)
  | .ok (.queued id, board) => (.ok id, { service with board })
  | .ok (.dispatch id token, board) =>
    (.ok id, addJob { service with board } (.call ⟨id, path, .dial code, token, ticket, false⟩))

/-- Accepts a request in words; a malformed number is refused before the modem is looked at. -/
def request (service : Service δ) (path : ModemPath) (request : ServiceRequest)
    (ticket : Ticket) : Except Failure CallId × Service δ :=
  match request.check with
  | .error failure => (.error failure, service)
  | .ok () => service.submit path request.code ticket

def listOperators (service : Service δ) (path : ModemPath) (scan : Bool) (ticket : Ticket) :
    Except Failure CallId × Service δ :=
  match service.board.require path .networkRegistration with
  | .error failure => (.error failure, service)
  | .ok () =>
    let (id, token, board) := service.board.beginCall path
    (.ok id, addJob { service with board }
      (.call ⟨id, path, .listOperators scan, token, ticket, false⟩))

def cancel (service : Service δ) (id : CallId) : Cancellation × Service δ :=
  let (cancellation, board) := service.board.cancel id
  (cancellation, { service with board })

def complete (service : Service δ) (flight : Flight) (answer : Answer) : Service δ :=
  { service with board := service.board.finishCall flight.id }.answer flight.ticket answer

variable [Daemon δ]

/-- Asks the daemon for the answer to a call, which is begun first if it has not been. -/
def askAnswer (service : Service δ) (flight : Flight) : Option Answer × Service δ :=
  let (refusal, daemon) := if flight.begun then (none, service.daemon)
    else Daemon.begin flight.path flight.errand service.daemon
  match refusal with
  | some answer => (some answer, { service with daemon })
  | none =>
    let (answer, daemon) := Daemon.poll flight.path flight.errand daemon
    (answer, { service with daemon })

/-- Takes a call as far as it goes; what is left of it is still under way. The signal to stop comes
before everything else. -/
def advance (service : Service δ) (flight : Flight) : Option Flight × Service δ :=
  if service.board.isSignalled flight.token then
    (none, service.complete flight (flight.errand.failed .canceled))
  else
    match service.askAnswer flight with
    | (some answer, service) => (none, service.complete flight answer)
    | (none, service) => (some { flight with begun := true }, service)

/-- One turn of a job, and what is left of it. A drain takes its next request out of the queue, gives
the one that it has taken its token, or takes the one under way as far as it goes. -/
def turn (service : Service δ) : Job → Option Job × Service δ
  | .call flight =>
    let (rest, service) := service.advance flight
    (rest.map .call, service)
  | .drain path epoch .seeking =>
    let (request, board) := service.board.nextQueued path epoch
    (request.map fun request => .drain path epoch (.taken request), { service with board })
  | .drain path epoch (.taken request) =>
    let (token, board) := service.board.arm request.id
    let stage := match token with
      | some token =>
        .sending ⟨request.id, path, .dial request.code, token, request.ticket, false⟩
      | none => .seeking
    (some (.drain path epoch stage), { service with board })
  | .drain path epoch (.sending flight) =>
    let (rest, service) := service.advance flight
    let stage := match rest with
      | some flight => .sending flight
      | none => .seeking
    (some (.drain path epoch stage), service)

/-- Whether a job waits for its answer and can do nothing else. -/
def isHeld : Job → Bool
  | .call flight => flight.begun
  | .drain _ _ (.sending flight) => flight.begun
  | .drain _ _ _ => false

/-- Gives a job turns until it is held or done. The requests left in its queue bound the turns that
it needs. -/
def runJob : Nat → Service δ → Job → Option Job × Service δ
  | 0, service, job => (some job, service)
  | fuel + 1, service, job =>
    match service.turn job with
    | (none, service) => (none, service)
    | (some job, service) => if isHeld job then (some job, service) else runJob fuel service job

/-- Turns that a job can need: three for each waiting request, and some to begin and to end. -/
def turnsNeeded (service : Service δ) : Job → Nat
  | .call _ => 1
  | .drain path _ _ =>
    3 * ((service.board.entry? path).map (·.requests.queue.length)).getD 0 + 3

/-- Gives every job its turns, in the order in which the jobs began. -/
def runJobs (service : Service δ) : Service δ :=
  service.jobs.foldl (fun service job =>
    match runJob (service.turnsNeeded job) service job with
    | (some job, service) => service.addJob job
    | (none, service) => service) { service with jobs := [] }

end Telephony.Service
