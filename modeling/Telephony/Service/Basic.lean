import Telephony.Daemon

/-!
# The modem service

A switchboard kept in step with a daemon. The service is started when it is first needed and can be
stopped once nobody needs it. Events are taken in by `process`, which also carries out what the
switchboard asks for; `wake` takes in a burst of events and then makes out the news, so that a burst
is told once.

Deliveries made and answers given are written down in the order in which they were made; whoever
runs the service collects them.
-/

namespace Telephony

/-- A value that others follow; every change of it gets a number. -/
structure Published (α : Type) where
  value : α
  version : Nat
  deriving DecidableEq, Repr

/-- Publishes a value, unless it is the one already there. -/
def Published.set {α : Type} [DecidableEq α] (published : Published α) (value : α) : Published α :=
  if value = published.value then published else ⟨value, published.version + 1⟩

/-- A piece of news as one listener hears it. `known` tells whether the modem was in the table at
that moment; when a modem goes, its last news come after it has left the table. -/
structure Hearing where
  listener : Listener
  path : ModemPath
  news : News
  known : Bool
  deriving DecidableEq

structure Flight where
  id : CallId
  path : ModemPath
  errand : Errand
  token : Token
  ticket : Ticket
  begun : Bool
  deriving DecidableEq, Repr

/-- How far a drain has come: it looks for its next request, it has taken one out of the queue, or
it has one under way. -/
inductive DrainStage where
  | seeking
  | taken (request : QueuedRequest)
  | sending (flight : Flight)
  deriving DecidableEq, Repr

/-- The ticket of the request that a drain is busy with. -/
def DrainStage.ticket? : DrainStage → Option Ticket
  | seeking => none
  | taken request => some request.ticket
  | sending flight => some flight.ticket

/-- Work that goes on beside the event loop: a single call, or the drain of the requests that waited
for an interface, which sends one at a time. -/
inductive Job where
  | call (flight : Flight)
  | drain (path : ModemPath) (epoch : UInt64) (stage : DrainStage)
  deriving DecidableEq, Repr

def Job.ticket? : Job → Option Ticket
  | call flight => some flight.ticket
  | drain _ _ stage => stage.ticket?

structure Service (δ : Type) where
  daemon : δ
  board : Switchboard
  running : Bool
  roster : Published (List ModemPath)
  jobs : List Job
  heard : List Hearing
  answered : List (Ticket × Answer)

namespace Service

variable {δ : Type}

def stopped (daemon : δ) : Service δ := ⟨daemon, ∅, false, ⟨[], 0⟩, [], [], []⟩

def deliver (service : Service δ) (delivery : Delivery) : Service δ :=
  { service with
    heard := service.heard ++ delivery.listeners.map fun listener =>
      ⟨listener, delivery.path, delivery.news, service.board.knows delivery.path⟩ }

def deliverAll (service : Service δ) (deliveries : List Delivery) : Service δ :=
  deliveries.foldl deliver service

def answer (service : Service δ) (ticket : Ticket) (answer : Answer) : Service δ :=
  { service with answered := service.answered ++ [(ticket, answer)] }

variable [Daemon δ]

/-! ### Events -/

/-- Subscribes to an interface, loads its properties, and takes them in. -/
def load (service : Service δ) (path : ModemPath) (interface : Interface) :
    Service δ × List Effect :=
  let (result, daemon) := match Daemon.watch path interface service.daemon with
    | (.ok (), daemon) => Daemon.properties path interface daemon
    | (.error failure, daemon) => (.error failure, daemon)
  let (board, outcome) := service.board.loaded path interface result
  (deliverAll { service with daemon, board } outcome.deliveries, outcome.effects)

/-- Carries out one effect; loading an interface may ask for more. -/
def carryOut (service : Service δ) : Effect → Service δ × List Effect
  | .watch path interface => service.load path interface
  | .unwatch path interface =>
    ({ service with daemon := Daemon.unwatch path interface service.daemon }, [])
  | .replay path epoch => ({ service with jobs := service.jobs ++ [.drain path epoch .seeking] }, [])
  | .fail path requests =>
    (requests.foldl (fun service request =>
      service.answer request.ticket (.reply (.error (.modemNotFound path)))) service, [])

/-- Carries out effects in order and gathers what they ask for. -/
def carryOutAll (service : Service δ) : List Effect → Service δ × List Effect
  | [] => (service, [])
  | effect :: rest =>
    let (service, more) := service.carryOut effect
    let (service, others) := service.carryOutAll rest
    (service, more ++ others)

/-- Carries out effects, then those that they ask for, and so on to the given depth. -/
def settleEffects : Nat → Service δ → List Effect → Service δ
  | 0, service, _ => service
  | depth + 1, service, effects =>
    let (service, more) := service.carryOutAll effects
    settleEffects depth service more

/-- Makes the deliveries and carries out the effects of an outcome. Three rounds are enough for
daemons that answer only with changes of the interface that they are asked about (see `works_iff`):
loading a modem may ask for its interfaces, loading these for a drain or for an end of the
subscription, and those ask for nothing. -/
def execute (service : Service δ) (outcome : Outcome) : Service δ :=
  settleEffects 3 (service.deliverAll outcome.deliveries) outcome.effects

def process (service : Service δ) (event : Event) : Service δ :=
  let (board, outcome) := service.board.apply event
  { service with board }.execute outcome

omit [Daemon δ] in
/-- Tells all news that are due, and publishes the list of modems. -/
def flush (service : Service δ) : Service δ :=
  let (board, deliveries) := service.board.flush
  let service := deliverAll { service with board } deliveries
  { service with roster := service.roster.set board.paths }

/-- Takes in a burst of events, then tells the news. -/
def wake (service : Service δ) (burst : List Event) : Service δ :=
  (burst.foldl process service).flush

/-- Takes in and tells everything that the daemon has sent so far. A stopped service has nothing to
settle. -/
def settle (service : Service δ) : Service δ :=
  if service.running then
    let (burst, daemon) := Daemon.receive service.daemon
    { service with daemon }.wake burst
  else service

/-! ### Life cycle -/

/-- Starts the service unless it runs: every modem that is there is taken in with all its interfaces
before anything else happens. If the daemon cannot be reached the service stays stopped. -/
def start (service : Service δ) : Except Failure Unit × Service δ :=
  if service.running then (.ok (), service)
  else
    match Daemon.connect service.daemon with
    | (.error failure, daemon) => (.error failure, { service with daemon })
    | (.ok modems, daemon) =>
      let service := modems.foldl (fun service (path, properties) =>
        service.process (.modemAdded path properties)) { service with daemon }
      (.ok (), { service.flush with running := true })

/-- Stops the service if it runs and nobody needs it; tells whether it did. -/
def stop (service : Service δ) : Bool × Service δ :=
  if service.board.isIdle && service.running then
    let (board, outcome) := service.board.clear
    let service := { service with board }.execute outcome
    (true, { service with
      daemon := Daemon.disconnect service.daemon
      running := false
      roster := service.roster.set [] })
  else (false, service)

omit [Daemon δ] in
/-- Enters a listener into the list of a topic, whether or not the service runs. -/
def enlist (service : Service δ) (topic : Topic) (listener : Listener) :
    Subscription × Service δ :=
  let (subscription, board) := service.board.subscribe topic listener
  (subscription, { service with board })

def subscribe (service : Service δ) (topic : Topic) (listener : Listener) :
    Except Failure Subscription × Service δ :=
  match service.start with
  | (.error failure, service) => (.error failure, service)
  | (.ok (), service) =>
    let (subscription, service) := service.enlist topic listener
    (.ok subscription, service)

omit [Daemon δ] in
/-- Strikes a listener out, whether or not the service runs. -/
def delist (service : Service δ) (subscription : Subscription) : Bool × Service δ :=
  let (found, board) := service.board.unsubscribe subscription
  (found, { service with board })

/-- Closes a registration, and stops the service if it was the last. -/
def close (service : Service δ) (subscription : Subscription) :
    Except Failure Unit × Service δ :=
  match service.delist subscription with
  | (false, service) => (.error .observerNotFound, service)
  | (true, service) => (.ok (), service.stop.2)

omit [Daemon δ] in
def beginSession (service : Service δ) : Except Failure Unit × Service δ :=
  match service.board.beginSession with
  | .error failure => (.error failure, service)
  | .ok board => (.ok (), { service with board })

def endSession (service : Service δ) : Service δ :=
  { service with board := service.board.endSession }.stop.2

omit [Daemon δ] in
def releaseSession (service : Service δ) (subscriptions : List Subscription) : Service δ :=
  { service with board := service.board.releaseSession subscriptions }

end Service

end Telephony
