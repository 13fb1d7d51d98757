import Telephony.CodeSession.Open
import Telephony.Proofs.News.Listeners
import Telephony.Proofs.Requests.Desk
import Telephony.Proofs.Subscriptions.Standing

/-!
# Service and users

A service together with what its users hold of it: the registrations they made and closed, the code
session they opened, the requests they handed in. A run is any row of uses, each of which ends before
the next begins; between them requests proceed, events come in while the service runs, and the daemon
changes as it likes.
-/

namespace Telephony

variable {δ : Type}

/-- The subscription was granted, and has since been neither ended nor dropped with the
connection. -/
def Recorded.Held (record : List Asked) (path : ModemPath) (interface : Interface) : Prop :=
  Standing record path interface ∧ GrantedSince record path interface .disconnect

/-- The ids of the calls to which answers were given, by the ids of the tickets. -/
def answeredIds (ids : List CallId) (answers : List (Ticket × Answer)) : List CallId :=
  answers.filterMap fun (ticket, _) => ids[ticket.number]?

inductive Use (δ : Type) where
  | get
  | register (topic : Topic) (listener : Listener)
  | close (subscription : Subscription)
  | destroy
  | openSession (number : Nat) (options : CodeOptions) (startup : Bool)
  | closeSession
  /-- The session is let go of, and the service not looked at. -/
  | dropSession
  | submit (path : ModemPath) (code : String)
  | listOperators (path : ModemPath) (scan : Bool)
  /-- A job takes a turn, by which a request may be answered. -/
  | turn (index : Nat)
  | process (event : Event)
  | flush
  /-- The daemon changes by itself. -/
  | daemon (next : δ)

structure Usage (δ : Type) where
  service : Service (Recorded δ)
  /-- The id under which each request was accepted, in the order of the tickets. -/
  ids : List CallId
  /-- The ids given out whose calls have not been answered. An id given out anew while it is
  outstanding stands for one call. -/
  outstanding : List CallId
  /-- All registrations ever made, those of code sessions included. -/
  made : Registrations
  closed : List Subscription
  session : Option CodeSession

namespace Usage

def opened (daemon : δ) : Usage δ := ⟨.stopped ⟨daemon, []⟩, [], [], [], [], none⟩

def ticket (usage : Usage δ) : Ticket := ⟨usage.ids.length⟩

/-- The registrations that were made and have not been closed. -/
def registered (usage : Usage δ) : Registrations :=
  usage.made.filter fun (subscription, _) => subscription ∉ usage.closed

/-- The ids of the calls that have been answered on the way to a later service. -/
def completed (usage : Usage δ) (service : Service (Recorded δ)) : List CallId :=
  answeredIds usage.ids (service.answered.drop usage.service.answered.length)

def put (usage : Usage δ) (service : Service (Recorded δ)) : Usage δ :=
  { usage with
    service
    outstanding := usage.outstanding.filter fun id => id ∉ usage.completed service }

/-- Notes that a request was accepted, if it was. -/
def accept (usage : Usage δ) : Except Failure CallId × Service (Recorded δ) → Usage δ
  | (.ok id, service) =>
    { usage.put service with
      ids := usage.ids ++ [id]
      outstanding := (usage.put service).outstanding ++ [id] }
  | (.error _, service) => usage.put service

/-- The session goes, and its registrations with it. -/
def part (usage : Usage δ) (leave : CodeSession → Service (Recorded δ)) : Usage δ :=
  match usage.session with
  | none => usage
  | some session =>
    { usage.put (leave session) with
      closed := usage.closed ++ session.subscriptions
      session := none }

variable [Daemon δ]

def step (usage : Usage δ) : Use δ → Usage δ
  | .get => usage.put usage.service.start.2
  | .register topic listener =>
    match usage.service.subscribe topic listener with
    | (.ok subscription, service) =>
      { usage.put service with made := usage.made ++ [(subscription, listener)] }
    | (.error _, service) => usage.put service
  | .close subscription =>
    match usage.service.close subscription with
    | (.ok (), service) => { usage.put service with closed := usage.closed ++ [subscription] }
    | (.error _, service) => usage.put service
  | .destroy => usage.put usage.service.stop.2
  | .openSession number options startup =>
    match usage.service.openSession number options startup with
    | (.ok session, service) =>
      { usage.put service with
        made := usage.made ++ session.subscriptions.map (·, .session number)
        session := some session }
    | (.error _, service) => usage.put service
  | .closeSession => usage.part usage.service.closeSession
  | .dropSession => usage.part fun session =>
      usage.service.releaseSession session.subscriptions
  | .submit path code => usage.accept (usage.service.submit path code usage.ticket)
  | .listOperators path scan => usage.accept (usage.service.listOperators path scan usage.ticket)
  | .turn index => usage.put (usage.service.turnAt index)
  | .process event => if usage.service.running then usage.put (usage.service.process event) else usage
  | .flush => if usage.service.running then usage.put usage.service.flush else usage
  | .daemon next =>
    usage.put { usage.service with daemon := { usage.service.daemon with daemon := next } }

def run (usage : Usage δ) (uses : List (Use δ)) : Usage δ := uses.foldl step usage

end Usage

end Telephony
