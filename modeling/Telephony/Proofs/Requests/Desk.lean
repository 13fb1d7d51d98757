import Mathlib.Algebra.Order.Group.Multiset
import Telephony.Proofs.CallIds
import Telephony.Service.Requests

/-!
# The request desk

A service as those see it who hand in requests. A run is any row of moves: requests come in for any
modem, calls are cancelled, the service takes in events and loads interfaces, drains of any epoch
begin, the jobs under way take turns in any order, and the daemon changes as it likes between them.

Each accepted request gets the next ticket. The books of a desk tell where the requests are: those
that wait, those that a drain has taken out of a queue and not yet sent, those in flight, and those
answered.
-/

namespace Telephony

variable {δ : Type}

/-! ### Where requests are -/

/-- The request that a drain has taken out of its queue and not yet sent. -/
def Job.taken? : Job → Option QueuedRequest
  | call _ => none
  | drain _ _ (.taken request) => some request
  | drain _ _ _ => none

/-- The call that a job has under way. -/
def Job.flight? : Job → Option Flight
  | call flight => some flight
  | drain _ _ (.sending flight) => some flight
  | drain _ _ _ => none

namespace Switchboard

/-- The requests that wait, each with the modem in whose queue it stands. -/
def waitingIn (modems : Table ModemPath Entry) : Multiset (ModemPath × QueuedRequest) :=
  (modems.entries.flatMap fun (path, entry) => entry.requests.queue.map (path, ·) : List _)

def waiting (board : Switchboard) : Multiset (ModemPath × QueuedRequest) :=
  waitingIn board.modems

end Switchboard

namespace Service

def taken (service : Service δ) : Multiset QueuedRequest :=
  (service.jobs.filterMap Job.taken? : List QueuedRequest)

def flights (service : Service δ) : Multiset Flight :=
  (service.jobs.filterMap Job.flight? : List Flight)

/-- Gives the job at an index a turn; what is left of it goes on last. -/
def turnAt [Daemon δ] (service : Service δ) (index : Nat) : Service δ :=
  match service.jobs[index]? with
  | none => service
  | some job =>
    let (rest, service) := { service with jobs := service.jobs.eraseIdx index }.turn job
    rest.elim service service.addJob

end Service

/-! ### Runs -/

/-- What may happen at a desk. -/
inductive Move (δ : Type) where
  | submit (path : ModemPath) (code : String)
  | listOperators (path : ModemPath) (scan : Bool)
  | cancel (id : CallId)
  | process (event : Event)
  /-- An interface is watched and loaded, whether or not this is due. -/
  | load (path : ModemPath) (interface : Interface)
  /-- A drain begins, of the current epoch or of any other. -/
  | replay (path : ModemPath) (epoch : UInt64)
  | turn (index : Nat)
  | flush
  /-- The daemon changes by itself. -/
  | daemon (next : δ)

structure Desk (δ : Type) where
  service : Service δ
  /-- The modem of each accepted request, in the order of the tickets. -/
  accepted : List ModemPath
  /-- The ids given out since no call was outstanding last. -/
  issued : Nat

namespace Desk

def opened (daemon : δ) : Desk δ := ⟨.stopped daemon, [], 0⟩

def board (desk : Desk δ) : Switchboard := desk.service.board

def calls (desk : Desk δ) : CallTable ModemPath := desk.board.calls

def ticket (desk : Desk δ) : Ticket := ⟨desk.accepted.length⟩

/-- The desk with the service as it is after a move. -/
def put (desk : Desk δ) (service : Service δ) : Desk δ :=
  { desk with service, issued := if service.board.calls.isEmpty then 0 else desk.issued }

/-- Notes that a request was accepted, if it was. -/
def accept (desk : Desk δ) (path : ModemPath) :
    Except Failure CallId × Service δ → Desk δ
  | (.ok _, service) =>
    { desk with accepted := desk.accepted ++ [path], issued := desk.issued + 1 }.put service
  | (.error _, service) => desk.put service

variable [Daemon δ]

def step (desk : Desk δ) : Move δ → Desk δ
  | .submit path code => desk.accept path (desk.service.submit path code desk.ticket)
  | .listOperators path scan =>
    desk.accept path (desk.service.listOperators path scan desk.ticket)
  | .cancel id => desk.put (desk.service.cancel id).2
  | .process event => desk.put (desk.service.process event)
  | .load path interface => desk.put (desk.service.execute (.ofEffect (.watch path interface)))
  | .replay path epoch => desk.put (desk.service.execute (.ofEffect (.replay path epoch)))
  | .turn index => desk.put (desk.service.turnAt index)
  | .flush => desk.put desk.service.flush
  | .daemon next => desk.put { desk.service with daemon := next }

def run (desk : Desk δ) (moves : List (Move δ)) : Desk δ := moves.foldl step desk

end Desk

end Telephony
