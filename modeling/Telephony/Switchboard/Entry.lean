import Telephony.CallTable
import Telephony.Switchboard.Observers

/-!
# The entry of one modem

Everything kept about one modem: its state, the states of its attached interfaces, each with a mark
that news of it is due, and the supplementary-service requests that wait for the interface.

A change sets a state and marks it; the news themselves are made out later, once for all changes of
a burst. Only the end of an interface is told at once, by its untracked state. What has to be asked
of the daemon comes back as a list of effects.
-/

namespace Telephony

/-- A state and whether news of it is due. -/
structure Tracker (α : Type) where
  state : α
  due : Bool
  deriving DecidableEq, Repr

namespace Tracker

variable {α : Type}

def new (state : α) : Tracker α := ⟨state, false⟩

def mark (tracker : Tracker α) : Tracker α := { tracker with due := true }

def told (tracker : Tracker α) : Tracker α := { tracker with due := false }

def modify (tracker : Tracker α) (f : α → α) : Tracker α := ⟨f tracker.state, true⟩

end Tracker

/-- A SIM's tracker remembers the status it had when its news were last made out. -/
structure SimTracker where
  tracker : Tracker Sim.State
  lastStatus : Sim.Status
  deriving DecidableEq

namespace SimTracker

def new : SimTracker := ⟨.new .fresh, .unknown⟩

def mark (sim : SimTracker) : SimTracker := { sim with tracker := sim.tracker.mark }

/-- The status to ask a code for: one that needs a code and was not there the last time. -/
def codeQuery (sim : SimTracker) : Option Sim.Status :=
  let status := sim.tracker.state.status
  if status.needsCode && status != sim.lastStatus then some status else none

def told (sim : SimTracker) : SimTracker :=
  ⟨sim.tracker.told, sim.tracker.state.status⟩

end SimTracker

/-- Known to the party that waits for an answer; the answer is given under it. -/
structure Ticket where
  number : Nat
  deriving DecidableEq, Repr

/-- A service request that has been accepted and not yet sent. -/
structure QueuedRequest where
  id : CallId
  code : String
  ticket : Ticket
  deriving DecidableEq, Repr

/-- How service requests of a modem proceed: they wait while the interface is away; after it has
come, those that waited are sent one by one and new ones queue up behind them; then requests go
straight to the daemon. The epoch tells one such drain from another. -/
inductive Requests where
  | pending (queue : List QueuedRequest)
  | draining (queue : List QueuedRequest) (epoch : UInt64)
  | direct
  deriving DecidableEq, Repr

def Requests.queue : Requests → List QueuedRequest
  | pending queue => queue
  | draining queue _ => queue
  | direct => []

def Requests.isPending : Requests → Bool
  | pending _ => true
  | _ => false

/-- What is to be done outside, in the order of the list. -/
inductive Effect where
  /-- Subscribe to an interface and load its properties. -/
  | watch (path : ModemPath) (interface : Interface)
  | unwatch (path : ModemPath) (interface : Interface)
  /-- Send the requests that waited, one at a time. -/
  | replay (path : ModemPath) (epoch : UInt64)
  /-- Answer the requests that waited for a modem now gone. -/
  | fail (path : ModemPath) (requests : List QueuedRequest)
  deriving DecidableEq, Repr

structure Outcome where
  effects : List Effect
  deliveries : List Delivery
  deriving DecidableEq

namespace Outcome

def empty : Outcome := ⟨[], []⟩

instance : EmptyCollection Outcome := ⟨empty⟩
instance : Inhabited Outcome := ⟨empty⟩

def ofEffect (effect : Effect) : Outcome := ⟨[effect], []⟩

/-- First what the one asks for, then what the other does. -/
def append (a b : Outcome) : Outcome := ⟨a.effects ++ b.effects, a.deliveries ++ b.deliveries⟩

instance : Append Outcome := ⟨append⟩

@[simp] theorem effects_append (a b : Outcome) : (a ++ b).effects = a.effects ++ b.effects := rfl

@[simp] theorem deliveries_append (a b : Outcome) :
    (a ++ b).deliveries = a.deliveries ++ b.deliveries := rfl

@[simp] theorem effects_empty : (∅ : Outcome).effects = [] := rfl

@[simp] theorem deliveries_empty : (∅ : Outcome).deliveries = [] := rfl

end Outcome

structure Entry where
  modem : Tracker Modem.State
  sim : Option SimTracker
  network : Option (Tracker Network.State)
  data : Option (Tracker PacketData.State)
  requests : Requests
  voice : Bool
  deriving DecidableEq

namespace Entry

def new : Entry where
  modem := .new .fresh
  sim := none
  network := none
  data := none
  requests := .pending []
  voice := false

instance : Inhabited Entry := ⟨new⟩

def attached (entry : Entry) : Interface → Bool
  | .modem => true
  | .simManager => entry.sim.isSome
  | .networkRegistration => entry.network.isSome
  | .connectionManager => entry.data.isSome
  | .supplementaryServices => !entry.requests.isPending
  | .voiceCallManager => entry.voice

/-- Whether the modem offers the interface; the modem's own is always there. -/
def offers (entry : Entry) (interface : Interface) : Bool :=
  interface == .modem || entry.modem.state.interfaces.has interface

/-! ### Attaching and detaching -/

/-- Takes an attached interface away: its state is forgotten and told to be gone, its requests wait
again. -/
def drop (observers : Observers) (path : ModemPath) (entry : Entry) :
    Interface → Entry × List Delivery
  | .modem => (entry, [])
  | .simManager =>
    ({ entry with sim := none }, [observers.deliver path (.sim .untracked)])
  | .networkRegistration =>
    ({ entry with network := none }, [observers.deliver path (.network .untracked)])
  | .connectionManager =>
    ({ entry with data := none }, [observers.deliver path (.data .untracked)])
  | .supplementaryServices => ({ entry with requests := .pending entry.requests.queue }, [])
  | .voiceCallManager =>
    ({ entry with
      voice := false
      modem := entry.modem.modify fun state => { state with emergencyNumbers := [] } }, [])

def detach (observers : Observers) (path : ModemPath) (entry : Entry) (interface : Interface) :
    Entry × Outcome :=
  if interface ≠ .modem ∧ entry.attached interface then
    let (entry, deliveries) := entry.drop observers path interface
    (entry, ⟨[.unwatch path interface], deliveries⟩)
  else (entry, ∅)

def detachAll (observers : Observers) (path : ModemPath) (entry : Entry) :
    List Interface → Entry × Outcome
  | [] => (entry, ∅)
  | interface :: rest =>
    let (entry, first) := entry.detach observers path interface
    let (entry, others) := entry.detachAll observers path rest
    (entry, first ++ others)

/-- Attaches an interface, unless it is attached. The requests that waited for it are drained in the
epoch `epoch`. -/
def attach (path : ModemPath) (epoch : UInt64) (entry : Entry) : Interface → Entry × Outcome
  | .modem => (entry, ∅)
  | .simManager => ({ entry with sim := some (entry.sim.getD .new) }, ∅)
  | .networkRegistration =>
    ({ entry with network := some (entry.network.getD (.new .fresh)) }, ∅)
  | .connectionManager => ({ entry with data := some (entry.data.getD (.new .fresh)) }, ∅)
  | .voiceCallManager => ({ entry with voice := true }, ∅)
  | .supplementaryServices =>
    match entry.requests with
    | .pending [] => ({ entry with requests := .direct }, ∅)
    | .pending queue =>
      ({ entry with requests := .draining queue epoch }, .ofEffect (.replay path epoch))
    | _ => (entry, ∅)

/-- Whether attaching the interface begins a new drain. -/
def beginsDrain (entry : Entry) (interface : Interface) : Bool :=
  interface == .supplementaryServices && entry.requests.isPending &&
    !entry.requests.queue.isEmpty

/-! ### Changes -/

/-- Marks the state that an interface belongs to. -/
def mark (entry : Entry) : Interface → Entry
  | .modem | .voiceCallManager => { entry with modem := entry.modem.mark }
  | .simManager => { entry with sim := entry.sim.map SimTracker.mark }
  | .networkRegistration => { entry with network := entry.network.map Tracker.mark }
  | .connectionManager => { entry with data := entry.data.map Tracker.mark }
  | .supplementaryServices => entry

/-- Interfaces that are no longer offered are detached; new ones are to be watched. -/
def setInterfaces (observers : Observers) (path : ModemPath) (entry : Entry)
    (current : InterfaceSet) : Entry × Outcome :=
  let previous := entry.modem.state.interfaces
  let entry := { entry with
    modem := entry.modem.modify fun state => { state with interfaces := current } }
  if previous = current then (entry, ∅)
  else
    let (entry, gone) :=
      entry.detachAll observers path (previous.tracked.filter fun i => !current.has i)
    let come := current.tracked.filter fun i => !previous.has i
    (entry, gone ++ ⟨come.map (.watch path), []⟩)

/-- A change of an interface that is not attached is lost. -/
def change (observers : Observers) (path : ModemPath) (entry : Entry) : Change → Entry × Outcome
  | .modem (.interfaces current) => entry.setInterfaces observers path current
  | .modem property =>
    ({ entry with modem := entry.modem.modify (·.set property) }, ∅)
  | .voice property =>
    (if entry.voice then
      { entry with modem := entry.modem.modify (·.setVoice property) }
    else entry, ∅)
  | .sim property =>
    ({ entry with sim := entry.sim.map fun sim =>
        { sim with tracker := sim.tracker.modify (·.set property) } }, ∅)
  | .network property =>
    ({ entry with network := entry.network.map fun tracker =>
        let state := tracker.state.set property
        ⟨state, tracker.due || state.tells property⟩ }, ∅)
  | .data property =>
    ({ entry with data := entry.data.map (·.modify (·.set property)) }, ∅)

def changeAll (observers : Observers) (path : ModemPath) (entry : Entry) :
    List Change → Entry × Outcome
  | [] => (entry, ∅)
  | change :: rest =>
    let (entry, first) := entry.change observers path change
    let (entry, others) := entry.changeAll observers path rest
    (entry, first ++ others)

/-! ### News -/

def simNews (sim : SimTracker) : List News :=
  .sim sim.tracker.state :: sim.codeQuery.toList.map .codeQuery

/-- The news that are due: of the modem, its SIM, a code that the SIM begins to wait for, its
registration and its packet data, in this order. -/
def news (entry : Entry) : List News :=
  (if entry.modem.due then [.modem entry.modem.state] else []) ++
    ((entry.sim.filter (·.tracker.due)).map simNews).getD [] ++
    ((entry.network.filter (·.due)).map fun tracker => News.network tracker.state).toList ++
    ((entry.data.filter (·.due)).map fun tracker => News.data tracker.state).toList

def told (entry : Entry) : Entry :=
  { entry with
    modem := entry.modem.told
    sim := entry.sim.map fun sim => if sim.tracker.due then sim.told else sim
    network := entry.network.map Tracker.told
    data := entry.data.map Tracker.told }

end Entry

end Telephony
