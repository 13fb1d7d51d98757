import Telephony.Failure
import Telephony.Switchboard.Entry

/-!
# The switchboard

The table of all modems together with everyone who waits for something: the observers, the
outstanding calls, and the one code session there may be.

The switchboard never talks to the daemon. Events and loaded properties go in; effects to be carried
out and deliveries to be made come out. `apply` and `loaded` change one entry at most, and news that
are due stay due until `flush`.
-/

namespace Telephony

inductive Event where
  | modemAdded (path : ModemPath) (properties : List Change)
  | modemRemoved (path : ModemPath)
  | propertyChanged (path : ModemPath) (change : Change)
  deriving DecidableEq

def Event.path : Event → ModemPath
  | modemAdded path _ => path
  | modemRemoved path => path
  | propertyChanged path _ => path

structure Switchboard where
  modems : Table ModemPath Entry
  observers : Observers
  calls : CallTable ModemPath
  sessionActive : Bool
  /-- The number of drains begun, modulo 2 ^ 64, which is the epoch of the last. -/
  drains : UInt64
  /-- The number of tokens given out. -/
  tokens : Nat
  /-- The tokens of calls that were told to stop. -/
  signalled : List Token

namespace Switchboard

def empty : Switchboard := ⟨∅, ∅, ∅, false, 0, 0, []⟩

instance : EmptyCollection Switchboard := ⟨empty⟩
instance : Inhabited Switchboard := ⟨empty⟩

/-! ### Views -/

def entry? (board : Switchboard) (path : ModemPath) : Option Entry := board.modems.get? path

def paths (board : Switchboard) : List ModemPath := board.modems.keys

def knows (board : Switchboard) (path : ModemPath) : Bool := board.modems.contains path

/-- The modem that is meant when none is named. -/
def defaultModem (board : Switchboard) : Option ModemPath := board.paths.head?

def modem? (board : Switchboard) (path : ModemPath) : Option Modem.State :=
  (board.entry? path).map (·.modem.state)

def sim? (board : Switchboard) (path : ModemPath) : Option Sim.State :=
  ((board.entry? path).bind (·.sim)).map (·.tracker.state)

def network? (board : Switchboard) (path : ModemPath) : Option Network.State :=
  ((board.entry? path).bind (·.network)).map (·.state)

def data? (board : Switchboard) (path : ModemPath) : Option PacketData.State :=
  ((board.entry? path).bind (·.data)).map (·.state)

/-- Whether nothing keeps the service going: nobody listens, nothing is outstanding, and no code
session runs. -/
def isIdle (board : Switchboard) : Bool :=
  board.observers.isEmpty && board.calls.isEmpty && !board.sessionActive

/-- Fails unless the interface of the modem is attached. -/
def require (board : Switchboard) (path : ModemPath) (interface : Interface) :
    Except Failure Unit :=
  match board.entry? path with
  | none => .error (.modemNotFound path)
  | some entry =>
    if entry.attached interface then .ok () else .error (.capabilityUnavailable path interface)

/-! ### Events -/

/-- Changes the entry of a known modem by a step that also asks for something. -/
def onEntry (board : Switchboard) (path : ModemPath) (step : Entry → Entry × Outcome) :
    Switchboard × Outcome :=
  match board.entry? path with
  | none => (board, ∅)
  | some entry =>
    let (entry, outcome) := step entry
    ({ board with modems := board.modems.insert path entry }, outcome)

/-- A modem that is new gets an entry and is to be watched; one that is known takes the properties
as changes. -/
def addModem (board : Switchboard) (path : ModemPath) (properties : List Change) :
    Switchboard × Outcome :=
  let first : Outcome := if board.knows path then ∅ else .ofEffect (.watch path .modem)
  let (entry, outcome) :=
    ((board.entry? path).getD .new).changeAll board.observers path properties
  ({ board with modems := board.modems.insert path (entry.mark .modem) }, first ++ outcome)

/-- Strikes out the calls of queued requests; the requests still outstanding come back. -/
def abandon (calls : CallTable ModemPath) : List QueuedRequest →
    CallTable ModemPath × List QueuedRequest
  | [] => (calls, [])
  | request :: rest =>
    let (call, calls) := calls.take request.id
    let (calls, others) := abandon calls rest
    (calls, if call.isSome then request :: others else others)

/-- Everything attached is told to be gone, and last the modem; its waiting requests fail. -/
def removeModem (board : Switchboard) (path : ModemPath) : Switchboard × Outcome :=
  match board.entry? path with
  | none => (board, ∅)
  | some entry =>
    let (entry, gone) := entry.detachAll board.observers path Interface.tracked
    let (calls, failed) := abandon board.calls entry.requests.queue
    let failing : List Effect := if failed.isEmpty then [] else [.fail path failed]
    ({ board with modems := board.modems.erase path, calls },
      gone ++ ⟨failing ++ [.unwatch path .modem],
        [board.observers.deliver path (.modem .untracked)]⟩)

def apply (board : Switchboard) : Event → Switchboard × Outcome
  | .modemAdded path properties => board.addModem path properties
  | .modemRemoved path => board.removeModem path
  | .propertyChanged path change => board.onEntry path fun entry =>
      entry.change board.observers path change

/-- The entry after an interface was watched and its properties `result` were fetched. An interface
withdrawn meanwhile, or one whose properties could not be had, is not attached. -/
def loadEntry (board : Switchboard) (path : ModemPath) (interface : Interface)
    (result : Except Failure (List Change)) (entry : Entry) : Entry × Outcome :=
  let refuse : Outcome := if interface = .modem then ∅ else .ofEffect (.unwatch path interface)
  if !entry.offers interface then (entry, refuse)
  else
    match result with
    | .error _ => (entry, refuse)
    | .ok properties =>
      let (entry, attached) := entry.attach path (board.drains + 1) interface
      let (entry, changed) := entry.changeAll board.observers path properties
      (entry.mark interface, attached ++ changed)

/-- Takes in what watching and fetching an interface gave. -/
def loaded (board : Switchboard) (path : ModemPath) (interface : Interface)
    (result : Except Failure (List Change)) : Switchboard × Outcome :=
  let begins := match board.entry? path, result with
    | some entry, .ok _ => entry.offers interface && entry.beginsDrain interface
    | _, _ => false
  let (after, outcome) := board.onEntry path (board.loadEntry path interface result)
  (if begins then { after with drains := after.drains + 1 } else after, outcome)

def clear (board : Switchboard) : Switchboard × Outcome :=
  board.paths.foldl (fun (board, outcome) path =>
    let (board, more) := board.removeModem path
    (board, outcome ++ more)) (board, ∅)

/-! ### News -/

/-- Makes out all news that are due, modem by modem. -/
def flush (board : Switchboard) : Switchboard × List Delivery :=
  ({ board with modems := board.modems.mapValues fun _ => Entry.told },
    board.modems.entries.flatMap fun (path, entry) => entry.news.map (board.observers.deliver path))

/-! ### Calls and requests -/

def fresh (board : Switchboard) : Token := ⟨board.tokens⟩

def beginCall (board : Switchboard) (path : ModemPath) : CallId × Token × Switchboard :=
  let (id, calls) := board.calls.reserve
  (id, board.fresh,
    { board with calls := calls.add id path (some board.fresh), tokens := board.tokens + 1 })

inductive Submitted where
  | queued (id : CallId)
  | dispatch (id : CallId) (token : Token)
  deriving DecidableEq, Repr

def Submitted.id : Submitted → CallId
  | queued id => id
  | dispatch id _ => id

def enqueue (request : QueuedRequest) : Requests → Requests
  | .pending queue => .pending (queue ++ [request])
  | .draining queue epoch => .draining (queue ++ [request]) epoch
  | .direct => .direct

/-- Accepts a service request. It waits behind all that wait, and is sent at once only when the
interface is attached and none waits. -/
def submit (board : Switchboard) (path : ModemPath) (code : String) (ticket : Ticket) :
    Except Failure (Submitted × Switchboard) :=
  match board.entry? path with
  | none => .error (.modemNotFound path)
  | some entry =>
    match entry.requests with
    | .direct =>
      let (id, token, board) := board.beginCall path
      .ok (.dispatch id token, board)
    | requests =>
      let (id, calls) := board.calls.reserve
      let entry := { entry with requests := enqueue ⟨id, code, ticket⟩ requests }
      .ok (.queued id, { board with
        calls := calls.add id path none
        modems := board.modems.insert path entry })

/-- The next request to send in the drain of an epoch. When none is left, requests go straight to
the daemon from now on. A drain that is over, or was cut off, has none. -/
def nextQueued (board : Switchboard) (path : ModemPath) (epoch : UInt64) :
    Option QueuedRequest × Switchboard :=
  match board.entry? path with
  | some entry =>
    match entry.requests with
    | .draining queue current =>
      if current = epoch then
        let requests := match queue with
          | [] => .direct
          | _ :: rest => .draining rest current
        (queue.head?, { board with modems := board.modems.insert path { entry with requests } })
      else (none, board)
    | _ => (none, board)
  | none => (none, board)

/-- Gives a queued call its token before it is sent; a call cancelled meanwhile gets none. -/
def arm (board : Switchboard) (id : CallId) : Option Token × Switchboard :=
  let (found, calls) := board.calls.arm id board.fresh
  if found then (some board.fresh, { board with calls, tokens := board.tokens + 1 })
  else (none, board)

def finishCall (board : Switchboard) (id : CallId) : Switchboard :=
  { board with calls := (board.calls.take id).2 }

def cancel (board : Switchboard) (id : CallId) : Cancellation × Switchboard :=
  let (cancellation, calls) := board.calls.cancel id
  let signalled := match cancellation with
    | .signalled token => token :: board.signalled
    | _ => board.signalled
  (cancellation, { board with calls, signalled })

def isSignalled (board : Switchboard) (token : Token) : Bool := token ∈ board.signalled

/-! ### Code sessions -/

/-- Only one code session runs at a time. -/
def beginSession (board : Switchboard) : Except Failure Switchboard :=
  if board.sessionActive then .error .sessionActive else .ok { board with sessionActive := true }

def endSession (board : Switchboard) : Switchboard := { board with sessionActive := false }

def unsubscribe (board : Switchboard) (subscription : Subscription) : Bool × Switchboard :=
  let (found, observers) := board.observers.remove subscription
  (found, { board with observers })

def subscribe (board : Switchboard) (topic : Topic) (listener : Listener) :
    Subscription × Switchboard :=
  let (subscription, observers) := board.observers.add topic listener
  (subscription, { board with observers })

/-- Ends a session and closes its registrations, without stopping anything. -/
def releaseSession (board : Switchboard) (subscriptions : List Subscription) : Switchboard :=
  (subscriptions.foldl (fun board subscription => (board.unsubscribe subscription).2)
    board).endSession

end Switchboard

end Telephony
