import Telephony.Failure
import Telephony.Switchboard.Basic
import Telephony.Wire.Message

/-!
# The link to a daemon on the bus

What the service knows of a daemon that it reaches over the bus: whether it is connected, which
interfaces it listens to, and the events that it has heard and not yet handed on. Whoever is at the
other end is any `Peer`.

A call is made only on an object that can exist, so an invalid path costs no call. Signals become
events here: those of the manager once for each relay that runs, those of a modem if its interface
is watched and the property can be decoded.
-/

namespace Telephony

/-- The other end of the bus, with states of type `π`. -/
class Peer (π : Type) where
  answer : Wire.MethodCall → π → Except Wire.RemoteError Wire.Body × π

structure Link (π : Type) where
  peer : π
  connected : Bool
  /-- Relays of the manager's signals that were started by attempts to connect that failed; nothing
  stops them any more. -/
  strayRelays : Nat
  watched : List (ModemPath × Interface)
  inbox : List Event

namespace Link

open Wire (Body MethodCall Properties RemoteError Signal Value)

variable {π : Type}

def new (peer : π) : Link π := ⟨peer, false, 0, [], []⟩

def isWatched (link : Link π) (path : ModemPath) (interface : Interface) : Bool :=
  link.watched.contains (path, interface)

/-! ### Calls -/

/-- Makes a call, unless its object cannot exist; `read` makes a result of the answer. -/
def call [Peer π] {α : Type} (link : Link π) (call : MethodCall)
    (read : Except RemoteError Body → Except Failure α) : Except Failure α × Link π :=
  if Wire.isObjectPath call.object then
    let (answer, peer) := Peer.answer call link.peer
    (read answer, { link with peer })
  else (.error (.invalidPath call.object), link)

theorem call_invalidPath [Peer π] {α : Type} (link : Link π) (method : MethodCall)
    (read : Except RemoteError Body → Except Failure α)
    (h : Wire.isObjectPath method.object = false) :
    link.call method read = (.error (.invalidPath method.object), link) := by
  simp [call, h]

/-- Reads the properties of an object out of an answer. -/
def readProperties (method : MethodCall) :
    Except RemoteError Body → Except Failure Properties
  | .error error => .error (.bus error.message)
  | .ok body =>
    match body.properties? with
    | some properties => .ok properties
    | none => .error (.unexpectedReply method.member)

/-- Reads what an operation brings out of the answer to it. -/
def readResult {α : Type} (operation : String) (read : Body → Option α) :
    Except RemoteError Body → Except Failure α
  | .error error => .error (.operationFailed operation error.message)
  | .ok body =>
    match read body with
    | some result => .ok result
    | none => .error (.operationFailed operation "unexpected reply")

/-! ### Coming and going -/

def listModems : MethodCall := ⟨"/", "Manager", "GetModems", []⟩

/-- A modem in the manager's list, with what can be decoded of its properties. -/
def modemOfEntry (entry : Wire.ObjectEntry) : ModemPath × List Change :=
  (⟨entry.1⟩, Change.decodeAll .modem entry.2.entries)

def readModems : Except RemoteError Body → Except Failure (List (ModemPath × List Change))
  | .error error => .error (.initialization ("GetModems: " ++ error.message))
  | .ok body =>
    match body.objects? with
    | some entries => .ok (entries.map modemOfEntry)
    | none => .error (.initialization "GetModems: unexpected reply")

/-- Starts a relay of the manager's signals and lists the modems. If they cannot be listed the relay
goes astray, and all else stays as it was; otherwise it takes the place of the one before, and
nothing is watched any more. -/
def connect [Peer π] (link : Link π) : Except Failure (List (ModemPath × List Change)) × Link π :=
  match link.call listModems readModems with
  | (.error failure, link) => (.error failure, { link with strayRelays := link.strayRelays + 1 })
  | (.ok modems, link) => (.ok modems, { link with connected := true, watched := [] })

def disconnect (link : Link π) : Link π := { link with connected := false, watched := [] }

/-- Watching twice is watching once. -/
def watch (path : ModemPath) (interface : Interface) (link : Link π) :
    Except Failure Unit × Link π :=
  if !link.connected then (.error (.initialization "bus not connected"), link)
  else if !Wire.isObjectPath path.text then (.error (.invalidPath path.text), link)
  else if link.isWatched path interface then (.ok (), link)
  else (.ok (), { link with watched := (path, interface) :: link.watched })

def unwatch (path : ModemPath) (interface : Interface) (link : Link π) : Link π :=
  { link with watched := link.watched.filter (· != (path, interface)) }

/-! ### Signals -/

def relays (link : Link π) : Nat := link.strayRelays + if link.connected then 1 else 0

/-- The events that a signal becomes; an object that cannot exist sends no signal. -/
def eventsOf (link : Link π) (signal : Signal) : List Event :=
  if Wire.isObjectPath signal.object then
    match signal with
    | .modemAdded object properties =>
      List.replicate link.relays
        (.modemAdded ⟨object⟩ (Change.decodeAll .modem properties.entries))
    | .modemRemoved object => List.replicate link.relays (.modemRemoved ⟨object⟩)
    | .propertyChanged object name property value =>
      match Interface.all.find? (·.shortName == name) with
      | none => []
      | some interface =>
        if link.isWatched ⟨object⟩ interface then
          ((Change.decode interface property value).map (Event.propertyChanged ⟨object⟩)).toList
        else []
  else []

def hear (link : Link π) (signal : Signal) : Link π :=
  { link with inbox := link.inbox ++ link.eventsOf signal }

def receive (link : Link π) : List Event × Link π := (link.inbox, { link with inbox := [] })

end Link

end Telephony
