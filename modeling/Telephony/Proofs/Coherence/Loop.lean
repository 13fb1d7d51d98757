import Telephony.Proofs.Coherence.Arrival

/-!
# The bus and the event loop

The bus is scripted from one side; on the other side the event loop takes in the oldest event that
is waiting. Either may come next at any time, so events may wait while the bus changes again.

An event that waits may be stale: it carries a value that has been replaced. That is no harm as long
as the event with the new value waits behind it, or the interface is taken away before. It is harm
when the interface is attached anew in between: then the new value is fetched, and no event carries
it any more.
-/

namespace Telephony

open Simulator (SimulatedModem)

/-- What may happen next on a bus or in the event loop. A step that cannot be taken does nothing. -/
inductive Beat where
  /-- A modem comes to the bus, unless one of that name is there. -/
  | addModem (path : ModemPath) (interfaces : List Interface)
  | removeModem (path : ModemPath)
  | setInterfaces (path : ModemPath) (interfaces : List Interface)
  /-- A property gets a value that can be decoded. The interfaces are not set in this way. -/
  | update (path : ModemPath) (interface : Interface) (name : String) (value : Wire.Value)
  /-- The event loop takes in the oldest event. -/
  | next
  | flush

/-- The event ends what is attached of the interface. -/
def Event.Ends (event : Event) (path : ModemPath) (interface : Interface) : Prop :=
  event = .modemRemoved path ∨
    ∃ change : Change, event = .propertyChanged path change ∧ change.Withdraws interface

/-- The changes of a modem's properties among some events. -/
def changesOf (path : ModemPath) (events : List Event) : List Change :=
  events.filterMap fun
    | .propertyChanged other change => if other = path then some change else none
    | _ => none

namespace Service

/-- Puts the daemon into the state that a step of the script gives, if it can be taken. -/
def scripted (service : Service Simulator) (result : Except Failure Simulator) :
    Service Simulator :=
  match result with
  | .ok daemon => { service with daemon }
  | .error _ => service

def next (service : Service Simulator) : Service Simulator :=
  match service.daemon.outbox with
  | [] => service
  | event :: rest =>
    ({ service with daemon := { service.daemon with outbox := rest } }).process event

def beat (service : Service Simulator) : Beat → Service Simulator
  | .addModem path interfaces =>
    if (service.daemon.modem? path).isSome then service
    else { service with daemon := service.daemon.addModem path interfaces }
  | .removeModem path => { service with daemon := service.daemon.removeModem path }
  | .setInterfaces path interfaces =>
    service.scripted (service.daemon.setInterfaces path interfaces)
  | .update path interface name value =>
    if (interface = .modem ∧ name = "Interfaces") ∨ Change.decode interface name value = none then
      service
    else service.scripted (service.daemon.update path interface name value)
  | .next => service.next
  | .flush => service.flush

def play (service : Service Simulator) (beats : List Beat) : Service Simulator :=
  beats.foldl beat service

/-- The event loop has taken in all that waits, and the bus has not changed meanwhile. -/
def caughtUp (service : Service Simulator) : Service Simulator :=
  service.play (.replicate service.daemon.outbox.length .next)

def Attached (service : Service Simulator) (path : ModemPath) (interface : Interface) : Prop :=
  ∃ entry, service.board.entry? path = some entry ∧ entry.attached interface = true

/-- The last of the events for some property of an interface carries another value than the bus has,
and none of the events ends the interface. -/
def Stale (service : Service Simulator) (events : List Event) (path : ModemPath)
    (interface : Interface) : Prop :=
  (∀ event ∈ events, ¬ event.Ends path interface) ∧
    ∃ name change, lastChange interface name (changesOf path events) = some change ∧
      ∀ modem, service.daemon.modem? path = some modem → modem.shown interface name ≠ some change

/-- For nothing that the event loop attaches by taking in the oldest event do stale events wait. -/
def TakesCleanly (service : Service Simulator) : Prop :=
  ∀ path interface, ¬ service.Attached path interface → service.next.Attached path interface →
    ¬ service.next.Stale service.next.daemon.outbox path interface

/-- The event loop takes in every event cleanly. -/
def Clean (service : Service Simulator) : List Beat → Prop
  | [] => True
  | beat :: rest => (beat = .next → service.TakesCleanly) ∧ (service.beat beat).Clean rest

/-- The modems that are known are those on the bus, what they advertise is attached, and every field
is what the bus stores, or what it was to begin with if nothing is stored. -/
structure Coherent (service : Service Simulator) : Prop where
  modems : ∀ path, service.board.knows path = (service.daemon.modem? path).isSome
  attached : ∀ path entry modem, service.board.entry? path = some entry →
    service.daemon.modem? path = some modem →
    ∀ interface, interface ≠ .modem → entry.attached interface = modem.offers interface
  fields : ∀ path entry modem, service.board.entry? path = some entry →
    service.daemon.modem? path = some modem →
    ∀ interface, entry.attached interface = true →
      ∀ name, entry.field interface name = modem.shown interface name

end Service

end Telephony
