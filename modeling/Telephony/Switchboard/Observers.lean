import Telephony.Change
import Telephony.ObserverList

/-!
# News and who hears it

What there is to be told about a modem, on five topics, and the lists of those who want to hear it.
A delivery is a piece of news together with the listeners registered when it was made out.
-/

namespace Telephony

inductive Topic where
  | modem
  | sim
  | network
  | data
  | codeQuery
  deriving DecidableEq, Repr

/-- The latest state of one thing about a modem, or the news that its SIM begins to wait for a
code. A state that is not tracked tells that the thing is gone. -/
inductive News where
  | modem (state : Modem.State)
  | sim (state : Sim.State)
  | network (state : Network.State)
  | data (state : PacketData.State)
  | codeQuery (status : Sim.Status)
  deriving DecidableEq

def News.topic : News → Topic
  | modem _ => .modem
  | sim _ => .sim
  | network _ => .network
  | data _ => .data
  | codeQuery _ => .codeQuery

/-- Who can ask for news: someone outside, known by a name, or a code session or a running command,
known by a number. -/
inductive Listener where
  | caller (name : String)
  | session (number : Nat)
  | command (number : Nat)
  deriving DecidableEq, Repr

structure Delivery where
  path : ModemPath
  news : News
  listeners : List Listener
  deriving DecidableEq

structure Subscription where
  topic : Topic
  id : ObserverId
  deriving DecidableEq, Repr

structure Observers where
  modem : ObserverList Listener
  sim : ObserverList Listener
  network : ObserverList Listener
  data : ObserverList Listener
  codeQuery : ObserverList Listener
  deriving DecidableEq, Repr

namespace Observers

def empty : Observers := ⟨∅, ∅, ∅, ∅, ∅⟩

instance : EmptyCollection Observers := ⟨empty⟩
instance : Inhabited Observers := ⟨empty⟩

def on (observers : Observers) : Topic → ObserverList Listener
  | .modem => observers.modem
  | .sim => observers.sim
  | .network => observers.network
  | .data => observers.data
  | .codeQuery => observers.codeQuery

def setOn (observers : Observers) (list : ObserverList Listener) : Topic → Observers
  | .modem => { observers with modem := list }
  | .sim => { observers with sim := list }
  | .network => { observers with network := list }
  | .data => { observers with data := list }
  | .codeQuery => { observers with codeQuery := list }

theorem on_setOn (observers : Observers) (list : ObserverList Listener) (t u : Topic) :
    (observers.setOn list t).on u = if t = u then list else observers.on u := by
  cases t <;> cases u <;> simp [setOn, on]

def isEmpty (observers : Observers) : Bool :=
  observers.modem.isEmpty && observers.sim.isEmpty && observers.network.isEmpty &&
    observers.data.isEmpty && observers.codeQuery.isEmpty

def add (observers : Observers) (topic : Topic) (listener : Listener) :
    Subscription × Observers :=
  let (id, list) := (observers.on topic).add listener
  (⟨topic, id⟩, observers.setOn list topic)

def remove (observers : Observers) (subscription : Subscription) : Bool × Observers :=
  let (found, list) := (observers.on subscription.topic).remove subscription.id
  (found, observers.setOn list subscription.topic)

def deliver (observers : Observers) (path : ModemPath) (news : News) : Delivery :=
  ⟨path, news, (observers.on news.topic).snapshot⟩

end Observers

end Telephony
