import Telephony.Link.Basic

/-!
# A scripted peer

The other end of the bus as a list of answers, one for each method of each object, whatever the
arguments. It writes down the calls that it is asked to answer.
-/

namespace Telephony.Link

open Wire (Body MethodCall RemoteError Value)

structure Script where
  /-- The answers by the addresses of the calls. -/
  answers : Table String (Except RemoteError Body)
  calls : List MethodCall

namespace Script

def unscripted : RemoteError := ⟨"org.ofono.Error.NotImplemented", some "not scripted"⟩

def answer (script : Script) (method : MethodCall) : Except RemoteError Body :=
  (script.answers.get? method.address).getD (.error unscripted)

instance : Peer Script where
  answer method script :=
    (script.answer method, { script with calls := script.calls ++ [method] })

/-- The calls written down since they were last asked for. -/
def takeCalls (script : Script) : List MethodCall × Script :=
  (script.calls, { script with calls := [] })

end Script

/-- The form of an argument in a report; only texts and switches are ever passed. -/
def argumentToJson (argument : Value) : Json :=
  match argument.text?, argument.bool? with
  | some text, _ => .str text
  | none, some on => .bool on
  | none, none => .null

def callToJson (method : MethodCall) : Json :=
  .arr [.str method.address, .arr (method.arguments.map argumentToJson)]

def modemToJson (modem : ModemPath × List Change) : Json :=
  .arr [modem.1.toJson, .arr (modem.2.map Change.toJson)]

def eventToJson : Event → Json
  | .modemAdded path changes =>
    .arr [.str "added", path.toJson, .arr (changes.map Change.toJson)]
  | .modemRemoved path => .arr [.str "removed", path.toJson]
  | .propertyChanged path change => .arr [.str "changed", path.toJson, change.toJson]

end Telephony.Link
