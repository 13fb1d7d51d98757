import Telephony.Change
import Telephony.Simulator.Dialled
import Telephony.SupplementaryService

/-!
# Simulated modems

A modem as the simulated daemon keeps it: the interfaces it offers, the values of their properties,
the secrets of its SIM, and what its network remembers of call waiting and forwarding.
-/

namespace Telephony.Simulator

open Wire (Value)

structure PropertyName where
  interface : Interface
  name : String
  deriving DecidableEq, Repr

namespace PropertyName

/-- By interface, then by name. -/
def sortKey (property : PropertyName) : Nat × String :=
  (Interface.all.idxOf property.interface, property.name)

theorem sortKey_injective {a b : PropertyName} (h : a.sortKey = b.sortKey) : a = b := by
  obtain ⟨i, m⟩ := a
  obtain ⟨j, n⟩ := b
  simp only [sortKey, Prod.mk.injEq] at h
  obtain ⟨hi, rfl⟩ := h
  have : i = j := by revert hi; cases i <;> cases j <;> decide
  rw [this]

instance : Ord PropertyName := ⟨@compareOn (Nat × String) PropertyName lexOrd sortKey⟩
instance : Std.TransOrd PropertyName :=
  inferInstanceAs (Std.TransCmp (@compareOn (Nat × String) PropertyName lexOrd sortKey))
instance : Std.LawfulEqOrd PropertyName where
  eq_of_compare h :=
    letI : Ord (Nat × String) := lexOrd
    sortKey_injective (Std.LawfulEqOrd.eq_of_compare (α := Nat × String) h)

end PropertyName

/-- The attempts that a PIN has from the start. -/
def fullRetries : UInt8 := 3

/-- The attempts that a PUK has when it comes to be needed. -/
def pukRetries : UInt8 := 10

def namesValue (interfaces : List Interface) : Value :=
  .array (interfaces.map fun i => .text i.busName)

def retriesValue (retries : List (String × UInt8)) : Value :=
  .dict (retries.map fun (code, left) => (.text code, .int .byte left.toNat))

/-- The properties with which a new interface begins. -/
def defaults : Interface → List (String × Value)
  | .modem => []
  | .simManager =>
    [("Present", .bool true), ("PinRequired", .text "none"), ("MobileCountryCode", .text "244"),
      ("MobileNetworkCode", .text "05"), ("SubscriberIdentity", .text "244050000000001"),
      ("ServiceProviderName", .text "Simulated"), ("Retries", retriesValue []),
      ("LockedPins", .array [])]
  | .networkRegistration =>
    [("Status", .text "registered"), ("LocationAreaCode", .int .uint16 1234),
      ("CellId", .int .uint32 56789), ("MobileCountryCode", .text "244"),
      ("MobileNetworkCode", .text "05"), ("Name", .text "Phonesim"),
      ("Strength", .int .byte 72), ("Technology", .text "umts"), ("Mode", .text "auto")]
  | .connectionManager =>
    [("Attached", .bool true), ("Powered", .bool true), ("Suspended", .bool false),
      ("RoamingAllowed", .bool false), ("Bearer", .text "umts")]
  | .supplementaryServices => [("State", .text "idle")]
  | .voiceCallManager => [("EmergencyNumbers", .array [.text "112", .text "911"])]

structure SimulatedModem where
  interfaces : List Interface
  properties : Table PropertyName Value
  pin : String
  puk : String
  waiting : Bool
  /-- The number for each service code that calls are forwarded under. -/
  forwards : Table Nat String

namespace SimulatedModem

def store (modem : SimulatedModem) (interface : Interface) (name : String) (value : Value) :
    SimulatedModem :=
  { modem with properties := modem.properties.insert ⟨interface, name⟩ value }

def storeAll (modem : SimulatedModem) (interface : Interface)
    (properties : List (String × Value)) : SimulatedModem :=
  properties.foldl (fun modem (name, value) => modem.store interface name value) modem

def value? (modem : SimulatedModem) (interface : Interface) (name : String) : Option Value :=
  modem.properties.get? ⟨interface, name⟩

/-- A powered modem with a usable SIM. -/
def new (interfaces : List Interface) : SimulatedModem :=
  let blank : SimulatedModem := ⟨interfaces, ∅, "1234", "12345678", false, ∅⟩
  let modem := blank.storeAll .modem
    [("Powered", .bool true), ("Online", .bool true), ("Manufacturer", .text "phonesim"),
      ("Model", .text "Simulated Modem"), ("Revision", .text "1.0"),
      ("Serial", .text "356938035643809"), ("Interfaces", namesValue interfaces)]
  interfaces.foldl (fun modem i => modem.storeAll i (defaults i)) modem

/-- The properties of an interface that can be decoded. -/
def decoded (modem : SimulatedModem) (interface : Interface) : List Change :=
  modem.properties.entries.filterMap fun (property, value) =>
    if property.interface = interface then Change.decode interface property.name value else none

def offers (modem : SimulatedModem) (interface : Interface) : Bool :=
  interface == .modem || modem.interfaces.contains interface

/-- The interfaces are replaced; one that was not there before begins with its defaults. -/
def setInterfaces (modem : SimulatedModem) (interfaces : List Interface) : SimulatedModem :=
  let fresh := interfaces.filter fun i => !modem.interfaces.contains i
  { fresh.foldl (fun modem i => modem.storeAll i (defaults i)) modem with interfaces }

/-- The attempts left for a code; a code that is not listed has all. -/
def retriesLeft (modem : SimulatedModem) (code : String) : UInt8 :=
  match (modem.value? .simManager "Retries").bind Value.plainByteEntries? with
  | some entries => (entries.lookup code).getD fullRetries
  | none => fullRetries

/-! ### Supplementary services -/

def waitingReply (modem : SimulatedModem) (operation : String) : ServiceReply :=
  ⟨"CallWaiting", operation,
    .ofList [("VoiceCallWaiting", .text (if modem.waiting then "enabled" else "disabled"))]⟩

def forwardedTo (modem : SimulatedModem) (condition : Condition) : String :=
  (modem.forwards.get? condition.serviceCode).getD ""

def forwardingReply (modem : SimulatedModem) (operation : String) : ServiceReply :=
  ⟨"CallForwarding", operation,
    .ofList (Condition.all.map (fun condition =>
      (condition.settingKey, Setting.text (modem.forwardedTo condition))) ++
      [("VoiceNoReplyTimeout", .number 20)])⟩

def dial (modem : SimulatedModem) : Dialled → ServiceReply × SimulatedModem
  | .queryWaiting => (modem.waitingReply "interrogation", modem)
  | .setWaiting on =>
    let modem := { modem with waiting := on }
    (modem.waitingReply (if on then "activation" else "deactivation"), modem)
  | .queryForwarding => (modem.forwardingReply "interrogation", modem)
  | .register code number =>
    let modem := { modem with forwards := modem.forwards.insert code number }
    (modem.forwardingReply "registration", modem)
  | .erase code =>
    let modem := { modem with forwards := modem.forwards.erase code }
    (modem.forwardingReply "erasure", modem)

end SimulatedModem

end Telephony.Simulator
