import Telephony.Modem
import Telephony.Network
import Telephony.PacketData
import Telephony.Sim
import Telephony.Wire.Value

/-!
# Changes

A property of a modem that the daemon reports, decoded. A property whose name is not known on its
interface, or whose value has another shape, is no change; `interface_of_decode` says that a change
belongs to the interface it was decoded for, and `decode_variant` that variants around the value do
not matter.
-/

namespace Telephony

inductive Change where
  | modem (property : Modem.Property)
  | sim (property : Sim.Property)
  | network (property : Network.Property)
  | data (property : PacketData.Property)
  | voice (property : Modem.VoiceProperty)
  deriving DecidableEq

namespace Change

open Wire (Value)

def interface : Change → Interface
  | modem _ => .modem
  | sim _ => .simManager
  | network _ => .networkRegistration
  | data _ => .connectionManager
  | voice _ => .voiceCallManager

def decodeModem (name : String) (value : Value) : Option Modem.Property :=
  match name with
  | "Powered" => value.bool?.map .powered
  | "Online" => value.bool?.map .online
  | "Manufacturer" => value.text?.map .manufacturer
  | "Model" => value.text?.map .model
  | "Revision" => value.text?.map .revision
  | "Serial" => value.text?.map .serial
  | "Interfaces" => value.texts?.map fun names => .interfaces (.ofNames names)
  | _ => none

def retriesOf (entries : List (String × UInt8)) : Table PinType UInt8 :=
  .ofList (entries.map fun (code, left) => (PinType.ofName code, left))

def decodeSim (name : String) (value : Value) : Option Sim.Property :=
  match name with
  | "Present" => value.bool?.map .present
  | "MobileCountryCode" => value.text?.map .mobileCountryCode
  | "MobileNetworkCode" => value.text?.map .mobileNetworkCode
  | "SubscriberIdentity" => value.text?.map .subscriberIdentity
  | "ServiceProviderName" => value.text?.map .serviceProviderName
  | "PinRequired" => value.text?.map fun code => .pinRequired (.ofName code)
  | "Retries" => value.byteEntries?.map fun entries => .retries (retriesOf entries)
  | "LockedPins" => value.texts?.map fun codes => .lockedPins (codes.map PinType.ofName)
  | _ => none

/-- A signal strength is a percentage; more than a hundred counts as a hundred. -/
def decodeNetwork (name : String) (value : Value) : Option Network.Property :=
  match name with
  | "Status" => value.text?.map fun status => .status (.ofName status)
  | "LocationAreaCode" =>
    (value.natUpTo? (UInt16.size - 1)).map fun n => .locationAreaCode (UInt16.ofNat n)
  | "CellId" => (value.natUpTo? (UInt32.size - 1)).map fun n => .cellId (UInt32.ofNat n)
  | "MobileCountryCode" => value.text?.map .mobileCountryCode
  | "MobileNetworkCode" => value.text?.map .mobileNetworkCode
  | "Name" => value.text?.map .name
  | "Strength" => (value.natUpTo? (UInt8.size - 1)).map fun n => .strength (UInt8.ofNat (min n 100))
  | "Technology" => value.text?.map .technology
  | "Mode" => value.text?.map fun mode => .mode (.ofName mode)
  | _ => none

def decodeData (name : String) (value : Value) : Option PacketData.Property :=
  match name with
  | "Attached" => value.bool?.map .attached
  | "Powered" => value.bool?.map .powered
  | "Suspended" => value.bool?.map .suspended
  | "RoamingAllowed" => value.bool?.map .roamingAllowed
  | "Bearer" => value.text?.map fun bearer => .bearer (.ofName bearer)
  | _ => none

def decodeVoice (name : String) (value : Value) : Option Modem.VoiceProperty :=
  match name with
  | "EmergencyNumbers" => value.texts?.map .emergencyNumbers
  | _ => none

/-- The supplementary services have no property of interest. -/
def decode (interface : Interface) (name : String) (value : Value) : Option Change :=
  match interface with
  | .modem => (decodeModem name value).map modem
  | .simManager => (decodeSim name value).map sim
  | .networkRegistration => (decodeNetwork name value).map network
  | .connectionManager => (decodeData name value).map data
  | .voiceCallManager => (decodeVoice name value).map voice
  | .supplementaryServices => none

theorem interface_of_decode {i : Interface} {name : String} {value : Value} {change : Change}
    (h : decode i name value = some change) : change.interface = i := by
  cases i <;> simp only [decode, Option.map_eq_some_iff, reduceCtorEq] at h <;>
    obtain ⟨_, _, rfl⟩ := h <;> rfl

theorem decode_variant (i : Interface) (name : String) (value : Value) :
    decode i name (.variant value) = decode i name value := by
  cases i <;> simp only [decode, decodeModem, decodeSim, decodeNetwork, decodeData, decodeVoice,
    Value.bool?_variant, Value.text?_variant, Value.texts?_variant, Value.natUpTo?_variant,
    Value.byteEntries?_variant]

/-- All that can be decoded in a list of named values, in its order. -/
def decodeAll (interface : Interface) (properties : List (String × Value)) : List Change :=
  properties.filterMap fun (name, value) => decode interface name value

def name : Change → String
  | modem (.powered _) => "Powered"
  | modem (.online _) => "Online"
  | modem (.manufacturer _) => "Manufacturer"
  | modem (.model _) => "Model"
  | modem (.revision _) => "Revision"
  | modem (.serial _) => "Serial"
  | modem (.interfaces _) => "Interfaces"
  | sim (.present _) => "Present"
  | sim (.mobileCountryCode _) => "MobileCountryCode"
  | sim (.mobileNetworkCode _) => "MobileNetworkCode"
  | sim (.subscriberIdentity _) => "SubscriberIdentity"
  | sim (.serviceProviderName _) => "ServiceProviderName"
  | sim (.pinRequired _) => "PinRequired"
  | sim (.retries _) => "Retries"
  | sim (.lockedPins _) => "LockedPins"
  | network (.status _) => "Status"
  | network (.locationAreaCode _) => "LocationAreaCode"
  | network (.cellId _) => "CellId"
  | network (.mobileCountryCode _) => "MobileCountryCode"
  | network (.mobileNetworkCode _) => "MobileNetworkCode"
  | network (.name _) => "Name"
  | network (.strength _) => "Strength"
  | network (.technology _) => "Technology"
  | network (.mode _) => "Mode"
  | data (.attached _) => "Attached"
  | data (.powered _) => "Powered"
  | data (.suspended _) => "Suspended"
  | data (.roamingAllowed _) => "RoamingAllowed"
  | data (.bearer _) => "Bearer"
  | voice (.emergencyNumbers _) => "EmergencyNumbers"

def valueToJson : Change → Json
  | modem (.powered on) | modem (.online on) => .bool on
  | modem (.manufacturer text) | modem (.model text) | modem (.revision text)
  | modem (.serial text) => .str text
  | modem (.interfaces set) => .obj [("bits", .nat set.bits), ("tracked", set.toJson)]
  | sim (.present there) => .bool there
  | sim (.mobileCountryCode text) | sim (.mobileNetworkCode text)
  | sim (.subscriberIdentity text) | sim (.serviceProviderName text) => .str text
  | sim (.pinRequired code) => code.toJson
  | sim (.retries left) =>
    .arr (left.entries.map fun (code, n) => .arr [code.toJson, .nat n.toNat])
  | sim (.lockedPins codes) => .arr (codes.map PinType.toJson)
  | network (.status status) => status.toJson
  | network (.locationAreaCode lac) => .nat lac.toNat
  | network (.cellId id) => .nat id.toNat
  | network (.mobileCountryCode text) | network (.mobileNetworkCode text)
  | network (.name text) | network (.technology text) => .str text
  | network (.strength percent) => .nat percent.toNat
  | network (.mode mode) => mode.toJson
  | data (.attached on) | data (.powered on) | data (.suspended on)
  | data (.roamingAllowed on) => .bool on
  | data (.bearer bearer) => bearer.toJson
  | voice (.emergencyNumbers numbers) => .strs numbers

def toJson (change : Change) : Json := .obj
  [("interface", change.interface.toJson), ("property", .str change.name),
    ("value", change.valueToJson)]

end Change

/-! ### Settable properties -/

/-- A property that can be switched on and off from here. -/
inductive Switch where
  | modemPowered
  | modemOnline
  | roamingAllowed
  | dataPowered
  deriving DecidableEq, Repr

namespace Switch

def interface : Switch → Interface
  | modemPowered | modemOnline => .modem
  | roamingAllowed | dataPowered => .connectionManager

def name : Switch → String
  | modemPowered | dataPowered => "Powered"
  | modemOnline => "Online"
  | roamingAllowed => "RoamingAllowed"

end Switch

end Telephony
