import Telephony.Json

/-!
# Network registration

What is known about a modem's registration with a network, the operators it can choose from, and
the generation of mobile networks that a technology belongs to.
-/

namespace Telephony.Network

inductive RegistrationStatus where
  | unknown
  | unregistered
  | home
  | searching
  | denied
  | roaming
  deriving DecidableEq, Repr, Inhabited

namespace RegistrationStatus

def ofName : String → RegistrationStatus
  | "unregistered" => unregistered
  | "registered" => home
  | "searching" => searching
  | "denied" => denied
  | "roaming" => roaming
  | _ => unknown

def isRegistered : RegistrationStatus → Bool
  | home | roaming => true
  | _ => false

def label : RegistrationStatus → String
  | unknown => "unknown"
  | unregistered => "unregistered"
  | home => "home"
  | searching => "searching"
  | denied => "denied"
  | roaming => "roaming"

def toJson (status : RegistrationStatus) : Json := .str status.label

end RegistrationStatus

/-- Radio access technology, one constructor a generation. -/
inductive Rat where
  | unknown
  | gsm
  | umts
  | lte
  | nr
  deriving DecidableEq, Repr, Inhabited

namespace Rat

def ofTechnology : String → Rat
  | "gsm" => gsm
  | "edge" => gsm
  | "umts" => umts
  | "hspa" => umts
  | "lte" => lte
  | "nr" => nr
  | _ => unknown

def generation : Rat → Nat
  | unknown => 0
  | gsm => 2
  | umts => 3
  | lte => 4
  | nr => 5

def label : Rat → String
  | unknown => "unknown"
  | gsm => "2G"
  | umts => "3G"
  | lte => "4G"
  | nr => "5G"

def key : Rat → String
  | unknown => "unknown"
  | gsm => "gsm"
  | umts => "umts"
  | lte => "lte"
  | nr => "nr"

def later (a b : Rat) : Rat := if a.generation ≤ b.generation then b else a

def toJson (rat : Rat) : Json := .str rat.key

end Rat

inductive SelectionMode where
  | unknown
  | auto
  | autoOnly
  | manual
  deriving DecidableEq, Repr, Inhabited

namespace SelectionMode

def ofName : String → SelectionMode
  | "auto" => auto
  | "auto-only" => autoOnly
  | "manual" => manual
  | _ => unknown

def label : SelectionMode → String
  | unknown => "unknown"
  | auto => "auto"
  | autoOnly => "auto-only"
  | manual => "manual"

def toJson (mode : SelectionMode) : Json := .str mode.label

end SelectionMode

structure State where
  status : RegistrationStatus
  lac : UInt16
  cellId : UInt32
  mcc : String
  mnc : String
  name : String
  strength : UInt8
  technology : Option String
  mode : SelectionMode
  tracked : Bool
  deriving DecidableEq, Repr

namespace State

def untracked : State := ⟨.unknown, 0, 0, "", "", "", 0, none, .unknown, false⟩

def fresh : State := { untracked with tracked := true }

instance : Inhabited State := ⟨untracked⟩

def rat (state : State) : Rat := (state.technology.map Rat.ofTechnology).getD .unknown

/-- Whether a high-speed channel is allocated, which the technology's name tells. -/
def hsdpa (state : State) : Bool := state.technology == some "hspa"

/-- Five bars for a hundred per cent, each worth twenty; any signal at all shows one. -/
def bars (state : State) : Nat := min 5 ((state.strength.toNat + 19) / 20)

def fields (state : State) : List (String × Json) :=
  [("status", state.status.toJson), ("lac", .nat state.lac.toNat),
    ("cell_id", .nat state.cellId.toNat), ("mcc", .str state.mcc), ("mnc", .str state.mnc),
    ("name", .str state.name), ("strength", .nat state.strength.toNat),
    ("technology", .ofOption .str state.technology), ("mode", state.mode.toJson),
    ("tracked", .bool state.tracked)]

def toJson (state : State) : Json := .obj state.fields

end State

inductive Property where
  | status (status : RegistrationStatus)
  | locationAreaCode (lac : UInt16)
  | cellId (id : UInt32)
  | mobileCountryCode (text : String)
  | mobileNetworkCode (text : String)
  | name (text : String)
  | strength (percent : UInt8)
  | technology (text : String)
  | mode (mode : SelectionMode)
  deriving DecidableEq, Repr

def State.set (state : State) : Property → State
  | .status status => { state with status := status }
  | .locationAreaCode lac => { state with lac := lac }
  | .cellId id => { state with cellId := id }
  | .mobileCountryCode text => { state with mcc := text }
  | .mobileNetworkCode text => { state with mnc := text }
  | .name text => { state with name := text }
  | .strength percent => { state with strength := percent }
  | .technology text => { state with technology := some text }
  | .mode mode => { state with mode := mode }

/-- Whether a change is worth telling: a signal strength means nothing while the technology is
unknown. -/
def State.tells (state : State) : Property → Bool
  | .strength _ => state.rat != .unknown
  | _ => true

inductive OperatorStatus where
  | unknown
  | available
  | current
  | forbidden
  deriving DecidableEq, Repr, Inhabited

namespace OperatorStatus

def ofName : String → OperatorStatus
  | "available" => available
  | "current" => current
  | "forbidden" => forbidden
  | _ => unknown

def label : OperatorStatus → String
  | unknown => "unknown"
  | available => "available"
  | current => "current"
  | forbidden => "forbidden"

def toJson (status : OperatorStatus) : Json := .str status.label

end OperatorStatus

/-- An operator whose network the modem has seen. -/
structure Operator where
  path : String
  name : String
  status : OperatorStatus
  mcc : String
  mnc : String
  technologies : List String
  deriving DecidableEq, Repr, Inhabited

namespace Operator

/-- The latest generation among the operator's technologies. -/
def bestRat (operator : Operator) : Rat :=
  (operator.technologies.map Rat.ofTechnology).foldl Rat.later .unknown

/-- An operator is meant by its path, by its name in any case, or by its two codes in a row. -/
def isMeantBy (operator : Operator) (target : String) : Bool :=
  operator.path == target || operator.name.toLower == target.toLower ||
    operator.mcc ++ operator.mnc == target

def toJson (operator : Operator) : Json := .obj
  [("path", .str operator.path), ("name", .str operator.name),
    ("status", operator.status.toJson), ("mcc", .str operator.mcc), ("mnc", .str operator.mnc),
    ("technologies", .strs operator.technologies)]

end Operator

end Telephony.Network
