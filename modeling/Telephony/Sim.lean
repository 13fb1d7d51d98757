import Telephony.Json
import Telephony.Table

/-!
# SIM cards

The codes that protect a SIM, what is known about a SIM, and the status that follows from it.
-/

namespace Telephony

/-- A code as the daemon names it. Beside the four codes of the user there are codes that lock a
SIM to a network or a device; all that matters of them is their name. -/
inductive PinType where
  | none
  | pin
  | pin2
  | puk
  | puk2
  | other (name : String)
  deriving DecidableEq, Repr

namespace PinType

def ofName : String → PinType
  | "none" => none
  | "pin" => pin
  | "pin2" => pin2
  | "puk" => puk
  | "puk2" => puk2
  | name => other name

def name : PinType → String
  | none => "none"
  | pin => "pin"
  | pin2 => "pin2"
  | puk => "puk"
  | puk2 => "puk2"
  | other name => name

@[simp] theorem name_ofName (text : String) : (ofName text).name = text := by
  unfold ofName
  split <;> rfl

/-- The user's codes first, then all others. -/
def rank : PinType → Nat
  | none => 0
  | pin => 1
  | pin2 => 2
  | puk => 3
  | puk2 => 4
  | other _ => 5

/-- By rank, and the other codes by name. -/
def sortKey (code : PinType) : Nat × String := (code.rank, code.name)

theorem sortKey_injective {a b : PinType} (h : a.sortKey = b.sortKey) : a = b := by
  cases a <;> cases b <;> simp_all [sortKey, rank, name]

instance : Ord PinType := ⟨@compareOn (Nat × String) PinType lexOrd sortKey⟩
instance : Std.TransOrd PinType :=
  inferInstanceAs (Std.TransCmp (@compareOn (Nat × String) PinType lexOrd sortKey))
instance : Std.LawfulEqOrd PinType where
  eq_of_compare h :=
    letI : Ord (Nat × String) := lexOrd
    sortKey_injective (Std.LawfulEqOrd.eq_of_compare (α := Nat × String) h)
instance : ToString PinType := ⟨name⟩

def toJson (code : PinType) : Json := .str code.name

end PinType

namespace Sim

inductive Status where
  | unknown
  | ok
  | noSim
  | pinRequired
  | pukRequired
  | puk2Required
  | locked
  | rejected
  deriving DecidableEq, Repr, Inhabited

namespace Status

/-- Whether the SIM waits for a code of the user. -/
def needsCode : Status → Bool
  | pinRequired | pukRequired | puk2Required => true
  | _ => false

def label : Status → String
  | unknown => "unknown"
  | ok => "ok"
  | noSim => "no SIM"
  | pinRequired => "PIN required"
  | pukRequired => "PUK required"
  | puk2Required => "PUK2 required"
  | locked => "locked"
  | rejected => "rejected"

def key : Status → String
  | unknown => "unknown"
  | ok => "ok"
  | noSim => "no_sim"
  | pinRequired => "pin_required"
  | pukRequired => "puk_required"
  | puk2Required => "puk2_required"
  | locked => "locked"
  | rejected => "rejected"

instance : ToString Status := ⟨label⟩

def toJson (status : Status) : Json := .str status.key

end Status

structure State where
  present : Option Bool
  mcc : String
  mnc : String
  imsi : String
  spn : String
  pinRequired : Option PinType
  retries : Table PinType UInt8
  lockedPins : List PinType
  tracked : Bool
  deriving DecidableEq

namespace State

def untracked : State := ⟨none, "", "", "", "", none, ∅, [], false⟩

def fresh : State := { untracked with tracked := true }

instance : Inhabited State := ⟨untracked⟩

def retriesLeft (state : State) (code : PinType) : Option UInt8 := state.retries.get? code

/-- A SIM in place is usable while it asks for nothing or for the PIN2 only, which no ordinary use
needs. A blocked SIM whose PUK has no attempts left is rejected for good. -/
def status (state : State) : Status :=
  if state.tracked then
    match state.present, state.pinRequired with
    | none, _ => .unknown
    | some false, _ => .noSim
    | some true, none => .unknown
    | some true, some .none => .ok
    | some true, some .pin2 => .ok
    | some true, some .pin => .pinRequired
    | some true, some .puk =>
      if state.retriesLeft .puk = some 0 then .rejected else .pukRequired
    | some true, some .puk2 => .puk2Required
    | some true, some (.other _) => .locked
  else .unknown

def retriesToJson (retries : Table PinType UInt8) : Json :=
  .obj (retries.entries.map fun (code, left) => (code.name, .nat left.toNat))

def fields (state : State) : List (String × Json) :=
  [("present", .ofOption .bool state.present), ("mcc", .str state.mcc), ("mnc", .str state.mnc),
    ("imsi", .str state.imsi), ("spn", .str state.spn),
    ("pin_required", .ofOption PinType.toJson state.pinRequired),
    ("retries", retriesToJson state.retries),
    ("locked_pins", .arr (state.lockedPins.map PinType.toJson)),
    ("tracked", .bool state.tracked)]

def toJson (state : State) : Json := .obj state.fields

end State

inductive Property where
  | present (there : Bool)
  | mobileCountryCode (text : String)
  | mobileNetworkCode (text : String)
  | subscriberIdentity (text : String)
  | serviceProviderName (text : String)
  | pinRequired (code : PinType)
  | retries (left : Table PinType UInt8)
  | lockedPins (codes : List PinType)
  deriving DecidableEq

def State.set (state : State) : Property → State
  | .present there => { state with present := some there }
  | .mobileCountryCode text => { state with mcc := text }
  | .mobileNetworkCode text => { state with mnc := text }
  | .subscriberIdentity text => { state with imsi := text }
  | .serviceProviderName text => { state with spn := text }
  | .pinRequired code => { state with pinRequired := some code }
  | .retries left => { state with retries := left }
  | .lockedPins codes => { state with lockedPins := codes }

end Sim

end Telephony
