import Telephony.Json

/-!
# Interfaces

The interfaces of a modem that are of interest, their names on the bus, and sets of them. The modem
interface itself is always there; the other five come and go and are tracked one by one.
-/

namespace Telephony

inductive Interface where
  | modem
  | simManager
  | networkRegistration
  | connectionManager
  | supplementaryServices
  | voiceCallManager
  deriving DecidableEq, Repr

namespace Interface

/-- The interfaces that a modem may gain and lose, in the order in which they are attached and
detached. -/
def tracked : List Interface :=
  [simManager, networkRegistration, connectionManager, supplementaryServices, voiceCallManager]

def all : List Interface := modem :: tracked

theorem mem_all (i : Interface) : i ∈ all := by cases i <;> decide

theorem mem_tracked_iff {i : Interface} : i ∈ tracked ↔ i ≠ modem := by cases i <;> decide

/-- The name without the part that all interfaces share. -/
def shortName : Interface → String
  | modem => "Modem"
  | simManager => "SimManager"
  | networkRegistration => "NetworkRegistration"
  | connectionManager => "ConnectionManager"
  | supplementaryServices => "SupplementaryServices"
  | voiceCallManager => "VoiceCallManager"

def busName (i : Interface) : String := "org.ofono." ++ i.shortName

def ofBusName? (name : String) : Option Interface := all.find? (·.busName == name)

def toJson (i : Interface) : Json := .str i.shortName

end Interface

/-- A set of interfaces; a modem announces which ones it offers. -/
structure InterfaceSet where
  modem : Bool
  simManager : Bool
  networkRegistration : Bool
  connectionManager : Bool
  supplementaryServices : Bool
  voiceCallManager : Bool
  deriving DecidableEq, Repr

namespace InterfaceSet

def empty : InterfaceSet := ⟨false, false, false, false, false, false⟩

instance : EmptyCollection InterfaceSet := ⟨empty⟩
instance : Inhabited InterfaceSet := ⟨empty⟩

def has (set : InterfaceSet) : Interface → Bool
  | .modem => set.modem
  | .simManager => set.simManager
  | .networkRegistration => set.networkRegistration
  | .connectionManager => set.connectionManager
  | .supplementaryServices => set.supplementaryServices
  | .voiceCallManager => set.voiceCallManager

def insert (set : InterfaceSet) : Interface → InterfaceSet
  | .modem => { set with modem := true }
  | .simManager => { set with simManager := true }
  | .networkRegistration => { set with networkRegistration := true }
  | .connectionManager => { set with connectionManager := true }
  | .supplementaryServices => { set with supplementaryServices := true }
  | .voiceCallManager => { set with voiceCallManager := true }

theorem has_insert (set : InterfaceSet) (i j : Interface) :
    (set.insert i).has j = (decide (i = j) || set.has j) := by
  cases i <;> cases j <;> simp [insert, has]

theorem ext_has {a b : InterfaceSet} (h : ∀ i, a.has i = b.has i) : a = b := by
  cases a; cases b
  simpa [has] using And.intro (h .modem) ⟨h .simManager, h .networkRegistration,
    h .connectionManager, h .supplementaryServices, h .voiceCallManager⟩

def ofList (interfaces : List Interface) : InterfaceSet := interfaces.foldl insert empty

/-- Names that belong to no interface of interest are passed over. -/
def ofNames (names : List String) : InterfaceSet := ofList (names.filterMap Interface.ofBusName?)

def tracked (set : InterfaceSet) : List Interface := Interface.tracked.filter set.has

/-- One bit for each interface, the modem's lowest. -/
def bits (set : InterfaceSet) : Nat :=
  Interface.all.foldr (fun i rest => 2 * rest + (set.has i).toNat) 0

/-- Only the tracked interfaces are listed. -/
def toJson (set : InterfaceSet) : Json := .strs (set.tracked.map Interface.busName)

end InterfaceSet

end Telephony
