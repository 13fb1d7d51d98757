import Telephony.Json

/-!
# Packet data

What is known about a modem's packet data service.
-/

namespace Telephony.PacketData

inductive Bearer where
  | unknown
  | none
  | gprs
  | edge
  | umts
  | hsdpa
  | hsupa
  | hspa
  | lte
  deriving DecidableEq, Repr, Inhabited

namespace Bearer

def ofName : String → Bearer
  | "none" => none
  | "gprs" => gprs
  | "edge" => edge
  | "umts" => umts
  | "hsdpa" => hsdpa
  | "hsupa" => hsupa
  | "hspa" => hspa
  | "lte" => lte
  | _ => unknown

def label : Bearer → String
  | unknown => "unknown"
  | none => "none"
  | gprs => "gprs"
  | edge => "edge"
  | umts => "umts"
  | hsdpa => "hsdpa"
  | hsupa => "hsupa"
  | hspa => "hspa"
  | lte => "lte"

def toJson (bearer : Bearer) : Json := .str bearer.label

end Bearer

structure State where
  attached : Bool
  powered : Bool
  suspended : Bool
  roamingAllowed : Bool
  bearer : Bearer
  tracked : Bool
  deriving DecidableEq, Repr

def State.untracked : State := ⟨false, false, false, false, .unknown, false⟩

def State.fresh : State := { State.untracked with tracked := true }

instance : Inhabited State := ⟨.untracked⟩

def State.toJson (state : State) : Json := .obj
  [("attached", .bool state.attached), ("powered", .bool state.powered),
    ("suspended", .bool state.suspended), ("roaming_allowed", .bool state.roamingAllowed),
    ("bearer", state.bearer.toJson), ("tracked", .bool state.tracked)]

inductive Property where
  | attached (on : Bool)
  | powered (on : Bool)
  | suspended (on : Bool)
  | roamingAllowed (on : Bool)
  | bearer (bearer : Bearer)
  deriving DecidableEq, Repr

def State.set (state : State) : Property → State
  | .attached on => { state with attached := on }
  | .powered on => { state with powered := on }
  | .suspended on => { state with suspended := on }
  | .roamingAllowed on => { state with roamingAllowed := on }
  | .bearer bearer => { state with bearer := bearer }

end Telephony.PacketData
