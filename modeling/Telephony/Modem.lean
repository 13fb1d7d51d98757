import Telephony.Interface

/-!
# Modems

A modem's path, which is its identity on the bus, what is known about it, and the properties that
change this knowledge.
-/

namespace Telephony

structure ModemPath where
  text : String
  deriving DecidableEq, Repr

namespace ModemPath

instance : Ord ModemPath := ⟨compareOn (·.text)⟩
instance : Std.TransOrd ModemPath := inferInstanceAs (Std.TransCmp (compareOn ModemPath.text))
instance : Std.LawfulEqOrd ModemPath where
  eq_of_compare {a b} h := by
    cases a; cases b
    exact congrArg ModemPath.mk (Std.LawfulEqOrd.eq_of_compare (α := String) h)
instance : Inhabited ModemPath := ⟨⟨""⟩⟩
instance : ToString ModemPath := ⟨text⟩

def toJson (path : ModemPath) : Json := .str path.text

end ModemPath

namespace Modem

/-- What is known about a modem. A state that is not tracked stands for a modem that is gone. -/
structure State where
  online : Bool
  powered : Bool
  manufacturer : String
  model : String
  revision : String
  serial : String
  interfaces : InterfaceSet
  emergencyNumbers : List String
  tracked : Bool
  deriving DecidableEq, Repr

def State.untracked : State := ⟨false, false, "", "", "", "", ∅, [], false⟩

/-- Nothing is known yet. -/
def State.fresh : State := { State.untracked with tracked := true }

instance : Inhabited State := ⟨.untracked⟩

def State.fields (state : State) : List (String × Json) :=
  [("online", .bool state.online), ("powered", .bool state.powered),
    ("manufacturer", .str state.manufacturer), ("model", .str state.model),
    ("revision", .str state.revision), ("serial", .str state.serial),
    ("interfaces", state.interfaces.toJson),
    ("emergency_numbers", .strs state.emergencyNumbers), ("tracked", .bool state.tracked)]

def State.toJson (state : State) : Json := .obj state.fields

inductive Property where
  | powered (on : Bool)
  | online (on : Bool)
  | manufacturer (text : String)
  | model (text : String)
  | revision (text : String)
  | serial (text : String)
  | interfaces (set : InterfaceSet)
  deriving DecidableEq, Repr

def State.set (state : State) : Property → State
  | .powered on => { state with powered := on }
  | .online on => { state with online := on }
  | .manufacturer text => { state with manufacturer := text }
  | .model text => { state with model := text }
  | .revision text => { state with revision := text }
  | .serial text => { state with serial := text }
  | .interfaces set => { state with interfaces := set }

/-- Properties of the voice call manager, which are kept with the modem's own. -/
inductive VoiceProperty where
  | emergencyNumbers (numbers : List String)
  deriving DecidableEq, Repr

def State.setVoice (state : State) : VoiceProperty → State
  | .emergencyNumbers numbers => { state with emergencyNumbers := numbers }

end Modem

end Telephony
