import Telephony.CallTable
import Telephony.Modem

/-!
# Failures

Why an operation on a modem did not succeed, and the words in which this is told.
-/

namespace Telephony

inductive Failure where
  /-- The daemon answered a call with an error. -/
  | bus (text : String)
  /-- A call was to be made on an object that cannot exist. -/
  | invalidPath (path : String)
  /-- The answer to a call had another shape than the method promises. -/
  | unexpectedReply (method : String)
  | initialization (reason : String)
  | modemNotFound (path : ModemPath)
  | capabilityUnavailable (path : ModemPath) (interface : Interface)
  | callNotFound (id : CallId)
  | observerNotFound
  | operationFailed (operation reason : String)
  | invalidInput (field reason : String)
  | notRecognized (kind : String)
  | canceled
  | sessionActive
  deriving DecidableEq, Repr

namespace Failure

def message : Failure → String
  | bus text => s!"D-Bus operation failed: {text}"
  | invalidPath path => s!"D-Bus operation failed: invalid object path {path}"
  | unexpectedReply method => s!"D-Bus operation failed: unexpected reply to {method}"
  | initialization reason => s!"Failed to initialize cellular service: {reason}"
  | modemNotFound path => s!"Modem {path} not found"
  | capabilityUnavailable path interface => s!"Modem {path} has no {interface.busName} interface"
  | callNotFound id => s!"Call {id} not found"
  | observerNotFound => "Observer not found"
  | operationFailed operation reason => s!"Cellular operation failed: {operation} - {reason}"
  | invalidInput field reason => s!"Invalid {field}: {reason}"
  | notRecognized kind => s!"Response not recognized: {kind}"
  | canceled => "Operation canceled"
  | sessionActive => "A security code session is already active"

instance : ToString Failure := ⟨message⟩

def kind : Failure → String
  | bus _ | invalidPath _ | unexpectedReply _ => "DbusError"
  | initialization _ => "InitializationFailed"
  | modemNotFound _ => "ModemNotFound"
  | capabilityUnavailable _ _ => "CapabilityUnavailable"
  | callNotFound _ => "CallNotFound"
  | observerNotFound => "ObserverNotFound"
  | operationFailed _ _ => "OperationFailed"
  | invalidInput _ _ => "InvalidInput"
  | notRecognized _ => "NotRecognized"
  | canceled => "Canceled"
  | sessionActive => "SessionActive"

/-- Of failures on the bus only the daemon's own are told in words. -/
def toJson (failure : Failure) : Json :=
  match failure with
  | invalidPath _ | unexpectedReply _ => .obj [("error", .str failure.kind)]
  | _ => .obj [("error", .str failure.kind), ("message", .str failure.message)]

/-- A success as an object with the value, a failure as an object of its own. -/
def resultToJson {α : Type} (encode : α → Json) : Except Failure α → Json
  | .ok a => .obj [("ok", encode a)]
  | .error failure => failure.toJson

end Failure

end Telephony
