import Telephony.Table
import Telephony.Wire.ObjectPath
import Telephony.Wire.Value

/-!
# Messages

What travels over the bus: calls of a method of an object, the answers to them, and signals. The
body of an answer is a list of values; the readers take out of it what a method promises and answer
`none` for a body of another shape.
-/

namespace Telephony.Wire

structure MethodCall where
  object : String
  /-- The name of the interface without the part that all interfaces share. -/
  interface : String
  member : String
  arguments : List Value

namespace MethodCall

/-- The object and the method, without the arguments. -/
def address (call : MethodCall) : String :=
  call.object ++ " " ++ call.interface ++ "." ++ call.member

end MethodCall

/-- An error as answer to a call; it need not say more than its name. -/
structure RemoteError where
  name : String
  text : Option String
  deriving DecidableEq, Repr

namespace RemoteError

def message (error : RemoteError) : String :=
  error.name ++ ": " ++ error.text.getD "no details"

end RemoteError

abbrev Body := List Value

/-- Named values; two with the same name cannot be told apart, and the later one counts. -/
abbrev Properties := Table String Value

namespace Properties

def ofValue? : Value → Option Properties
  | .dict entries => (Value.entriesWith? some entries).map Table.ofList
  | _ => none

/-- The dictionary from texts to variants that carries the properties. -/
def toValue (properties : Properties) : Value :=
  .dict (properties.entries.map fun (name, value) => (.text name, .variant value))

def text (properties : Properties) (name : String) : String :=
  ((properties.get? name).bind Value.text?).getD ""

def texts (properties : Properties) (name : String) : List String :=
  ((properties.get? name).bind Value.texts?).getD []

end Properties

/-- An object that a method lists, with its properties. -/
abbrev ObjectEntry := String × Properties

namespace ObjectEntry

def ofValue? : Value → Option ObjectEntry
  | .struct [.objectPath object, properties] => (Properties.ofValue? properties).map (object, ·)
  | _ => none

def toValue (entry : ObjectEntry) : Value := .struct [.objectPath entry.1, entry.2.toValue]

end ObjectEntry

namespace Body

def properties? : Body → Option Properties
  | [value] => Properties.ofValue? value
  | _ => none

def ofProperties (properties : Properties) : Body := [properties.toValue]

def objects? : Body → Option (List ObjectEntry)
  | [.array items] => items.mapM ObjectEntry.ofValue?
  | _ => none

def ofObjects (entries : List ObjectEntry) : Body := [.array (entries.map ObjectEntry.toValue)]

/-- A text that says what kind of value follows, and the value. -/
def tagged? : Body → Option (String × Value)
  | [.text kind, value] => some (kind, value)
  | _ => none

def ofTagged (kind : String) (value : Value) : Body := [.text kind, .variant value]

end Body

inductive Signal where
  | modemAdded (object : String) (properties : Properties)
  | modemRemoved (object : String)
  | propertyChanged (object interface name : String) (value : Value)

def Signal.object : Signal → String
  | .modemAdded object _ | .modemRemoved object | .propertyChanged object _ _ _ => object

end Telephony.Wire
