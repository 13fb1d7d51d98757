import Telephony.Daemon
import Telephony.Link.Basic

/-!
# The methods of a daemon on the bus

The method call for each thing that the service wants of a daemon, and what is made of the answer.
With them a link is a daemon like any other. Every operation makes one call at most, and an errand
is over as soon as it has begun, since the call waits for its answer.
-/

namespace Telephony.Link

open Wire (Body MethodCall Properties Value)

variable {π : Type}

/-! ### The calls -/

def getProperties (path : ModemPath) (interface : Interface) : MethodCall :=
  ⟨path.text, interface.shortName, "GetProperties", []⟩

def setProperty (path : ModemPath) (switch : Switch) (on : Bool) : MethodCall :=
  ⟨path.text, switch.interface.shortName, "SetProperty",
    [.text switch.name, .variant (.bool on)]⟩

/-- A method of the SIM manager, for a code and the digits that go with it. -/
def simMethod (path : ModemPath) (member : String) (code : SecurityCode) (digits : List String) :
    MethodCall :=
  ⟨path.text, Interface.simManager.shortName, member, (code.name :: digits).map .text⟩

def initiate (path : ModemPath) (command : String) : MethodCall :=
  ⟨path.text, Interface.supplementaryServices.shortName, "Initiate", [.text command]⟩

/-- The operators of the last scan, or those of a new one. -/
def listing (path : ModemPath) (scan : Bool) : MethodCall :=
  ⟨path.text, Interface.networkRegistration.shortName, if scan then "Scan" else "GetOperators", []⟩

def registration (path : ModemPath) : MethodCall :=
  ⟨path.text, Interface.networkRegistration.shortName, "Register", []⟩

def registrationWith (operator : String) : MethodCall :=
  ⟨operator, "NetworkOperator", "Register", []⟩

/-! ### The answers -/

/-- The answer to a method that brings nothing but its success. -/
def nothing? (_ : Body) : Option Unit := some ()

def operatorOfEntry (entry : Wire.ObjectEntry) : Network.Operator where
  path := entry.1
  name := entry.2.text "Name"
  status := .ofName (entry.2.text "Status")
  mcc := entry.2.text "MobileCountryCode"
  mnc := entry.2.text "MobileNetworkCode"
  technologies := entry.2.texts "Technologies"

def operators? (body : Body) : Option (List Network.Operator) :=
  body.objects?.map fun entries => entries.map operatorOfEntry

/-- A reply to a service string that cannot be read is told by its kind. -/
def replyOf (tagged : String × Value) : Except Failure ServiceReply :=
  match ServiceReply.ofValue? tagged.1 tagged.2 with
  | some reply => .ok reply
  | none => .error (.notRecognized tagged.1)

/-! ### The operations -/

variable [Peer π]

/-- Makes a call that brings nothing but its success. -/
def perform (link : Link π) (operation : String) (method : MethodCall) :
    Except Failure Unit × Link π :=
  link.call method (readResult operation nothing?)

def properties (path : ModemPath) (interface : Interface) (link : Link π) :
    Except Failure (List Change) × Link π :=
  let method := getProperties path interface
  link.call method fun answer =>
    (readProperties method answer).map fun properties =>
      Change.decodeAll interface properties.entries

/-- What setting a property is called in a report of its failure. -/
def settingOf : Switch → String
  | .modemPowered | .modemOnline => "set modem property"
  | .roamingAllowed | .dataPowered => "set connection manager property"

def setSwitch (path : ModemPath) (switch : Switch) (on : Bool) (link : Link π) :
    Except Failure Unit × Link π :=
  link.perform (settingOf switch) (setProperty path switch on)

def dial (path : ModemPath) (command : String) (link : Link π) :
    Except Failure ServiceReply × Link π :=
  link.call (initiate path command) fun answer =>
    (readResult "initiate service request" Body.tagged? answer).bind replyOf

def listOperators (path : ModemPath) (scan : Bool) (link : Link π) :
    Except Failure (List Network.Operator) × Link π :=
  link.call (listing path scan)
    (readResult (if scan then "scan operators" else "list operators") operators?)

/-- An errand takes one call. -/
def run (path : ModemPath) (errand : Errand) (link : Link π) : Answer × Link π :=
  match errand with
  | .dial code =>
    let (result, link) := link.dial path code
    (.reply result, link)
  | .listOperators scan =>
    let (result, link) := link.listOperators path scan
    (.operators result, link)

instance : Daemon (Link π) where
  connect := connect
  disconnect := disconnect
  receive := receive
  watch := watch
  unwatch := unwatch
  properties := properties
  setSwitch := setSwitch
  enterPin path code pin link :=
    link.perform "enter PIN" (simMethod path "EnterPin" code [pin])
  resetPin path code puk newPin link :=
    link.perform "reset PIN" (simMethod path "ResetPin" code [puk, newPin])
  changePin path code oldPin newPin link :=
    link.perform "change PIN" (simMethod path "ChangePin" code [oldPin, newPin])
  lockPin path code pin link :=
    link.perform "lock PIN" (simMethod path "LockPin" code [pin])
  unlockPin path code pin link :=
    link.perform "unlock PIN" (simMethod path "UnlockPin" code [pin])
  registerOperator operator link :=
    link.perform "register on operator" (registrationWith operator)
  registerAutomatically path link :=
    link.perform "automatic registration" (registration path)
  begin path errand link :=
    let (answer, link) := link.run path errand
    (some answer, link)
  poll _ _ link := (none, link)

end Telephony.Link
