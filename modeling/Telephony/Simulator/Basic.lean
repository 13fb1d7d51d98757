import Telephony.Daemon
import Telephony.Simulator.Modem

/-!
# The simulated daemon

A modem daemon that lives in memory. Modems and their properties are scripted from outside; the
service sees a change as it would see one of a real daemon: only of interfaces that it watches, and
decoded. Errands can be held back and let go.
-/

namespace Telephony

open Wire (Value)

structure Simulator where
  connected : Bool
  outbox : List Event
  modems : Table ModemPath Simulator.SimulatedModem
  watched : List (ModemPath × Interface)
  dialled : List (ModemPath × String)
  operators : List Network.Operator
  registered : List String
  failing : List Interface
  held : Bool

namespace Simulator

def empty : Simulator := ⟨false, [], ∅, [], [], [], [], [], false⟩

instance : Inhabited Simulator := ⟨empty⟩

def modem? (sim : Simulator) (path : ModemPath) : Option SimulatedModem := sim.modems.get? path

def find (sim : Simulator) (path : ModemPath) : Except Failure SimulatedModem :=
  match sim.modem? path with
  | some modem => .ok modem
  | none => .error (.modemNotFound path)

def isWatched (sim : Simulator) (path : ModemPath) (interface : Interface) : Bool :=
  sim.watched.contains (path, interface)

/-- An event is sent only while someone is connected. -/
def send (sim : Simulator) (event : Event) : Simulator :=
  if sim.connected then { sim with outbox := sim.outbox ++ [event] } else sim

def putModem (sim : Simulator) (path : ModemPath) (modem : SimulatedModem) : Simulator :=
  { sim with modems := sim.modems.insert path modem }

/-! ### The script's side -/

def addModem (sim : Simulator) (path : ModemPath) (interfaces : List Interface) : Simulator :=
  let modem := SimulatedModem.new interfaces
  (sim.putModem path modem).send (.modemAdded path (modem.decoded .modem))

def removeModem (sim : Simulator) (path : ModemPath) : Simulator :=
  if (sim.modem? path).isSome then
    { sim with
      modems := sim.modems.erase path
      watched := sim.watched.filter (·.1 != path) }.send (.modemRemoved path)
  else sim

/-- Stores a value of any shape, and reports the change if it can be decoded and is watched. -/
def update (sim : Simulator) (path : ModemPath) (interface : Interface) (name : String)
    (value : Value) : Except Failure Simulator := do
  let modem ← sim.find path
  let sim := sim.putModem path (modem.store interface name value)
  match Change.decode interface name value with
  | some change =>
    if sim.isWatched path interface then return sim.send (.propertyChanged path change)
    else return sim
  | none => return sim

def setInterfaces (sim : Simulator) (path : ModemPath) (interfaces : List Interface) :
    Except Failure Simulator := do
  let modem ← sim.find path
  (sim.putModem path (modem.setInterfaces interfaces)).update path .modem "Interfaces"
    (namesValue interfaces)

def setRetries (sim : Simulator) (path : ModemPath) (retries : List (String × UInt8)) :
    Except Failure Simulator :=
  sim.update path .simManager "Retries" (retriesValue retries)

def setPinRequired (sim : Simulator) (path : ModemPath) (code : String) :
    Except Failure Simulator :=
  sim.update path .simManager "PinRequired" (.text code)

/-- Locks the SIM by a PIN that has some attempts left. -/
def lockSim (sim : Simulator) (path : ModemPath) (pin : String) (retries : UInt8) :
    Except Failure Simulator := do
  let modem ← sim.find path
  let sim ← (sim.putModem path { modem with pin }).setRetries path [("pin", retries)]
  sim.setPinRequired path "pin"

/-- From now on the interface cannot be watched on any modem. -/
def failInterface (sim : Simulator) (interface : Interface) : Simulator :=
  { sim with failing := interface :: sim.failing }

/-! ### The service's side -/

def require (sim : Simulator) (path : ModemPath) (interface : Interface) : Except Failure Unit := do
  let modem ← sim.find path
  if modem.offers interface then .ok ()
  else .error (.capabilityUnavailable path interface)

def watch (sim : Simulator) (path : ModemPath) (interface : Interface) :
    Except Failure Unit × Simulator :=
  match sim.require path interface with
  | .error failure => (.error failure, sim)
  | .ok () =>
    if sim.failing.contains interface then
      (.error (.operationFailed "watch" s!"{interface.busName} unavailable"), sim)
    else if sim.isWatched path interface then (.ok (), sim)
    else (.ok (), { sim with watched := (path, interface) :: sim.watched })

def unwatch (sim : Simulator) (path : ModemPath) (interface : Interface) : Simulator :=
  { sim with watched := sim.watched.filter (· != (path, interface)) }

def properties (sim : Simulator) (path : ModemPath) (interface : Interface) :
    Except Failure (List Change) := do
  sim.require path interface
  let modem ← sim.find path
  return modem.decoded interface

/-- The outcome of a change that is all or nothing. -/
def commit (sim : Simulator) (result : Except Failure Simulator) :
    Except Failure Unit × Simulator :=
  match result with
  | .ok sim => (.ok (), sim)
  | .error failure => (.error failure, sim)

def setSwitch (sim : Simulator) (path : ModemPath) (switch : Switch) (on : Bool) :
    Except Failure Unit × Simulator :=
  sim.commit do
    sim.require path switch.interface
    sim.update path switch.interface switch.name (.bool on)

/-! ### SIM codes -/

def wrongCode (operation : String) : Failure := .operationFailed operation "wrong code"

/-- A refused attempt leaves its mark on the SIM. -/
def refuse (sim : Simulator) (operation : String) (marked : Except Failure Simulator) :
    Except Failure Unit × Simulator :=
  match marked with
  | .ok sim => (.error (wrongCode operation), sim)
  | .error failure => (.error failure, sim)

/-- Carries out an operation on the SIM of a modem. -/
def onSim (sim : Simulator) (path : ModemPath)
    (operation : SimulatedModem → Except Failure Unit × Simulator) :
    Except Failure Unit × Simulator :=
  match (do sim.require path .simManager; sim.find path) with
  | .error failure => (.error failure, sim)
  | .ok modem => operation modem

/-- The SIM is unlocked and all attempts are there again. -/
def unlocked (sim : Simulator) (path : ModemPath) : Except Failure Simulator := do
  let sim ← sim.setRetries path [("pin", fullRetries)]
  sim.setPinRequired path "none"

/-- One attempt less, as long as there is one. -/
def spend (left : UInt8) : UInt8 := if left = 0 then 0 else left - 1

/-- Only the PIN can be entered. Each wrong attempt counts, and after the last the PUK is needed. -/
def enterPin (sim : Simulator) (path : ModemPath) (code : SecurityCode) (pin : String) :
    Except Failure Unit × Simulator :=
  sim.onSim path fun modem =>
    if code = .pin ∧ modem.pin = pin then sim.commit (sim.unlocked path)
    else
      let left := spend (modem.retriesLeft "pin")
      sim.refuse "enter PIN" do
        let sim ← sim.setRetries path [("pin", left)]
        if left = 0 then
          let sim ← sim.setRetries path [("pin", 0), ("puk", pukRetries)]
          sim.setPinRequired path "puk"
        else return sim

/-- Only the PUK can unblock. Each wrong attempt counts. -/
def resetPin (sim : Simulator) (path : ModemPath) (code : SecurityCode) (puk newPin : String) :
    Except Failure Unit × Simulator :=
  sim.onSim path fun modem =>
    if code = .puk ∧ modem.puk = puk then
      sim.commit ((sim.putModem path { modem with pin := newPin }).unlocked path)
    else
      let left := spend (modem.retriesLeft "puk")
      sim.refuse "reset PIN" (sim.setRetries path [("pin", 0), ("puk", left)])

def changePin (sim : Simulator) (path : ModemPath) (code : SecurityCode)
    (oldPin newPin : String) : Except Failure Unit × Simulator :=
  sim.onSim path fun modem =>
    if code = .pin ∧ modem.pin = oldPin then
      (.ok (), sim.putModem path { modem with pin := newPin })
    else (.error (wrongCode "change PIN"), sim)

/-- Sets which code is asked for at power-up; the PIN must be right. -/
def toggleLock (sim : Simulator) (path : ModemPath) (code : SecurityCode) (pin : String)
    (lock : Bool) : Except Failure Unit × Simulator :=
  sim.onSim path fun modem =>
    if modem.pin = pin then
      sim.commit (sim.update path .simManager "LockedPins"
        (.array (if lock then [.text code.name] else [])))
    else (.error (wrongCode "toggle PIN lock"), sim)

/-! ### Operators -/

def registerOperator (sim : Simulator) (operator : String) : Except Failure Unit × Simulator :=
  if sim.operators.any (·.path == operator) then
    (.ok (), { sim with registered := sim.registered ++ [operator] })
  else
    (.error (.operationFailed "register on operator" s!"unknown operator {operator}"), sim)

def registerAutomatically (sim : Simulator) (path : ModemPath) :
    Except Failure Unit × Simulator :=
  sim.commit do
    sim.require path .networkRegistration
    sim.update path .networkRegistration "Mode" (.text "auto")

/-! ### Errands -/

def dial (sim : Simulator) (path : ModemPath) (code : String) :
    Except Failure ServiceReply × Simulator :=
  match sim.find path with
  | .error failure => (.error failure, sim)
  | .ok modem =>
    match Dialled.ofText? code with
    | none =>
      (.error (.operationFailed "initiate service request"
        s!"unsupported service string {code}"), sim)
    | some dialled =>
      let (reply, modem) := modem.dial dialled
      (.ok reply, sim.putModem path modem)

/-- An errand begins if the modem offers its interface; strings that are dialled are noted. -/
def begin (sim : Simulator) (path : ModemPath) (errand : Errand) : Option Answer × Simulator :=
  match errand with
  | .dial code =>
    match sim.require path .supplementaryServices with
    | .error failure => (some (errand.failed failure), sim)
    | .ok () => (none, { sim with dialled := sim.dialled ++ [(path, code)] })
  | .listOperators _ =>
    match sim.require path .networkRegistration with
    | .error failure => (some (errand.failed failure), sim)
    | .ok () => (none, sim)

/-- Nothing is answered while errands are held. -/
def poll (sim : Simulator) (path : ModemPath) (errand : Errand) : Option Answer × Simulator :=
  if sim.held then (none, sim)
  else
    match errand with
    | .dial code =>
      let (result, sim) := sim.dial path code
      (some (.reply result), sim)
    | .listOperators _ => (some (.operators (.ok sim.operators)), sim)

instance : Daemon Simulator where
  connect sim :=
    (.ok (sim.modems.entries.map fun (path, modem) => (path, modem.decoded .modem)),
      { sim with connected := true, outbox := [], watched := [] })
  disconnect sim := { sim with connected := false, outbox := [], watched := [] }
  receive sim := (sim.outbox, { sim with outbox := [] })
  watch path interface sim := sim.watch path interface
  unwatch path interface sim := sim.unwatch path interface
  properties path interface sim := (sim.properties path interface, sim)
  setSwitch path switch on sim := sim.setSwitch path switch on
  enterPin path code pin sim := sim.enterPin path code pin
  resetPin path code puk newPin sim := sim.resetPin path code puk newPin
  changePin path code oldPin newPin sim := sim.changePin path code oldPin newPin
  lockPin path code pin sim := sim.toggleLock path code pin true
  unlockPin path code pin sim := sim.toggleLock path code pin false
  registerOperator operator sim := sim.registerOperator operator
  registerAutomatically path sim := sim.registerAutomatically path
  begin path errand sim := sim.begin path errand
  poll path errand sim := sim.poll path errand

end Simulator

end Telephony
