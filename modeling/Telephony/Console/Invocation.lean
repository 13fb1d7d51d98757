import Telephony.Change
import Telephony.Console.Command
import Telephony.SupplementaryService

/-!
# Invocations

A command together with what its arguments say. Reading the arguments needs nothing but the
arguments, so a malformed one is refused before the service is touched.
-/

namespace Telephony.Console

/-- A command as it is to be carried out; most name a modem or mean the default one. -/
inductive Invocation where
  | listModems
  | modemInfo (modem : Option String)
  | switch (switch : Switch) (on : Bool) (modem : Option String)
  | simStatus (modem : Option String)
  | unlock (modem : Option String)
  | changePin (modem : Option String)
  | lock (on : Bool) (pin : String) (modem : Option String)
  | networkStatus (modem : Option String)
  | operators (scan : Bool) (modem : Option String)
  | select (target : String) (modem : Option String)
  | dataStatus (modem : Option String)
  | service (request : ServiceRequest) (modem : Option String)
  | watch (limit : Option Nat)
  deriving DecidableEq, Repr

namespace Invocation

def readSwitch (argument text : String) : Except CommandError Bool :=
  if ["on", "true", "1", "yes"].contains text.toLower then .ok true
  else if ["off", "false", "0", "no"].contains text.toLower then .ok false
  else .error (.invalidArgument argument s!"expected on or off, got '{text}'")

def missing {α : Type} (argument : String) : Except CommandError α :=
  .error (.invalidArguments s!"Missing argument '{argument}'")

def required (argument : String) : Option String → Except CommandError String
  | some text => .ok text
  | none => missing argument

/-- Modems are named by paths, and nothing else that a command can be given begins with a slash. -/
def isModem (text : String) : Bool := text.startsWith "/"

def readState (make : Bool → Option String → Invocation) (arguments : List String) :
    Except CommandError Invocation := do
  let on ← readSwitch "state" (← required "state" arguments[0]?)
  return make on arguments[1]?

def readLock (arguments : List String) : Except CommandError Invocation := do
  let on ← readSwitch "state" (← required "state" arguments[0]?)
  let pin ← required "pin" arguments[1]?
  return .lock on pin arguments[2]?

def readOperators : List String → Except CommandError Invocation
  | "scan" :: rest => .ok (.operators true rest.head?)
  | other :: _ :: _ => .error (.invalidArgument "scan" s!"expected 'scan', got '{other}'")
  | arguments => .ok (.operators false arguments.head?)

def readSelect (arguments : List String) : Except CommandError Invocation := do
  return .select (← required "operator" arguments[0]?) arguments[1]?

def readWaiting (arguments : List String) : Except CommandError Invocation :=
  match arguments.head? with
  | some first =>
    if isModem first then .ok (.service .queryWaiting (some first))
    else do return .service (.setWaiting (← readSwitch "state" first)) arguments[1]?
  | none => .ok (.service .queryWaiting none)

def readCondition (text : String) : Except CommandError Condition :=
  match Condition.ofName? text with
  | some condition => .ok condition
  | none =>
    .error (.invalidArgument "condition" s!"expected busy, no-reply or unreachable, got '{text}'")

def forward (condition : Condition) (number : String) : ServiceRequest :=
  if number = "erase" ∨ number = "off" then .erase condition else .register condition number

def readForwarding (arguments : List String) : Except CommandError Invocation :=
  match arguments.head? with
  | some first =>
    if isModem first then .ok (.service .queryForwarding (some first))
    else do
      let condition ← readCondition first
      let number ← required "number" arguments[1]?
      return .service (forward condition number) arguments[2]?
  | none => .ok (.service .queryForwarding none)

def readWatch (arguments : List String) : Except CommandError Invocation :=
  match arguments.head? with
  | none => .ok (.watch none)
  | some text =>
    match Text.readNat? (UInt64.size - 1) text with
    | some limit => .ok (.watch (some limit))
    | none => .error (.invalidArgument "count" s!"expected a number, got '{text}'")

def read (command : Command) (arguments : List String) : Except CommandError Invocation :=
  match command with
  | .modemList => .ok .listModems
  | .modemInfo => .ok (.modemInfo arguments.head?)
  | .modemPower => readState (.switch .modemPowered) arguments
  | .modemOnline => readState (.switch .modemOnline) arguments
  | .simStatus => .ok (.simStatus arguments.head?)
  | .simUnlock => .ok (.unlock arguments.head?)
  | .simChangePin => .ok (.changePin arguments.head?)
  | .simLock => readLock arguments
  | .netStatus => .ok (.networkStatus arguments.head?)
  | .netOperators => readOperators arguments
  | .netSelect => readSelect arguments
  | .dataStatus => .ok (.dataStatus arguments.head?)
  | .dataPower => readState (.switch .dataPowered) arguments
  | .dataRoaming => readState (.switch .roamingAllowed) arguments
  | .supsWaiting => readWaiting arguments
  | .supsForwarding => readForwarding arguments
  | .monitorWatch => readWatch arguments

end Invocation

end Telephony.Console
