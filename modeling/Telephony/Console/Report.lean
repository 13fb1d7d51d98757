import Telephony.Console.Style
import Telephony.Modem
import Telephony.Network
import Telephony.PacketData
import Telephony.Sim
import Telephony.SupplementaryService
import Telephony.Text.Blank

/-!
# Reports

What the console shows, in the two forms in which it can be shown: a text for people, and a JSON
value for programs.
-/

namespace Telephony.Console

inductive Format where
  | text
  | json
  deriving DecidableEq, Repr, Inhabited

structure Report where
  text : String
  json : Json

namespace Report

open Style

def render (report : Report) : Format → String
  | .text => report.text
  | .json => report.json.pretty

def powerLine (state : Modem.State) : String :=
  s!"powered {switch state.powered}, online {switch state.online}"

def modemLines (path : ModemPath) (state : Modem.State) : String :=
  let product := Text.trim (state.manufacturer ++ " " ++ state.model)
  s!"\n  {command path.text} {description product}\n      {powerLine state}"

def ofModems (modems : List (ModemPath × Modem.State)) : Report where
  text :=
    if modems.isEmpty then "No modems found"
    else s!"Found {modems.length} modem(s):\n" ++
      String.join (modems.map fun (path, state) => modemLines path state)
  json := .arr (modems.map fun (path, state) => .obj (("path", path.toJson) :: state.fields))

def ofModem (path : ModemPath) (state : Modem.State) : Report where
  text := lines
    [header path.text,
      field "Manufacturer" state.manufacturer,
      field "Model" state.model,
      field "Revision" state.revision,
      field "Serial" state.serial,
      field "Powered" (switch state.powered),
      field "Online" (switch state.online),
      field "Interfaces" (", ".intercalate (state.interfaces.tracked.map Interface.busName)),
      field "Emergency" (", ".intercalate state.emergencyNumbers)]
  json := state.toJson

def ofSim (path : ModemPath) (state : Sim.State) : Report where
  text := lines
    [header s!"SIM on {path}",
      field "Status" state.status.label,
      field "Provider" state.spn,
      field "Home network" (state.mcc ++ state.mnc),
      field "IMSI" state.imsi,
      field "Retries" (", ".intercalate
        (state.retries.entries.map fun (code, left) => s!"{code} {left}")),
      field "Locks" (", ".intercalate (state.lockedPins.map PinType.name))]
  json := .obj (("status", state.status.toJson) :: state.fields)

/-- The technology with its generation, and whether a high-speed channel is in use. -/
def technologyText (state : Network.State) : String :=
  match state.technology with
  | none => ""
  | some technology =>
    if state.hsdpa then s!"{technology} ({state.rat.label}, HSDPA)"
    else s!"{technology} ({state.rat.label})"

def ofNetwork (path : ModemPath) (state : Network.State) : Report where
  text := lines
    [header s!"Network on {path}",
      field "Status" state.status.label,
      field "Operator" state.name,
      field "Network" (state.mcc ++ state.mnc),
      field "Technology" (technologyText state),
      field "Signal" s!"{bars state.bars} {state.strength}%",
      field "Cell" (Text.hex 4 state.lac.toNat ++ ":" ++ Text.hex 1 state.cellId.toNat),
      field "Selection" state.mode.label]
  json := .obj (("rat", state.rat.toJson) :: ("bars", .nat state.bars) ::
    ("hsdpa", .bool state.hsdpa) :: state.fields)

def ofData (path : ModemPath) (state : PacketData.State) : Report where
  text := lines
    [header s!"Packet data on {path}",
      field "Attached" (switch state.attached),
      field "Powered" (switch state.powered),
      field "Suspended" (switch state.suspended),
      field "Roaming" (switch state.roamingAllowed),
      field "Bearer" state.bearer.label]
  json := state.toJson

/-- The operator in use is marked, and so is one that must not be used. -/
def operatorMark : Network.OperatorStatus → String
  | .current => "*"
  | .forbidden => "!"
  | .unknown | .available => " "

def operatorLine (operator : Network.Operator) : String :=
  s!"{operatorMark operator.status} {command operator.name} {operator.mcc}{operator.mnc} " ++
    s!"{operator.bestRat.label} {description operator.path}"

def ofOperators (operators : List Network.Operator) : Report where
  text := if operators.isEmpty then "No operators found" else lines (operators.map operatorLine)
  json := .arr (operators.map Network.Operator.toJson)

def ofWaiting (path : ModemPath) (on : Bool) : Report where
  text := s!"Call waiting on {path} is {switch on}"
  json := .obj [("enabled", .bool on)]

def forwardingText (forwarding : Forwarding) : String :=
  match forwarding.enabled, forwarding.timeout with
  | false, _ => "off"
  | true, some timeout => s!"{forwarding.number} after {timeout}s"
  | true, none => forwarding.number

def ofForwarding (path : ModemPath) (forwarding : CallForwarding) : Report where
  text := lines (header s!"Call forwarding on {path}" ::
    Condition.all.map fun condition =>
      field condition.label (forwardingText (forwarding.condition condition)))
  json := forwarding.toJson

end Report

end Telephony.Console
