import Telephony.Console.Catalogue

/-!
# The commands

The commands that the console knows, and what its help says about them.
-/

namespace Telephony.Console

/-- The name of the program, as its help and its examples show it. -/
def programName : String := "connui-cellular"

inductive Command where
  | modemList
  | modemInfo
  | modemPower
  | modemOnline
  | simStatus
  | simUnlock
  | simChangePin
  | simLock
  | netStatus
  | netOperators
  | netSelect
  | dataStatus
  | dataPower
  | dataRoaming
  | supsWaiting
  | supsForwarding
  | monitorWatch
  deriving DecidableEq, Repr

namespace Command

def all : List Command :=
  [modemList, modemInfo, modemPower, modemOnline, simStatus, simUnlock, simChangePin, simLock,
    netStatus, netOperators, netSelect, dataStatus, dataPower, dataRoaming, supsWaiting,
    supsForwarding, monitorWatch]

def modemArgument : Argument :=
  ⟨"modem", "Modem object path (first modem when omitted)", false, .path⟩

def stateArgument (description : String) : Argument := ⟨"state", description, true, .boolean⟩

/-- Examples are given without the program's name. -/
def entry (category name description : String) (arguments : List Argument)
    (examples : List String) : Metadata :=
  { name, category, description, arguments,
    examples := examples.map (programName ++ " " ++ ·) }

def metadata : Command → Metadata
  | modemList => entry "modem" "list" "List all modems" []
      ["modem list", "--json modem list"]
  | modemInfo => entry "modem" "info" "Show modem details and advertised interfaces"
      [modemArgument] ["modem info", "modem info /ril_0"]
  | modemPower => entry "modem" "power" "Power the modem on or off"
      [stateArgument "on or off", modemArgument] ["modem power on", "modem power off /ril_0"]
  | modemOnline => entry "modem" "online" "Take the modem online or into flight mode"
      [stateArgument "on or off", modemArgument]
      ["modem online off", "modem online on /phonesim"]
  | simStatus => entry "sim" "status" "Show SIM status and remaining code attempts"
      [modemArgument] ["sim status", "--json sim status /ril_0"]
  | simUnlock => entry "sim" "unlock" "Enter the PIN or PUK the SIM asks for" [modemArgument]
      ["sim unlock"]
  | simChangePin => entry "sim" "change-pin" "Change the SIM PIN" [modemArgument]
      ["sim change-pin"]
  | simLock => entry "sim" "lock" "Enable or disable the PIN lock"
      [stateArgument "on to require the PIN at power-up",
        ⟨"pin", "Current PIN", true, .number⟩, modemArgument]
      ["sim lock on 1234", "sim lock off 1234 /ril_0"]
  | netStatus => entry "net" "status" "Show network registration and signal strength"
      [modemArgument] ["net status"]
  | netOperators => entry "net" "operators" "List operators; 'scan' searches for new ones first"
      [⟨"scan", "Literal 'scan' to search the air", false, .string⟩, modemArgument]
      ["net operators", "net operators scan /ril_0"]
  | netSelect => entry "net" "select"
      "Register on an operator (path, name or MCC+MNC) or 'auto'"
      [⟨"operator", "Operator path, name, MCC+MNC, or 'auto'", true, .string⟩, modemArgument]
      ["net select 24491", "net select auto"]
  | dataStatus => entry "data" "status" "Show packet data state" [modemArgument] ["data status"]
  | dataPower => entry "data" "power" "Switch packet data on or off"
      [stateArgument "on or off", modemArgument] ["data power off"]
  | dataRoaming => entry "data" "roaming" "Allow or forbid data roaming"
      [stateArgument "on or off", modemArgument]
      ["data roaming on", "data roaming off /ril_0"]
  | supsWaiting => entry "sups" "waiting" "Show call waiting, or switch it on or off"
      [⟨"state", "on or off; omit to query", false, .boolean⟩, modemArgument]
      ["sups waiting", "sups waiting on /ril_0"]
  | supsForwarding => entry "sups" "forwarding"
      "Show call forwarding, or register or erase one condition"
      [⟨"condition", "busy, no-reply or unreachable; omit to query", false, .string⟩,
        ⟨"number", "Number to forward to, or 'erase'", false, .string⟩, modemArgument]
      ["sups forwarding", "sups forwarding busy +358401234567", "sups forwarding no-reply erase"]
  | monitorWatch => entry "monitor" "watch" "Print modem, SIM, network and data changes"
      [⟨"count", "Stop after this many changes", false, .number⟩]
      ["monitor watch", "--json monitor watch 10"]

end Command

/-- Files every command of the console under its own category. -/
def Catalogue.registerAll {α : Type} (wrap : Command → α) (catalogue : Catalogue α) :
    Catalogue α :=
  Command.all.foldl (fun catalogue command =>
    catalogue.register command.metadata.category command.metadata (wrap command)) catalogue

def catalogue : Catalogue Command := Catalogue.registerAll id .empty

end Telephony.Console
