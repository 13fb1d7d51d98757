import Telephony.CodeSession.Basic

/-!
# Settings

What can be set for the program: how much it logs, where the modem daemon is found, and how code
sessions are set up. Everything has a default.
-/

namespace Telephony

inductive LogLevel where
  | error
  | warn
  | info
  | debug
  | trace
  deriving DecidableEq, Repr, Inhabited

namespace LogLevel

def all : List LogLevel := [error, warn, info, debug, trace]

def name : LogLevel → String
  | error => "error"
  | warn => "warn"
  | info => "info"
  | debug => "debug"
  | trace => "trace"

/-- The more is logged the higher. -/
def severity : LogLevel → Nat
  | error => 0
  | warn => 1
  | info => 2
  | debug => 3
  | trace => 4

def ofName? (text : String) : Option LogLevel := all.find? (·.name == text)

end LogLevel

inductive BusKind where
  | system
  | session
  deriving DecidableEq, Repr, Inhabited

namespace BusKind

def all : List BusKind := [system, session]

def name : BusKind → String
  | system => "system"
  | session => "session"

def ofName? (text : String) : Option BusKind := all.find? (·.name == text)

end BusKind

structure Settings where
  logLevel : LogLevel
  bus : BusKind
  /-- The name under which the daemon is known on its bus. -/
  service : String
  codes : CodeOptions
  deriving DecidableEq, Repr

namespace Settings

def defaultCodes : CodeOptions := ⟨none, ["112", "911"], none⟩

def default : Settings := ⟨.info, .system, "org.ofono", defaultCodes⟩

instance : Inhabited Settings := ⟨default⟩

/-- A field that is left out where there is no value. -/
def optional {α : Type} (name : String) (encode : α → Json) : Option α → List (String × Json)
  | some a => [(name, encode a)]
  | none => []

def toJson (settings : Settings) : Json := .obj
  [("general", .obj [("log_level", .str settings.logLevel.name)]),
    ("ofono", .obj [("bus", .str settings.bus.name), ("service", .str settings.service)]),
    ("pin", .obj (optional "correct_command" .str settings.codes.correctCommand ++
      [("emergency_numbers", .strs settings.codes.emergencyNumbers)] ++
      optional "modem" ModemPath.toJson settings.codes.modem))]

end Settings

end Telephony
