import Telephony.Settings.Basic
import Telephony.Toml.Document

/-!
# Settings documents

Settings are kept in a TOML document with one table for each group of them. What a document does not
set has its default, and keys that mean nothing are passed over; but a value of the wrong type makes
the document no settings at all.

A group may also be given as an array of its values in order, and a choice between names as a table
with the chosen name as its only key and nothing in it. A date or a time in the place of a group
sets nothing.
-/

namespace Telephony.Settings

open Toml (Value Entries)

inductive Group where
  | named (entries : Entries)
  | listed (items : List Value)

namespace Group

def ofValue? : Value → Option Group
  | .table _ entries => some (.named entries)
  | .array items => some (.listed items)
  | .tables items => some (.listed (items.map (.table .header)))
  | .time => some (.named [])
  | _ => none

def get? (name : String) (place : Nat) : Group → Option Value
  | named entries => entries.lookup name
  | listed items => items[place]?

/-- Reads a value of the group; one that is not there has its default. -/
def read? {α : Type} (group : Group) (name : String) (place : Nat) (default : α)
    (read : Value → Option α) : Option α :=
  match group.get? name place with
  | none => some default
  | some value => read value

end Group

def text? : Value → Option String
  | .string s => some s
  | _ => none

def texts? : Value → Option (List String)
  | .array items => items.mapM text?
  | _ => none

def isVoid : Value → Bool
  | .array [] => true
  | .table _ [] => true
  | _ => false

def choice? : Value → Option String
  | .string s => some s
  | .table _ [(name, value)] => if isVoid value then some name else none
  | _ => none

/-- Reads a group of the document; one that is not there has no values. -/
def group? (entries : Entries) (name : String) : Option Group :=
  match entries.lookup name with
  | none => some (.named [])
  | some value => Group.ofValue? value

def codes? (group : Group) : Option CodeOptions := do
  let correctCommand ← group.read? "correct_command" 0 none fun value => (text? value).map some
  let emergencyNumbers ←
    group.read? "emergency_numbers" 1 default.codes.emergencyNumbers texts?
  let modem ← group.read? "modem" 2 none fun value => (text? value).map fun s => some ⟨s⟩
  return ⟨correctCommand, emergencyNumbers, modem⟩

def ofEntries? (entries : Entries) : Option Settings := do
  let general ← group? entries "general"
  let logLevel ← general.read? "log_level" 0 default.logLevel fun value =>
    (choice? value).bind LogLevel.ofName?
  let daemon ← group? entries "ofono"
  let bus ← daemon.read? "bus" 0 default.bus fun value => (choice? value).bind BusKind.ofName?
  let service ← daemon.read? "service" 1 default.service text?
  let codes ← codes? (← group? entries "pin")
  return ⟨logLevel, bus, service, codes⟩

def ofText? (text : String) : Option Settings := (Toml.read? text).bind ofEntries?

/-- The document that holds the defaults, as it is written when there is none. -/
def defaultDocument : String :=
  let numbers := default.codes.emergencyNumbers.map fun number => "    \"" ++ number ++ "\",\n"
  "# connui-cellular configuration file\n\n" ++
    "[general]\nlog_level = \"" ++ default.logLevel.name ++ "\"\n\n" ++
    "[ofono]\nbus = \"" ++ default.bus.name ++ "\"\nservice = \"" ++ default.service ++ "\"\n\n" ++
    "[pin]\nemergency_numbers = [\n" ++ String.join numbers ++ "]\n"

end Telephony.Settings
