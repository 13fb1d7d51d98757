import Telephony.Failure
import Telephony.Table

/-!
# Catalogues of commands

Commands by category and name, with what is known about each of them, and the checks that are made
before a command sees its arguments.
-/

namespace Telephony.Console

inductive CommandError where
  | commandNotFound (text : String)
  | invalidArguments (text : String)
  | invalidArgument (argument reason : String)
  | config (text : String)
  | service (service details : String)
  | output (text : String)
  | io (text : String)
  deriving DecidableEq, Repr

namespace CommandError

def message : CommandError → String
  | commandNotFound text => s!"Command not found: {text}"
  | invalidArguments text => s!"Invalid arguments: {text}"
  | invalidArgument argument reason => s!"Invalid argument '{argument}': {reason}"
  | config text => s!"Configuration error: {text}"
  | service name details => s!"{name} error: {details}"
  | output text => s!"Output error: {text}"
  | io text => s!"IO error: {text}"

def kind : CommandError → String
  | commandNotFound _ => "CommandNotFound"
  | invalidArguments _ => "InvalidArguments"
  | invalidArgument _ _ => "InvalidArgument"
  | config _ => "ConfigError"
  | service _ _ => "ServiceError"
  | output _ => "OutputError"
  | io _ => "IoError"

def toJson (error : CommandError) : Json := .obj
  [("error", .str error.kind), ("message", .str error.message)]

def resultToJson : Except CommandError String → Json
  | .ok text => .obj [("ok", .str text)]
  | .error error => error.toJson

def ofFailure (failure : Failure) : CommandError := service "Cellular" failure.message

def categoryNotFound (category : String) : CommandError :=
  commandNotFound s!"Failed to find category '{category}'"

def nameNotFound (name : String) : CommandError :=
  commandNotFound s!"Failed to find command '{name}'"

end CommandError

inductive ArgumentType where
  | string
  | number
  | boolean
  | path
  deriving DecidableEq, Repr

structure Argument where
  name : String
  description : String
  required : Bool
  type : ArgumentType
  deriving DecidableEq, Repr

/-- What is known about a command without running it. -/
structure Metadata where
  name : String
  category : String
  description : String
  arguments : List Argument
  examples : List String
  deriving DecidableEq, Repr

/-- The count of arguments must lie between that of the required ones and that of all. -/
def Metadata.checkCount (metadata : Metadata) (arguments : List String) :
    Except CommandError Unit :=
  let required := metadata.arguments.countP (·.required)
  let total := metadata.arguments.length
  let given := arguments.length
  if given < required then
    .error (.invalidArguments s!"Expected at least {required} arguments, got {given}")
  else if total < given then
    .error (.invalidArguments s!"Expected at most {total} arguments, got {given}")
  else .ok ()

/-- A command is filed under a category, which need not be the one it names itself, and under its
name. -/
structure Catalogue (α : Type) where
  categories : Table String (Table String (Metadata × α))

namespace Catalogue

variable {α : Type}

def empty : Catalogue α := ⟨∅⟩

/-- A second command of one name takes the place of the first. -/
def register (catalogue : Catalogue α) (category : String) (metadata : Metadata) (command : α) :
    Catalogue α :=
  let commands := (catalogue.categories.get? category).getD ∅
  ⟨catalogue.categories.insert category (commands.insert metadata.name (metadata, command))⟩

def find (catalogue : Catalogue α) (category name : String) :
    Except CommandError (Metadata × α) :=
  match catalogue.categories.get? category with
  | none => .error (.categoryNotFound category)
  | some commands =>
    match commands.get? name with
    | none => .error (.nameNotFound name)
    | some found => .ok found

/-- The command to run, once the count of its arguments is right. -/
def select (catalogue : Catalogue α) (category name : String) (arguments : List String) :
    Except CommandError α := do
  let (metadata, command) ← catalogue.find category name
  metadata.checkCount arguments
  return command

/-- The categories with the names of their commands. -/
def list (catalogue : Catalogue α) : List (String × List String) :=
  catalogue.categories.entries.map fun (category, commands) => (category, commands.keys)

def metadata? (catalogue : Catalogue α) (category : String) : Option (List Metadata) :=
  (catalogue.categories.get? category).map fun commands => commands.values.map (·.1)

end Catalogue

end Telephony.Console
