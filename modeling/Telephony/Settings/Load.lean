import Telephony.Console.Catalogue
import Telephony.Settings.Disk
import Telephony.Settings.Document

/-!
# Loading settings

Where settings are kept, what happens when they are first looked for, and the errors of all this in
words.
-/

namespace Telephony

inductive SettingsError where
  | invalid (component details : String)
  /-- An operation on a file or directory did not succeed. -/
  | file (path details : String)
  /-- There is no place to look in. -/
  | place (details : String)
  | document (location details : String)
  | logging (details : String)
  deriving DecidableEq, Repr

def SettingsError.message : SettingsError → String
  | invalid component details => s!"configuration validation failed for '{component}': {details}"
  | file path details => s!"I/O error on '{path}': {details}"
  | place details => s!"IO error: {details}"
  | document location details => s!"failed to parse TOML at '{location}': {details}"
  | logging details => s!"failed to initialise logging: {details}"

def Console.CommandError.ofSettings (error : SettingsError) : Console.CommandError :=
  .config error.message

namespace Settings

/-- The directory that belongs to the program, among those of others. -/
def directoryName : String := "connui-cellular"

structure Environment where
  home : Option String
  configHome : Option String
  stateHome : Option String

def below (path name : String) : String :=
  if path = "" ∨ path.endsWith "/" then path ++ name else path ++ "/" ++ name

inductive PlaceError where
  /-- Neither the variable nor the home directory is set. -/
  | unset (variableName : String)
  | disk (error : DiskError)
  deriving DecidableEq, Repr

def PlaceError.message : PlaceError → String
  | unset variableName =>
    s!"Neither {variableName} nor HOME environment variable found"
  | disk error => error.message

def baseDirectory (variableName : String) (set home : Option String) (inHome : String) :
    Except PlaceError String :=
  match set <|> home.map (· ++ inHome) with
  | some base => .ok (below base directoryName)
  | none => .error (.unset variableName)

def configDirectory (env : Environment) : Except PlaceError String :=
  baseDirectory "XDG_CONFIG_HOME" env.configHome env.home "/.config"

def mainFile (env : Environment) : Except PlaceError String :=
  (configDirectory env).map (below · "config.toml")

/-- A directory that is made if nothing is there. -/
def ensured (disk : Disk) (path : String) : Except PlaceError (String × Disk) :=
  if disk.pathExists path then .ok (path, disk)
  else
    match disk.ensureDirectory path with
    | .ok disk => .ok (path, disk)
    | .error error => .error (.disk error)

def stateDirectory (env : Environment) (disk : Disk) : Except PlaceError (String × Disk) := do
  ensured disk (← baseDirectory "XDG_STATE_HOME" env.stateHome env.home "/.local/state")

def logDirectory (env : Environment) (disk : Disk) : Except PlaceError (String × Disk) := do
  let (path, disk) ← stateDirectory env disk
  ensured disk (below path "logs")

/-- The settings in a text; the location is only named in the error. -/
def parse (text : String) (origin : Option String) : Except SettingsError Settings :=
  match ofText? text with
  | some settings => .ok settings
  | none => .error (.document (origin.getD "string") "not a settings document")

/-- Writes the defaults to a file, in directories that are made for it. The disk that comes back
with an error has what was made before the error. -/
def writeDefaults (disk : Disk) (path : String) : Except SettingsError Unit × Disk :=
  let directory := (Disk.parent? path).getD ""
  match disk.ensureDirectory directory with
  | .error error => (.error (.file directory error.message), disk)
  | .ok disk =>
    match disk.write path defaultDocument.toUTF8 with
    | .error error => (.error (.file path error.message), disk)
    | .ok disk => (.ok (), disk)

def readFile (disk : Disk) (path : String) : Except SettingsError Settings :=
  match disk.readText path with
  | .error error => .error (.file path error.message)
  | .ok text => parse text (some path)

/-- The settings in a file; a file that is not there is written with the defaults first. -/
def load (disk : Disk) (path : String) : Except SettingsError Settings × Disk :=
  if disk.pathExists path then (readFile disk path, disk)
  else
    match writeDefaults disk path with
    | (.error error, disk) => (.error error, disk)
    | (.ok (), disk) => (readFile disk path, disk)

def loadMain (env : Environment) (disk : Disk) : Except SettingsError Settings × Disk :=
  match mainFile env with
  | .error error => (.error (.place error.message), disk)
  | .ok path => load disk path

end Settings

end Telephony
