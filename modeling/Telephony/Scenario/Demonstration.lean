import Telephony.Scenario.Play
import Telephony.Settings.Basic

/-!
# A command on a demonstration modem

One command line, carried out on a simulated daemon with a single modem that offers everything, and
what the program writes of it.
-/

namespace Telephony.Scenario

structure Finished where
  output : String
  errors : String
  failed : Bool
  deriving DecidableEq, Repr

namespace Demonstration

def modem : ModemPath := ⟨"/phonesim"⟩

/-- The words behind the program's own option, which asks for JSON. -/
def formatOf : List String → Console.Format × List String
  | "--json" :: words => (.json, (formatOf words).2)
  | words => (.text, words)

/-- A command line without words asks for help. -/
def lineOf (format : Console.Format) (words : List String) (input : String) : ConsoleStep :=
  .line (words[0]?.getD "help") (words[1]?.getD "") (words.drop 2) format (some input)

def beats (step : ConsoleStep) : List Beat :=
  [.single (.daemon (.addModem modem Interface.tracked)), .single (.console step)]

/-- Only commands on SIMs ask for anything. -/
def readsInput (arguments : List String) : Bool := (formatOf arguments).2.head? == some "sim"

/-- The result of a command behind what was written while it ran; a blank result is not shown. -/
def finished (report : Report) : Finished :=
  match report.outcome with
  | .command (.ok text) =>
    let shown := if Text.trim text = "" then "" else text ++ "\n"
    ⟨report.output ++ shown, report.errors, false⟩
  | .command (.error error) =>
    ⟨report.output, report.errors ++ Console.Style.error error.message ++ "\n", true⟩
  | _ => ⟨report.output, report.errors, false⟩

def run (arguments : List String) (input : String) : Finished :=
  let (format, words) := formatOf arguments
  match (play Settings.default.codes (beats (lineOf format words input))).getLast? with
  | some report => finished report
  | none => ⟨"", "", false⟩

end Demonstration

end Telephony.Scenario
