import Telephony.CodeSession.Basic
import Telephony.Console.Style
import Telephony.Text.Blank

/-!
# Dialogs on a terminal

How the dialogs and notices of a code session are written on a terminal, and how a line that was
typed is read as an answer.
-/

namespace Telephony.Console.Terminal

open CodeSession (Dialog Kind Notice)

def label : Kind → String
  | .unlock code => s!"Enter {code.name.toUpper}"
  | .currentPin => "Current PIN"
  | .newPin => "New PIN"
  | .confirmPin => "Confirm new PIN"

/-- A line with the message, if there is one, and the prompt, which leaves its line open. -/
def prompt (dialog : Dialog) : String :=
  let message := match dialog.message with
    | some message => Style.error message.text ++ "\n"
    | none => ""
  let attempts := match dialog.attempts with
    | some left => s!" ({left} left)"
    | none => ""
  message ++ label dialog.kind ++ attempts ++ ": "

def notice (notice : Notice) : String := Style.subheader notice.text ++ "\n"

/-- A line of blanks, or the end of the input, dismisses the dialog. -/
def answer (line : Option String) : Option String :=
  (line.map Text.trim).filter (· != "")

/-- The lines of a text; the last one need not be ended. -/
def linesOf (text : String) : List String :=
  let parts := text.splitOn "\n"
  if parts.getLast? = some "" then parts.dropLast else parts

end Telephony.Console.Terminal
