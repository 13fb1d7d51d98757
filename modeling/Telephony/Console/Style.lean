import Telephony.Text.Decimal

/-!
# Styles

How the console sets off headings, names and errors on a terminal, and the few shapes in which
values are shown.
-/

namespace Telephony.Console

namespace Style

def sequence (n : Nat) : String := s!"\x1b[{n}m"

def reset : String := sequence 0

def bold : String := sequence 1

def dim : String := sequence 2

def styled (start text : String) : String := start ++ text ++ reset

def header (text : String) : String := styled (bold ++ sequence 36) text

def subheader (text : String) : String := styled (bold ++ sequence 33) text

def command (text : String) : String := styled (bold ++ sequence 32) text

def category (text : String) : String := styled (bold ++ sequence 34) text

def description (text : String) : String := styled dim text

def usage (text : String) : String := styled dim text

def error (text : String) : String := styled (bold ++ sequence 31) text

def switch (on : Bool) : String := if on then "on" else "off"

/-- One line of a listing; an empty value shows as a dash. -/
def field (label value : String) : String :=
  "  " ++ Text.padRight 15 label ++ (if value = "" then "-" else value)

def bars (n : Nat) : String :=
  String.ofList (List.replicate (min n 5) '▮' ++ List.replicate (5 - min n 5) '▯')

def lines (parts : List String) : String := "\n".intercalate parts

end Style

end Telephony.Console
