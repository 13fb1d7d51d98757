import Telephony.Text.Decimal

/-!
# Dialled service strings

What the simulated network makes of a service string: the three strings of call waiting, the query
of all forwardings, and the registration or erasure of one forwarding by its service code.
-/

namespace Telephony

inductive Dialled where
  | queryWaiting
  | setWaiting (on : Bool)
  | queryForwarding
  | register (code : Nat) (number : String)
  | erase (code : Nat)
  deriving DecidableEq, Repr

namespace Dialled

/-- A service code is a number of one byte. -/
def serviceCode? (chars : List Char) : Option Nat := Text.readNat? 255 (String.ofList chars)

/-- The part of a forwarding string before its end, which stands for all voice calls. -/
def body? (text : String) : Option (List Char) := "**11#".toList.isSuffixOf? text.toList

def registration? (body : List Char) : Option Dialled := do
  let rest ← "**".toList.isPrefixOf? body
  let (code, number) ← Text.splitOnce? '*' rest
  return .register (← serviceCode? code) (String.ofList number)

def erasure? (body : List Char) : Option Dialled := do
  let code ← "##".toList.isPrefixOf? body
  return .erase (← serviceCode? code)

def ofText? (text : String) : Option Dialled :=
  if text = "*#43#" then some .queryWaiting
  else if text = "*43#" then some (.setWaiting true)
  else if text = "#43#" then some (.setWaiting false)
  else if text = "*#004**11#" then some .queryForwarding
  else (body? text).bind fun body => registration? body <|> erasure? body

end Dialled

end Telephony
