import Telephony.Sim
import Telephony.Text.Decimal

/-!
# Security codes

The four codes a user can be asked for, and which texts are well formed as such a code.
-/

namespace Telephony

inductive SecurityCode where
  | pin
  | pin2
  | puk
  | puk2
  deriving DecidableEq, Repr

namespace SecurityCode

def name : SecurityCode → String
  | pin => "pin"
  | pin2 => "pin2"
  | puk => "puk"
  | puk2 => "puk2"

/-- Read in any case. -/
def ofName? (text : String) : Option SecurityCode :=
  match text.toLower with
  | "pin" => some pin
  | "pin2" => some pin2
  | "puk" => some puk
  | "puk2" => some puk2
  | _ => none

def pinType : SecurityCode → PinType
  | pin => .pin
  | pin2 => .pin2
  | puk => .puk
  | puk2 => .puk2

instance : ToString SecurityCode := ⟨name⟩

def toJson (code : SecurityCode) : Json := .str code.name

/-- A PIN has four to eight digits and a PUK exactly eight. -/
def accepts (code : SecurityCode) (text : String) : Bool :=
  let digits := text.toList
  digits.all Text.isDigit &&
    match code with
    | pin | pin2 => 4 ≤ digits.length && digits.length ≤ 8
    | puk | puk2 => digits.length == 8

/-- The code that is set anew when a code is unblocked: the second PIN by the second PUK, else the
first. -/
def renewed : SecurityCode → SecurityCode
  | puk2 | pin2 => pin2
  | puk | pin => pin

end SecurityCode

end Telephony
