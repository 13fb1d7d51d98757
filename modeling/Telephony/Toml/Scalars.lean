import Telephony.Toml.Strings
import Telephony.Toml.Value

/-!
# Plain values in TOML

Truth values, numbers, and dates and times, as they are written. Only their form is checked, and of
dates and times also that they are on the calendar and the clock.
-/

namespace Telephony.Toml

/-- Characters of a kind, with single underscores between them. -/
def isRun (kind : Char → Bool) : Chars → Bool
  | [] => false
  | [c] => kind c
  | c :: '_' :: rest => kind c && isRun kind rest
  | c :: rest => kind c && isRun kind rest

def dropSign : Chars → Chars
  | '+' :: rest => rest
  | '-' :: rest => rest
  | chars => chars

/-- A decimal number without needless zeros in front. -/
def isDecimal (chars : Chars) : Bool :=
  isRun Text.isDigit chars && (chars.length == 1 || chars.head? != some '0')

def isInteger : Chars → Bool
  | '0' :: 'x' :: digits => isRun (fun c => (hexValue? c).isSome) digits
  | '0' :: 'o' :: digits => isRun (fun c => '0' ≤ c && c ≤ '7') digits
  | '0' :: 'b' :: digits => isRun (fun c => c == '0' || c == '1') digits
  | chars => isDecimal (dropSign chars)

/-- A whole number with a fraction, or without one where an exponent follows. -/
def isMantissa (withExponent : Bool) (chars : Chars) : Bool :=
  match Text.splitOnce? '.' chars with
  | some (whole, fraction) => isDecimal whole && isRun Text.isDigit fraction
  | none => withExponent && isDecimal chars

def isFloat (chars : Chars) : Bool :=
  let chars := dropSign chars
  if chars = "inf".toList ∨ chars = "nan".toList then true
  else
    match Text.splitOnce? 'e' (chars.map fun c => if c = 'E' then 'e' else c) with
    | some (mantissa, exponent) =>
      isMantissa true mantissa && isRun Text.isDigit (dropSign exponent)
    | none => isMantissa false chars

/-! ### Dates and times -/

def fixed? (count : Nat) (chars : Chars) : Option (Nat × Chars) :=
  let digits := chars.take count
  if digits.length = count ∧ digits.all Text.isDigit then
    some (Text.digitsValue digits, chars.drop count)
  else none

def expect? (c : Char) : Chars → Option Chars
  | d :: rest => if d = c then some rest else none
  | [] => none

def isLeapYear (year : Nat) : Bool := year % 4 == 0 && (year % 100 != 0 || year % 400 == 0)

def daysIn (year month : Nat) : Nat :=
  if month = 2 then if isLeapYear year then 29 else 28
  else if month = 4 ∨ month = 6 ∨ month = 9 ∨ month = 11 then 30
  else 31

def date? (chars : Chars) : Option Chars := do
  let (year, rest) ← fixed? 4 chars
  let (month, rest) ← fixed? 2 (← expect? '-' rest)
  let (day, rest) ← fixed? 2 (← expect? '-' rest)
  if 1 ≤ month ∧ month ≤ 12 ∧ 1 ≤ day ∧ day ≤ daysIn year month then return rest else none

/-- Hours and minutes. -/
def minutes? (chars : Chars) : Option Chars := do
  let (hour, rest) ← fixed? 2 chars
  let (minute, rest) ← fixed? 2 (← expect? ':' rest)
  if hour ≤ 23 ∧ minute ≤ 59 then return rest else none

def fraction? : Chars → Option Chars
  | '.' :: rest =>
    let after := rest.dropWhile Text.isDigit
    if after.length < rest.length then some after else none
  | chars => some chars

/-- A time of day; the seconds may be left out. -/
def clock? (chars : Chars) : Option Chars := do
  let rest ← minutes? chars
  match rest with
  | ':' :: rest => do
    let (second, rest) ← fixed? 2 rest
    if second ≤ 60 then fraction? rest else none
  | rest => return rest

def isOffset : Chars → Bool
  | [] => true
  | ['Z'] => true
  | ['z'] => true
  | '+' :: rest => minutes? rest == some []
  | '-' :: rest => minutes? rest == some []
  | _ => false

def isTime (chars : Chars) : Bool :=
  match date? chars with
  | some [] => true
  | some (c :: rest) =>
    (c == 'T' || c == 't' || c == ' ') && (clock? rest).any isOffset
  | none => clock? chars == some []

/-! ### Reading -/

def isScalarChar (c : Char) : Bool :=
  Text.isDigit c || ('a' ≤ c && c ≤ 'z') || ('A' ≤ c && c ≤ 'Z') || c == '+' || c == '-' ||
    c == '_' || c == '.' || c == ':'

/-- The characters of a plain value. Between a date and a time of day a blank may stand. -/
def scalarChars (chars : Chars) : Chars :=
  let token := chars.takeWhile isScalarChar
  match chars.drop token.length with
  | ' ' :: rest =>
    if date? token = some [] ∧ (rest.head?.any Text.isDigit) then
      token ++ ' ' :: rest.takeWhile isScalarChar
    else token
  | _ => token

def ofScalar? (token : Chars) : Option Value :=
  if token = "true".toList then some (.boolean true)
  else if token = "false".toList then some (.boolean false)
  else if isInteger token then some .integer
  else if isFloat token then some .float
  else if isTime token then some .time
  else none

def scalarValue? (chars : Chars) : Option (Value × Chars) :=
  let token := scalarChars chars
  (ofScalar? token).map (·, chars.drop token.length)

end Telephony.Toml
