import Telephony.Wire.Value

/-!
# Type signatures

The types of the values on the bus, and the signatures by which they are written: one character for
a plain type, `a` in front of the type of the items of an array, braces around the two types of a
dictionary's entries behind such an `a`, and parentheses around the types of the fields of a
structure.
-/

namespace Telephony.Wire

inductive Shape where
  | bool
  | int (type : IntType)
  | double
  | text
  | objectPath
  | signature
  | variant
  | array (item : Shape)
  | dict (key value : Shape)
  | struct (fields : List Shape)
  deriving Inhabited

namespace Shape

def plain? : Char → Option Shape
  | 'b' => some bool
  | 'y' => some (int .byte)
  | 'n' => some (int .int16)
  | 'q' => some (int .uint16)
  | 'i' => some (int .int32)
  | 'u' => some (int .uint32)
  | 'x' => some (int .int64)
  | 't' => some (int .uint64)
  | 'd' => some double
  | 's' => some text
  | 'o' => some objectPath
  | 'g' => some signature
  | 'v' => some variant
  | _ => none

mutual

/-- One type at the beginning of a signature, and the rest. -/
def read? : Nat → List Char → Option (Shape × List Char)
  | 0, _ => none
  | fuel + 1, 'a' :: '\x7b' :: rest => do
    let (key, rest) ← read? fuel rest
    let (value, rest) ← read? fuel rest
    match rest with
    | '\x7d' :: rest => return (dict key value, rest)
    | _ => none
  | fuel + 1, 'a' :: rest => do
    let (item, rest) ← read? fuel rest
    return (array item, rest)
  | fuel + 1, '(' :: rest => do
    let (fields, rest) ← readFields? fuel rest
    return (struct fields, rest)
  | _ + 1, c :: rest => (plain? c).map (·, rest)
  | _ + 1, [] => none

/-- The types of the fields that are still to come, up to the closing parenthesis. -/
def readFields? : Nat → List Char → Option (List Shape × List Char)
  | 0, _ => none
  | _ + 1, ')' :: rest => some ([], rest)
  | fuel + 1, chars => do
    let (field, rest) ← read? fuel chars
    let (others, rest) ← readFields? fuel rest
    return (field :: others, rest)

end

/-- The type that a signature stands for, if it stands for exactly one. -/
def ofSignature? (signature : String) : Option Shape :=
  match read? (2 * signature.length + 2) signature.toList with
  | some (shape, []) => some shape
  | _ => none

end Shape

end Telephony.Wire
