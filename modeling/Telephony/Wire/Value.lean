/-!
# Values on the bus

The dynamically typed values that the modem daemon sends, and the readers that turn them into
plain ones. A reader answers `none` for a value of another shape. Variants are wrappers: scalar
readers look through any number of them.
-/

namespace Telephony.Wire

/-- The seven integer types of the bus. -/
inductive IntType where
  | byte | int16 | uint16 | int32 | uint32 | int64 | uint64
  deriving DecidableEq, Repr

inductive Value where
  | bool (b : Bool)
  | int (type : IntType) (n : Int)
  | double (bits : UInt64)
  | text (s : String)
  | objectPath (s : String)
  | signature (s : String)
  | variant (value : Value)
  | array (items : List Value)
  | dict (entries : List (Value × Value))
  | struct (fields : List Value)
  deriving Inhabited

namespace Value

/-- The value inside all variants. -/
def unwrap : Value → Value
  | .variant value => value.unwrap
  | value => value

@[simp] theorem unwrap_variant (value : Value) : (Value.variant value).unwrap = value.unwrap := rfl

def bool? (value : Value) : Option Bool :=
  match value.unwrap with
  | .bool b => some b
  | _ => none

/-- Texts and object paths both read as text. -/
def text? (value : Value) : Option String :=
  match value.unwrap with
  | .text s | .objectPath s => some s
  | _ => none

/-- An integer of any type that is not negative. -/
def nat? (value : Value) : Option Nat :=
  match value.unwrap with
  | .int _ n => if 0 ≤ n then some n.toNat else none
  | _ => none

/-- An integer of any type between zero and `limit`. -/
def natUpTo? (limit : Nat) (value : Value) : Option Nat :=
  value.nat?.filter (· ≤ limit)

/-- A member of a container may stand in one variant, and in no second one. -/
def member : Value → Value
  | .variant value => value
  | value => value

def memberText? (value : Value) : Option String :=
  match value.member with
  | .text s => some s
  | _ => none

def memberByte? (value : Value) : Option UInt8 :=
  match value.member with
  | .int .byte n => some (UInt8.ofNat n.toNat)
  | _ => none

def texts? (value : Value) : Option (List String) :=
  match value.unwrap with
  | .array items => items.mapM memberText?
  | _ => none

/-- Reads every key as a text and every value by `read`; one failure fails the whole. -/
def entriesWith? {α : Type} (read : Value → Option α) (entries : List (Value × Value)) :
    Option (List (String × α)) :=
  entries.mapM fun (key, value) => return (← key.memberText?, ← read value)

/-- A dictionary from texts to bytes, not itself in a variant. -/
def plainByteEntries? : Value → Option (List (String × UInt8))
  | .dict entries => entriesWith? memberByte? entries
  | _ => none

def byteEntries? (value : Value) : Option (List (String × UInt8)) :=
  value.unwrap.plainByteEntries?

@[simp] theorem bool?_variant (value : Value) : (Value.variant value).bool? = value.bool? := rfl

@[simp] theorem text?_variant (value : Value) : (Value.variant value).text? = value.text? := rfl

@[simp] theorem nat?_variant (value : Value) : (Value.variant value).nat? = value.nat? := rfl

@[simp] theorem natUpTo?_variant (limit : Nat) (value : Value) :
    (Value.variant value).natUpTo? limit = value.natUpTo? limit := rfl

@[simp] theorem texts?_variant (value : Value) : (Value.variant value).texts? = value.texts? := rfl

@[simp] theorem byteEntries?_variant (value : Value) :
    (Value.variant value).byteEntries? = value.byteEntries? := rfl

end Value

end Telephony.Wire
