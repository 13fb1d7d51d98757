/-!
# JSON output

Values whose object fields keep their order, and the two forms in which they are written: on one
line, and indented by two blanks with every item on a line of its own.
-/

namespace Telephony

inductive Json where
  | null
  | bool (b : Bool)
  | int (n : Int)
  | str (s : String)
  | arr (items : List Json)
  | obj (fields : List (String × Json))
  deriving Inhabited

namespace Json

def hexDigit (n : Nat) : Char := (Nat.digitChar (n % 16))

/-- Quotes, backslashes and the control characters below the blank are escaped, and nothing else. -/
def escapeChar (c : Char) : List Char :=
  if c = '"' then ['\\', '"']
  else if c = '\\' then ['\\', '\\']
  else if c = '\n' then ['\\', 'n']
  else if c = '\r' then ['\\', 'r']
  else if c = '\t' then ['\\', 't']
  else if c = '\x08' then ['\\', 'b']
  else if c = '\x0c' then ['\\', 'f']
  else if c.toNat < 0x20 then ['\\', 'u', '0', '0', hexDigit (c.toNat / 16), hexDigit c.toNat]
  else [c]

def quote (s : String) : String :=
  "\"" ++ String.ofList (s.toList.flatMap escapeChar) ++ "\""

def brace (body : String) : String := "\x7b" ++ body ++ "\x7d"

def bracket (body : String) : String := "[" ++ body ++ "]"

mutual

/-- All on one line, without blanks. -/
def compact : Json → String
  | .null => "null"
  | .bool b => toString b
  | .int n => toString n
  | .str s => quote s
  | .arr items => bracket (",".intercalate (compactItems items))
  | .obj fields => brace (",".intercalate (compactFields fields))

def compactItems : List Json → List String
  | [] => []
  | item :: rest => item.compact :: compactItems rest

def compactFields : List (String × Json) → List String
  | [] => []
  | (name, value) :: rest => (quote name ++ ":" ++ value.compact) :: compactFields rest

end

def newline (depth : Nat) : String := "\n" ++ String.ofList (List.replicate (2 * depth) ' ')

/-- The lines of a container's items, one step deeper than the container itself. -/
def block (depth : Nat) (items : List String) : String :=
  newline (depth + 1) ++ ("," ++ newline (depth + 1)).intercalate items ++ newline depth

mutual

/-- Indented by two blanks a level; an empty container stays on its line. -/
def prettyAt (depth : Nat) : Json → String
  | .arr [] => "[]"
  | .obj [] => brace ""
  | .arr (item :: rest) => bracket (block depth (prettyItems (depth + 1) (item :: rest)))
  | .obj (field :: rest) => brace (block depth (prettyFields (depth + 1) (field :: rest)))
  | .null => "null"
  | .bool b => toString b
  | .int n => toString n
  | .str s => quote s

def prettyItems (depth : Nat) : List Json → List String
  | [] => []
  | item :: rest => item.prettyAt depth :: prettyItems depth rest

def prettyFields (depth : Nat) : List (String × Json) → List String
  | [] => []
  | (name, value) :: rest => (quote name ++ ": " ++ value.prettyAt depth) :: prettyFields depth rest

end

def pretty (value : Json) : String := value.prettyAt 0

def nat (n : Nat) : Json := .int n

def strs (texts : List String) : Json := .arr (texts.map .str)

/-- A missing value is written as null. -/
def ofOption {α : Type} (f : α → Json) : Option α → Json
  | none => .null
  | some a => f a

end Json

end Telephony
