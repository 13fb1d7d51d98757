import Telephony.Text.Decimal

/-!
# Strings and blanks in TOML

The four kinds of strings, and what may stand between the parts of a document. Each reader takes the
characters behind the opening quotes and gives what it has read with the characters that are left;
it fails on a character that may not stand there.
-/

namespace Telephony.Toml

abbrev Chars := List Char

def isBlank (c : Char) : Bool := c == ' ' || c == '\t'

def skipBlanks (chars : Chars) : Chars := chars.dropWhile isBlank

/-- No control characters but the tab. -/
def isPlain (c : Char) : Bool := c == '\t' || (0x20 ≤ c.toNat && c != '\x7f')

def newline? : Chars → Option Chars
  | '\n' :: rest => some rest
  | '\r' :: '\n' :: rest => some rest
  | _ => none

/-- What follows a comment, if the characters begin with one. -/
def skipComment : Chars → Chars
  | '#' :: rest => rest.dropWhile isPlain
  | chars => chars

/-- What follows the end of a line, with blanks and a comment in front of it. -/
def lineEnd? (chars : Chars) : Option Chars :=
  match skipComment (skipBlanks chars) with
  | [] => some []
  | rest => newline? rest

def skipLines (inComment : Bool) : Chars → Chars
  | [] => []
  | '\r' :: '\n' :: rest => skipLines false rest
  | '\n' :: rest => skipLines false rest
  | c :: rest =>
    if inComment then if isPlain c then skipLines true rest else c :: rest
    else if isBlank c then skipLines false rest
    else if c = '#' then skipLines true rest
    else c :: rest

/-! ### Escapes -/

def hexValue? (c : Char) : Option Nat :=
  if '0' ≤ c ∧ c ≤ '9' then some (c.toNat - '0'.toNat)
  else if 'a' ≤ c ∧ c ≤ 'f' then some (c.toNat - 'a'.toNat + 10)
  else if 'A' ≤ c ∧ c ≤ 'F' then some (c.toNat - 'A'.toNat + 10)
  else none

/-- The character with the number that the digits give. -/
def scalar? (digits : List Char) : Option Char := do
  let value ← digits.foldlM (fun value c => (hexValue? c).map (value * 16 + ·)) 0
  if h : value.isValidChar then return Char.ofNatAux value h else none

def simpleEscape? : Char → Option Char
  | 'b' => some '\x08'
  | 't' => some '\t'
  | 'n' => some '\n'
  | 'f' => some '\x0c'
  | 'r' => some '\r'
  | 'e' => some '\x1b'
  | '"' => some '"'
  | '\\' => some '\\'
  | _ => none

/-- The character of an escape, behind its backslash, and how many characters the escape has. -/
def escape? : Chars → Option (Char × Nat)
  | 'x' :: rest => if 2 ≤ rest.length then (scalar? (rest.take 2)).map (·, 3) else none
  | 'u' :: rest => if 4 ≤ rest.length then (scalar? (rest.take 4)).map (·, 5) else none
  | 'U' :: rest => if 8 ≤ rest.length then (scalar? (rest.take 8)).map (·, 9) else none
  | c :: _ => (simpleEscape? c).map (·, 1)
  | [] => none

/-! ### Strings -/

def cons (c : Char) (read : Chars × Chars) : Chars × Chars := (c :: read.1, read.2)

/-- A string in double quotes. The count is that of characters still to skip, because an escape has
been read that they belong to. -/
def basic (skip : Nat) : Chars → Option (Chars × Chars)
  | [] => none
  | c :: rest =>
    match skip with
    | skip + 1 => basic skip rest
    | 0 =>
      if c = '"' then some ([], rest)
      else if c = '\\' then do
        let (d, length) ← escape? rest
        return cons d (← basic length rest)
      else if isPlain c then (basic 0 rest).map (cons c)
      else none

/-- A string in single quotes, where a backslash is a backslash. -/
def literal : Chars → Option (Chars × Chars)
  | [] => none
  | c :: rest =>
    if c = '\x27' then some ([], rest)
    else if isPlain c then (literal rest).map (cons c)
    else none

/-- What comes after the three quotes that end a string of many lines, and how many quotes before
them still belong to it, of which there may be two. -/
def closing? (quote : Char) (chars : Chars) : Option (Nat × Chars) :=
  let quotes := (chars.takeWhile (· == quote)).length
  if quotes < 3 then none
  else
    let inside := min 2 (quotes - 3)
    some (inside, chars.drop (inside + 3))

def quoted (quote : Char) (inside : Nat) (rest : Chars) : Chars × Chars :=
  (List.replicate inside quote, rest)

/-- Whether a backslash before these characters joins lines: only blanks may come before the break.
-/
def joinsLines (chars : Chars) : Bool := (newline? (skipBlanks chars)).isSome

/-- A string of many lines in double quotes. After a backslash that joins lines, blanks and line
breaks are left out. -/
def basicLines (joining : Bool) (skip : Nat) : Chars → Option (Chars × Chars)
  | [] => none
  | c :: rest =>
    match skip with
    | skip + 1 => basicLines false skip rest
    | 0 =>
      if joining && (isBlank c || c == '\n' || (c == '\r' && rest.head? == some '\n')) then
        basicLines true 0 rest
      else
        match closing? '"' (c :: rest) with
        | some (inside, after) => some (quoted '"' inside after)
        | none =>
          if c = '\\' then
            if joinsLines rest then basicLines true 0 rest
            else do
              let (d, length) ← escape? rest
              return cons d (← basicLines false length rest)
          else if isPlain c || c == '\n' || (c == '\r' && rest.head? == some '\n') then
            (basicLines false 0 rest).map (cons c)
          else none

def literalLines : Chars → Option (Chars × Chars)
  | [] => none
  | c :: rest =>
    match closing? '\x27' (c :: rest) with
    | some (inside, after) => some (quoted '\x27' inside after)
    | none =>
      if isPlain c || c == '\n' || (c == '\r' && rest.head? == some '\n') then
        (literalLines rest).map (cons c)
      else none

/-- A line break right behind the opening quotes does not count. -/
def dropFirstBreak (chars : Chars) : Chars := (newline? chars).getD chars

/-- A string of any kind, if the characters begin with a quote. -/
def string? : Chars → Option (String × Chars)
  | '"' :: '"' :: '"' :: rest => (basicLines false 0 (dropFirstBreak rest)).map finish
  | '"' :: rest => (basic 0 rest).map finish
  | '\x27' :: '\x27' :: '\x27' :: rest => (literalLines (dropFirstBreak rest)).map finish
  | '\x27' :: rest => (literal rest).map finish
  | _ => none
where
  finish (read : Chars × Chars) : String × Chars := (String.ofList read.1, read.2)

/-! ### Keys -/

def isKeyChar (c : Char) : Bool :=
  ('a' ≤ c && c ≤ 'z') || ('A' ≤ c && c ≤ 'Z') || Text.isDigit c || c == '_' || c == '-'

/-- One part of a key: bare, or a string of one line. -/
def simpleKey? : Chars → Option (String × Chars)
  | '"' :: rest => (basic 0 rest).map string?.finish
  | '\x27' :: rest => (literal rest).map string?.finish
  | chars =>
    let bare := chars.takeWhile isKeyChar
    if bare.isEmpty then none else some (String.ofList bare, chars.drop bare.length)

/-- A key with its dots, behind blanks; blanks may stand around the dots and behind the key. -/
def key? : Nat → Chars → Option (List String × Chars)
  | 0, _ => none
  | fuel + 1, chars => do
    let (first, rest) ← simpleKey? (skipBlanks chars)
    match skipBlanks rest with
    | '.' :: rest => do
      let (others, rest) ← key? fuel rest
      return (first :: others, rest)
    | rest => return ([first], rest)

end Telephony.Toml
