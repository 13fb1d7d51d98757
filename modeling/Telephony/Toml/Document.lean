import Telephony.Toml.Scalars

/-!
# TOML documents

A document is read line by line into statements, and the statements build up the table that the
document stands for. A document that breaks a rule anywhere stands for nothing.
-/

namespace Telephony.Toml

mutual

def value? : Nat → Chars → Option (Value × Chars)
  | 0, _ => none
  | fuel + 1, chars =>
    match chars with
    | '[' :: rest => do
      let (items, rest) ← items? fuel rest
      return (.array items, rest)
    | '\x7b' :: rest => do
      let (entries, rest) ← pairs? fuel [] rest
      return (.table .braces entries, rest)
    | '"' :: _ => (string? chars).map fun (s, rest) => (.string s, rest)
    | '\x27' :: _ => (string? chars).map fun (s, rest) => (.string s, rest)
    | _ => scalarValue? chars

/-- The items of an array that are still to come, up to its bracket. -/
def items? : Nat → Chars → Option (List Value × Chars)
  | 0, _ => none
  | fuel + 1, chars =>
    match skipLines false chars with
    | ']' :: rest => some ([], rest)
    | chars => do
      let (item, rest) ← value? fuel chars
      match skipLines false rest with
      | ',' :: rest => do
        let (others, rest) ← items? fuel rest
        return (item :: others, rest)
      | ']' :: rest => return ([item], rest)
      | _ => none

/-- The entries of a table in braces that are still to come, added to those before. -/
def pairs? : Nat → Entries → Chars → Option (Entries × Chars)
  | 0, _, _ => none
  | fuel + 1, entries, chars =>
    match skipLines false chars with
    | '\x7d' :: rest => some (entries, rest)
    | chars => do
      let (path, rest) ← key? chars.length chars
      let key ← path.getLast?
      let (value, rest) ← value? fuel (skipBlanks (← expect? '=' rest))
      let entries ← Entries.addDotted path.dropLast key value .braces entries
      match skipLines false rest with
      | ',' :: rest => pairs? fuel entries rest
      | '\x7d' :: rest => return (entries, rest)
      | _ => none

end

/-! ### Statements -/

inductive Statement where
  /-- A header: from here on entries belong to this table. -/
  | table (path : List String) (key : String)
  /-- A header in double brackets: from here on entries belong to one more table of this name. -/
  | next (path : List String) (key : String)
  | entry (path : List String) (key : String) (value : Value)

/-- A key with the part behind its last dot set apart. -/
def split? (path : List String) : Option (List String × String) :=
  path.getLast?.map (path.dropLast, ·)

/-- What a line says, at its first character that is no blank. -/
def statement? (chars : Chars) : Option (Statement × Chars) :=
  match chars with
  | '[' :: '[' :: rest => do
    let (path, rest) ← key? rest.length rest
    let (path, key) ← split? path
    return (.next path key, ← expect? ']' (← expect? ']' rest))
  | '[' :: rest => do
    let (path, rest) ← key? rest.length rest
    let (path, key) ← split? path
    return (.table path key, ← expect? ']' rest)
  | _ => do
    let (path, rest) ← key? chars.length chars
    let (path, key) ← split? path
    let (value, rest) ← value? (2 * rest.length + 2) (skipBlanks (← expect? '=' rest))
    return (.entry path key value, rest)

def statements? : Nat → Chars → Option (List Statement)
  | 0, _ => none
  | fuel + 1, chars =>
    match skipLines false chars with
    | [] => some []
    | chars => do
      let (statement, rest) ← statement? chars
      let rest ← lineEnd? rest
      return statement :: (← statements? fuel rest)

/-- The table so far, and the path to which entries belong. -/
structure Draft where
  entries : Entries
  path : List String

def Draft.extend (draft : Draft) : Statement → Option Draft
  | .table path key =>
    (Entries.alter false (fun _ => Entries.openTable key) .header path draft.entries).map
      (⟨·, path ++ [key]⟩)
  | .next path key =>
    (Entries.alter false (fun _ => Entries.openNext key) .header path draft.entries).map
      (⟨·, path ++ [key]⟩)
  | .entry path key value =>
    (Entries.alter false (Entries.addDotted path key value) .header draft.path draft.entries).map
      (⟨·, draft.path⟩)

/-- A mark in front of the text that tells its encoding is no part of it. -/
def dropMark : Chars → Chars
  | '\ufeff' :: rest => rest
  | chars => chars

/-- The table that a text stands for, if it is a document. -/
def read? (text : String) : Option Entries := do
  let chars := dropMark text.toList
  let statements ← statements? (chars.length + 1) chars
  let draft ← statements.foldlM Draft.extend ⟨[], []⟩
  return draft.entries

end Telephony.Toml
