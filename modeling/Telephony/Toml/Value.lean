import Telephony.Text.Decimal

/-!
# TOML values

The values of a TOML document. A table remembers how it came about, which decides what may still be
added to it: a table opened by a header and one written in braces are complete, one that a header or
a dotted key has only passed through is not. Of numbers and times it is only kept that they are
there.
-/

namespace Telephony.Toml

/-- How a table came about. -/
inductive Origin where
  /-- Opened by a header of its own. -/
  | header
  /-- On the way of a header to a table inside. -/
  | implied
  /-- On the way of a dotted key. -/
  | dotted
  /-- Written in braces. -/
  | braces
  deriving DecidableEq, Repr

inductive Value where
  | string (s : String)
  | integer
  | float
  | boolean (b : Bool)
  | time
  | array (items : List Value)
  /-- The tables of one name that are opened by headers in double brackets. -/
  | tables (items : List (List (String × Value)))
  | table (origin : Origin) (entries : List (String × Value))
  deriving Inhabited

/-- What a table holds, in the order of the document. -/
abbrev Entries := List (String × Value)

namespace Entries

/-- Puts a value under a key, in the stead of one that is there. -/
def put (key : String) (value : Value) : Entries → Entries
  | [] => [(key, value)]
  | (k, v) :: rest => if k = key then (key, value) :: rest else (k, v) :: put key value rest

theorem lookup_put (key other : String) (value : Value) (entries : Entries) :
    (put key value entries).lookup other =
      if other = key then some value else entries.lookup other := by
  induction entries with
  | nil =>
    by_cases h : other = key
    · simp [put, h]
    · simp [put, h, List.lookup_cons, beq_eq_false_iff_ne.2 h]
  | cons head rest ih =>
    obtain ⟨k, v⟩ := head
    by_cases hk : k = key
    · by_cases h : other = key
      · simp [put, hk, h]
      · simp [put, hk, h, List.lookup_cons, beq_eq_false_iff_ne.2 h]
    · by_cases h : other = k
      · simp [put, hk, h]
      · simp [put, hk, List.lookup_cons, beq_eq_false_iff_ne.2 h, ih]

/-- The entries that a path leads into below a value, where the path may go on: how they came about,
what they are, and the value with others in their stead. A path of a dotted key does not go into a
table that has a header. -/
def within? (byKey : Bool) : Value → Option (Origin × Entries × (Entries → Value))
  | .table .braces _ => none
  | .table .header entries => if byKey then none else some (.header, entries, .table .header)
  | .table origin entries => some (origin, entries, .table origin)
  | .tables items =>
    items.getLast?.map fun entries =>
      (.header, entries, fun entries => .tables (items.dropLast ++ [entries]))
  | _ => none

/-- Changes the entries at the end of a path; tables that are missing on the way are made. -/
def alter (byKey : Bool) (change : Origin → Entries → Option Entries) :
    Origin → List String → Entries → Option Entries
  | origin, [], entries => change origin entries
  | _, key :: path, entries =>
    match entries.lookup key with
    | none =>
      let origin : Origin := if byKey then .dotted else .implied
      (alter byKey change origin path []).map fun inner => entries.put key (.table origin inner)
    | some value => do
      let (origin, inner, rebuild) ← within? byKey value
      let inner ← alter byKey change origin path inner
      return entries.put key (rebuild inner)

/-- Adds a value under a key that is not taken. -/
def add (key : String) (value : Value) (entries : Entries) : Option Entries :=
  if (entries.lookup key).isSome then none else some (entries ++ [(key, value)])

/-- Adds a value under a dotted key. The table at the end of the dots must have come about by dots.
-/
def addDotted (path : List String) (key : String) (value : Value) (origin : Origin)
    (entries : Entries) : Option Entries :=
  alter true (fun last inner =>
    if path.isEmpty || last = .dotted then add key value inner else none) origin path entries

/-- Opens a table: a new one, or one that a header has only passed through. -/
def openTable (key : String) (entries : Entries) : Option Entries :=
  match entries.lookup key with
  | none => some (entries.put key (.table .header []))
  | some (.table .implied inner) => some (entries.put key (.table .header inner))
  | some _ => none

def openNext (key : String) (entries : Entries) : Option Entries :=
  match entries.lookup key with
  | none => some (entries.put key (.tables [[]]))
  | some (.tables items) => some (entries.put key (.tables (items ++ [[]])))
  | some _ => none

end Entries

end Telephony.Toml
