import Telephony.Table

/-!
# Outstanding calls

A table of the remote calls that have been made and not yet answered. Call ids grow while any call
is outstanding and start again at one when the table has run empty. A call that has been handed to
the daemon carries the token by which it can be told to stop; a call that still waits has none.
-/

namespace Telephony

structure CallId where
  number : UInt32
  deriving DecidableEq, Repr

namespace CallId

instance : Ord CallId := ⟨compareOn (·.number)⟩
instance : Std.TransOrd CallId := inferInstanceAs (Std.TransCmp (compareOn CallId.number))
instance : Std.LawfulEqOrd CallId where
  eq_of_compare {a b} h := by
    cases a; cases b
    exact congrArg CallId.mk (Std.LawfulEqOrd.eq_of_compare (α := UInt32) h)
instance : ToString CallId := ⟨fun id => toString id.number⟩

def base : CallId := ⟨1⟩

/-- The id after this one; after the largest comes the base again, zero being no id. -/
def succ (id : CallId) : CallId := if id.number + 1 = 0 then base else ⟨id.number + 1⟩

end CallId

/-- Stands for the means to stop one call under way; no two calls share a token. -/
structure Token where
  number : Nat
  deriving DecidableEq, Repr

structure Call (ω : Type) where
  origin : ω
  token : Option Token
  deriving DecidableEq, Repr

/-- What became of the wish to cancel a call: its token is to be signalled and its answer will still
come, or it had not been sent and is dropped, or there is no such call. -/
inductive Cancellation where
  | signalled (token : Token)
  | destroyed
  | unknown
  deriving DecidableEq, Repr

structure CallTable (ω : Type) where
  calls : Table CallId (Call ω)
  next : CallId

namespace CallTable

variable {ω : Type}

def empty : CallTable ω := ⟨∅, .base⟩

instance : EmptyCollection (CallTable ω) := ⟨empty⟩
instance : Inhabited (CallTable ω) := ⟨empty⟩

def isEmpty (table : CallTable ω) : Bool := table.calls.isEmpty

def size (table : CallTable ω) : Nat := table.calls.size

def get? (table : CallTable ω) (id : CallId) : Option (Call ω) := table.calls.get? id

def contains (table : CallTable ω) (id : CallId) : Bool := table.calls.contains id

/-- Sets the next id aside for a call to come. -/
def reserve (table : CallTable ω) : CallId × CallTable ω :=
  (table.next, { table with next := table.next.succ })

def add (table : CallTable ω) (id : CallId) (origin : ω) (token : Option Token) : CallTable ω :=
  { table with calls := table.calls.insert id ⟨origin, token⟩ }

/-- Gives a waiting call its token, unless the call is gone. -/
def arm (table : CallTable ω) (id : CallId) (token : Token) : Bool × CallTable ω :=
  (table.contains id,
    { table with calls := table.calls.modify id fun call => { call with token := some token } })

def restartIfEmpty (table : CallTable ω) : CallTable ω :=
  if table.calls.isEmpty then { table with next := .base } else table

/-- Strikes a call out, whether or not it is there. -/
def take (table : CallTable ω) (id : CallId) : Option (Call ω) × CallTable ω :=
  (table.get? id, restartIfEmpty { table with calls := table.calls.erase id })

def cancel (table : CallTable ω) (id : CallId) : Cancellation × CallTable ω :=
  match table.get? id with
  | none => (.unknown, table)
  | some ⟨_, some token⟩ => (.signalled token, table)
  | some ⟨_, none⟩ =>
    (.destroyed, restartIfEmpty { table with calls := table.calls.erase id })

end CallTable

end Telephony
