/-!
# Observer lists

Who wants to be told of something, in order of registration. Every registration has its own id,
which is never given out again, so the same party may stand in the list more than once. A fan-out
goes through the list as it was when the fan-out began, whatever is added or removed meanwhile.
-/

namespace Telephony

/-- The number is one of 64 bits, the first that is given out is 1, and it is counted up without a
check. As a natural number it is exact for lists with fewer than 2 ^ 64 - 1 additions. -/
structure ObserverId where
  number : Nat
  deriving DecidableEq, Repr

instance : ToString ObserverId := ⟨fun id => s!"observer#{id.number}"⟩

structure ObserverList (α : Type) where
  entries : List (ObserverId × α)
  next : Nat
  deriving DecidableEq, Repr

namespace ObserverList

variable {α σ : Type}

def empty : ObserverList α := ⟨[], 1⟩

instance : EmptyCollection (ObserverList α) := ⟨empty⟩
instance : Inhabited (ObserverList α) := ⟨empty⟩

def size (list : ObserverList α) : Nat := list.entries.length

def isEmpty (list : ObserverList α) : Bool := list.entries.isEmpty

def ids (list : ObserverList α) : List ObserverId := list.entries.map (·.1)

def add (list : ObserverList α) (observer : α) : ObserverId × ObserverList α :=
  (⟨list.next⟩, ⟨list.entries ++ [(⟨list.next⟩, observer)], list.next + 1⟩)

/-- Strikes one registration out; tells whether it was there. -/
def remove (list : ObserverList α) (id : ObserverId) : Bool × ObserverList α :=
  (list.entries.any (·.1 = id), { list with entries := list.entries.eraseP (·.1 = id) })

def snapshot (list : ObserverList α) : List α := list.entries.map (·.2)

/-- Calls every observer of the snapshot in order. A call may change the live list and the
caller's own state. -/
def fanOut (call : α → ObserverList α × σ → ObserverList α × σ) (list : ObserverList α)
    (state : σ) : ObserverList α × σ :=
  list.snapshot.foldl (fun current observer => call observer current) (list, state)

def describe (list : ObserverList α) : String :=
  "ObserverList " ++ "\x7b" ++ s!" len: {list.size} " ++ "\x7d"

end ObserverList

end Telephony
