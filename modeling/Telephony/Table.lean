/-!
# Tables in key order

A finite map kept as a list of entries in strictly increasing key order. Two tables with the same
entries are the same list, and whoever walks a table meets the keys in order. `get?_insert`,
`get?_erase` and `get?_modify` say what each operation does to look-ups.
-/

namespace Telephony

/-- Entries in strictly increasing key order. -/
structure Table (κ α : Type) [Ord κ] where
  entries : List (κ × α)
  sorted : entries.Pairwise fun a b => compare a.1 b.1 = .lt

namespace Table

variable {κ α β : Type}

section Lookup

variable [DecidableEq κ]

def lookup (key : κ) : List (κ × α) → Option α
  | [] => none
  | (k, value) :: rest => if k = key then some value else lookup key rest

theorem lookup_filter_ne (key other : κ) (entries : List (κ × α)) :
    lookup other (entries.filter (·.1 != key)) =
      if key = other then none else lookup other entries := by
  induction entries with
  | nil => simp [lookup]
  | cons head rest ih =>
    by_cases hkey : head.1 = key <;> by_cases hother : head.1 = other <;> grind [lookup]

theorem lookup_map (f : κ → α → β) (key : κ) (entries : List (κ × α)) :
    lookup key (entries.map fun (k, value) => (k, f k value)) =
      (lookup key entries).map (f key) := by
  induction entries with
  | nil => rfl
  | cons head rest ih =>
    by_cases h : head.1 = key
    · simp [lookup, ← h]
    · simp [lookup, h, ih]

end Lookup

variable [Ord κ]

def empty : Table κ α := ⟨[], .nil⟩

instance : EmptyCollection (Table κ α) := ⟨empty⟩
instance : Inhabited (Table κ α) := ⟨empty⟩

instance [DecidableEq κ] [DecidableEq α] : DecidableEq (Table κ α) := fun a b =>
  if h : a.entries = b.entries then
    .isTrue (by cases a; cases b; simp_all)
  else .isFalse fun heq => h (heq ▸ rfl)

def keys (table : Table κ α) : List κ := table.entries.map (·.1)

def values (table : Table κ α) : List α := table.entries.map (·.2)

def size (table : Table κ α) : Nat := table.entries.length

def isEmpty (table : Table κ α) : Bool := table.entries.isEmpty

section Get

variable [DecidableEq κ]

def get? (table : Table κ α) (key : κ) : Option α := lookup key table.entries

def contains (table : Table κ α) (key : κ) : Bool := (table.get? key).isSome

end Get

section Insert

/-- Puts an entry in its place, in the stead of one with the same key. -/
def insertEntry (key : κ) (value : α) : List (κ × α) → List (κ × α)
  | [] => [(key, value)]
  | (k, v) :: rest =>
    match compare key k with
    | .lt => (key, value) :: (k, v) :: rest
    | .eq => (key, value) :: rest
    | .gt => (k, v) :: insertEntry key value rest

theorem fst_mem_insertEntry {key : κ} {value : α} {entry : κ × α} {entries : List (κ × α)}
    (h : entry ∈ insertEntry key value entries) : entry.1 = key ∨ entry ∈ entries := by
  induction entries with
  | nil => simp_all [insertEntry]
  | cons head rest ih =>
    simp only [insertEntry] at h
    split at h <;> simp only [List.mem_cons] at h ⊢ <;> grind

variable [Std.TransOrd κ] [Std.LawfulEqOrd κ]

theorem sorted_insertEntry (key : κ) (value : α) {entries : List (κ × α)}
    (h : entries.Pairwise fun a b => compare a.1 b.1 = .lt) :
    (insertEntry key value entries).Pairwise fun a b => compare a.1 b.1 = .lt := by
  induction entries with
  | nil => simp [insertEntry]
  | cons head rest ih =>
    obtain ⟨hhead, hrest⟩ := List.pairwise_cons.1 h
    simp only [insertEntry]
    split
    · next hlt =>
      refine List.pairwise_cons.2 ⟨fun entry hentry => ?_, h⟩
      rcases List.mem_cons.1 hentry with rfl | hmem
      · exact hlt
      · exact Std.TransCmp.lt_trans hlt (hhead entry hmem)
    · next heq =>
      refine List.pairwise_cons.2 ⟨fun entry hentry => ?_, hrest⟩
      rw [Std.LawfulEqOrd.eq_of_compare heq]
      exact hhead entry hentry
    · next hgt =>
      refine List.pairwise_cons.2 ⟨fun entry hentry => ?_, ih hrest⟩
      rcases fst_mem_insertEntry hentry with hkey | hmem
      · rw [hkey]
        exact Std.OrientedCmp.lt_of_gt hgt
      · exact hhead entry hmem

def insert (table : Table κ α) (key : κ) (value : α) : Table κ α :=
  ⟨insertEntry key value table.entries, sorted_insertEntry key value table.sorted⟩

/-- The table of a list of entries; of several with one key the last counts. -/
def ofList (entries : List (κ × α)) : Table κ α :=
  entries.foldl (fun table (key, value) => table.insert key value) empty

variable [DecidableEq κ]

omit [Std.TransOrd κ] in
theorem lookup_insertEntry_self (key : κ) (value : α) (entries : List (κ × α)) :
    lookup key (insertEntry key value entries) = some value := by
  induction entries with
  | nil => simp [insertEntry, lookup]
  | cons head rest ih =>
    simp only [insertEntry]
    split <;> simp only [lookup, ↓reduceIte]
    next hgt =>
      have hne : head.1 ≠ key := fun heq => by
        rw [heq, Std.compare_self] at hgt
        cases hgt
      simp [hne, ih]

omit [Std.TransOrd κ] in
theorem lookup_insertEntry_of_ne {key other : κ} (hne : key ≠ other) (value : α)
    (entries : List (κ × α)) :
    lookup other (insertEntry key value entries) = lookup other entries := by
  induction entries with
  | nil => simp [insertEntry, lookup, hne]
  | cons head rest ih =>
    simp only [insertEntry]
    split
    · simp [lookup, hne]
    · next heq =>
      have := Std.LawfulEqOrd.eq_of_compare heq
      simp [lookup, hne, ← this]
    · simp [lookup, ih]

theorem get?_insert (table : Table κ α) (key other : κ) (value : α) :
    (table.insert key value).get? other = if key = other then some value else table.get? other := by
  by_cases h : key = other
  · subst h
    simp [get?, insert, lookup_insertEntry_self]
  · simp [get?, insert, h, lookup_insertEntry_of_ne h]

end Insert

section Erase

variable [DecidableEq κ]

def erase (table : Table κ α) (key : κ) : Table κ α :=
  ⟨table.entries.filter (·.1 != key), table.sorted.filter _⟩

theorem get?_erase (table : Table κ α) (key other : κ) :
    (table.erase key).get? other = if key = other then none else table.get? other :=
  lookup_filter_ne key other table.entries

end Erase

section Modify

def mapValues (f : κ → α → β) (table : Table κ α) : Table κ β :=
  ⟨table.entries.map fun (key, value) => (key, f key value),
    List.pairwise_map.2 table.sorted⟩

@[simp] theorem keys_mapValues (f : κ → α → β) (table : Table κ α) :
    (table.mapValues f).keys = table.keys := by
  simp [keys, mapValues, Function.comp_def]

variable [DecidableEq κ]

/-- Applies `f` to the value under `key`, if there is one. -/
def modify (table : Table κ α) (key : κ) (f : α → α) : Table κ α :=
  table.mapValues fun k value => if k = key then f value else value

theorem get?_mapValues (f : κ → α → β) (table : Table κ α) (key : κ) :
    (table.mapValues f).get? key = (table.get? key).map (f key) :=
  lookup_map f key table.entries

theorem get?_modify (table : Table κ α) (key other : κ) (f : α → α) :
    (table.modify key f).get? other =
      if key = other then (table.get? other).map f else table.get? other := by
  rw [modify, get?_mapValues]
  by_cases h : key = other
  · simp [h]
  · simp [h, Ne.symm h]

@[simp] theorem keys_modify (table : Table κ α) (key : κ) (f : α → α) :
    (table.modify key f).keys = table.keys := keys_mapValues _ _

end Modify

@[simp] theorem get?_empty [DecidableEq κ] (key : κ) : (empty : Table κ α).get? key = none := rfl

end Table

end Telephony
