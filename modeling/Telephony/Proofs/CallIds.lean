import Telephony.CallTable
import Telephony.Proofs.Tables

/-!
# Call ids

Which ids are outstanding after each operation of a call table, and why an id that is given out is
not outstanding yet: the ids grow from one on while any call is outstanding, and fewer are given out
in that time than there are numbers.
-/

namespace Telephony.CallTable

variable {ω : Type}

/-- The ids of the outstanding calls. -/
def ids (table : CallTable ω) : List CallId := table.calls.keys

theorem ids_nodup (table : CallTable ω) : table.ids.Nodup := table.calls.keys_nodup

theorem contains_iff {table : CallTable ω} {id : CallId} :
    table.contains id = true ↔ id ∈ table.ids :=
  Table.contains_iff_mem_keys

theorem get?_eq_none_iff {table : CallTable ω} {id : CallId} :
    table.get? id = none ↔ id ∉ table.ids :=
  Table.get?_eq_none_iff

theorem isEmpty_iff {table : CallTable ω} : table.isEmpty = true ↔ table.ids = [] := by
  rw [isEmpty, Table.isEmpty, List.isEmpty_iff, ids, Table.keys, List.map_eq_nil_iff]

@[simp] theorem ids_reserve (table : CallTable ω) : table.reserve.2.ids = table.ids := rfl

@[simp] theorem ids_restartIfEmpty (table : CallTable ω) :
    table.restartIfEmpty.ids = table.ids := by
  unfold restartIfEmpty
  split <;> rfl

@[simp] theorem ids_arm (table : CallTable ω) (id : CallId) (token : Token) :
    (table.arm id token).2.ids = table.ids :=
  Table.keys_modify _ _ _

theorem ids_add {table : CallTable ω} {id : CallId} (hfree : id ∉ table.ids) (origin : ω)
    (token : Option Token) :
    (table.add id origin token).ids.Perm (id :: table.ids) := by
  have hperm := (table.calls.entries_insert_perm id ⟨origin, token⟩).map (·.1)
  rwa [Table.erase_of_get?_eq_none (Table.get?_eq_none_iff.2 hfree)] at hperm

theorem mem_ids_add {table : CallTable ω} {id other : CallId} {origin : ω}
    {token : Option Token} :
    other ∈ (table.add id origin token).ids ↔ other = id ∨ other ∈ table.ids := by
  have hlookup := table.calls.get?_insert id other ⟨origin, token⟩
  rw [ids, ids, ← Table.contains_iff_mem_keys, ← Table.contains_iff_mem_keys, add,
    Table.contains, Table.contains, hlookup]
  split
  · next heq => simp [heq]
  · next hne => simp [Ne.symm hne]

theorem ids_take_of_mem {table : CallTable ω} {id : CallId} (hmem : id ∈ table.ids) :
    table.ids.Perm (id :: (table.take id).2.ids) := by
  obtain ⟨call, hcall⟩ := Option.isSome_iff_exists.1 (Table.contains_iff_mem_keys.2 hmem)
  rw [take, ids_restartIfEmpty]
  exact (Table.entries_perm_of_get? hcall).map (·.1)

theorem mem_ids_take {table : CallTable ω} {id other : CallId} :
    other ∈ (table.take id).2.ids ↔ other ≠ id ∧ other ∈ table.ids := by
  have hlookup := table.calls.get?_erase id other
  rw [take, ids_restartIfEmpty, ids, ids, ← Table.contains_iff_mem_keys,
    ← Table.contains_iff_mem_keys, Table.contains, Table.contains, hlookup]
  split
  · next heq => simp [heq]
  · next hne => simp [Ne.symm hne]

theorem take_fst_isSome {table : CallTable ω} {id : CallId} :
    (table.take id).1.isSome = true ↔ id ∈ table.ids :=
  contains_iff

/-! ### Look-ups -/

theorem get?_add (table : CallTable ω) (id other : CallId) (origin : ω) (token : Option Token) :
    (table.add id origin token).get? other =
      if id = other then some ⟨origin, token⟩ else table.get? other :=
  table.calls.get?_insert id other _

theorem get?_arm (table : CallTable ω) (id other : CallId) (token : Token) :
    (table.arm id token).2.get? other =
      if id = other then (table.get? other).map fun call => { call with token := some token }
      else table.get? other :=
  table.calls.get?_modify id other _

theorem get?_take (table : CallTable ω) (id other : CallId) :
    (table.take id).2.get? other = if id = other then none else table.get? other := by
  have hrestart : ∀ rest : CallTable ω, rest.restartIfEmpty.get? other = rest.get? other := by
    intro rest
    unfold restartIfEmpty
    split <;> rfl
  rw [take, hrestart]
  exact table.calls.get?_erase id other

/-- Cancelling strikes a call out only if it says so, and only that call. -/
theorem cancel_cases (table : CallTable ω) (id : CallId) :
    ((table.cancel id).1 = .destroyed ∧ id ∈ table.ids ∧
        (table.cancel id).2 = (table.take id).2) ∨
      ((table.cancel id).1 ≠ .destroyed ∧ (table.cancel id).2 = table) := by
  unfold cancel
  split
  · exact .inr ⟨by simp, rfl⟩
  · exact .inr ⟨by simp, rfl⟩
  · next call hcall =>
    have hfound : table.contains id = true := Option.isSome_of_eq_some hcall
    exact .inl ⟨rfl, contains_iff.1 hfound, rfl⟩

/-! ### Ids that are given out -/

/-- The ids given out since no call was outstanding last are the first `issued` ones. -/
structure Counted (table : CallTable ω) (issued : Nat) : Prop where
  next : table.next.number.toNat = issued + 1
  below : ∀ id ∈ table.ids, id.number.toNat ≤ issued
  restarted : table.ids = [] → issued = 0

theorem counted_empty : (empty : CallTable ω).Counted 0 :=
  ⟨rfl, fun _ hmem => absurd hmem List.not_mem_nil, fun _ => rfl⟩

theorem Counted.next_not_mem {table : CallTable ω} {issued : Nat}
    (hcounted : table.Counted issued) : table.next ∉ table.ids := fun hmem => by
  have hle := hcounted.below _ hmem
  rw [hcounted.next] at hle
  omega

theorem toNat_succ {id : CallId} (hroom : id.number.toNat + 1 < UInt32.size) :
    id.succ.number.toNat = id.number.toNat + 1 := by
  have hsum : (id.number + 1).toNat = id.number.toNat + 1 := by
    rw [UInt32.toNat_add]
    exact Nat.mod_eq_of_lt hroom
  have hne : id.number + 1 ≠ 0 := fun hzero => by
    rw [hzero] at hsum
    simp at hsum
  rw [CallId.succ, if_neg hne, hsum]

theorem Counted.add {table : CallTable ω} {issued : Nat} (hcounted : table.Counted issued)
    (hroom : issued + 1 < UInt32.size - 1) (origin : ω) (token : Option Token) :
    (table.reserve.2.add table.next origin token).Counted (issued + 1) where
  next := by
    have hnext := hcounted.next
    change table.next.succ.number.toNat = _
    rw [toNat_succ (by omega), hnext]
  below id hmem := by
    rcases mem_ids_add.1 hmem with rfl | hold
    · exact Nat.le_of_eq hcounted.next
    · exact Nat.le_succ_of_le (hcounted.below id hold)
  restarted hnone := by
    have hmem : table.next ∈ (table.reserve.2.add table.next origin token).ids :=
      mem_ids_add.2 (.inl rfl)
    rw [hnone] at hmem
    exact absurd hmem List.not_mem_nil

theorem Counted.arm {table : CallTable ω} {issued : Nat} (hcounted : table.Counted issued)
    (id : CallId) (token : Token) : (table.arm id token).2.Counted issued where
  next := hcounted.next
  below other hmem := hcounted.below other (by rwa [ids_arm] at hmem)
  restarted hnone := hcounted.restarted (by rwa [ids_arm] at hnone)

/-- The count starts again when nothing is outstanding. -/
theorem Counted.settled {table : CallTable ω} {issued : Nat} (hcounted : table.Counted issued) :
    table.Counted (if table.isEmpty then 0 else issued) := by
  by_cases hempty : table.isEmpty = true
  · rw [if_pos hempty, ← hcounted.restarted (isEmpty_iff.1 hempty)]
    exact hcounted
  · rw [if_neg hempty]
    exact hcounted

theorem Counted.restart {table : CallTable ω} {issued : Nat}
    (hnext : table.next.number.toNat = issued + 1)
    (hbelow : ∀ id ∈ table.ids, id.number.toNat ≤ issued) :
    table.restartIfEmpty.Counted (if table.isEmpty then 0 else issued) := by
  unfold restartIfEmpty
  by_cases hempty : table.isEmpty = true
  · have hnone := isEmpty_iff.1 hempty
    rw [if_pos hempty, if_pos (show table.calls.isEmpty = true from hempty)]
    exact ⟨rfl, fun id hmem => absurd (show id ∈ table.ids from hmem) (hnone ▸ List.not_mem_nil),
      fun _ => rfl⟩
  · rw [if_neg hempty, if_neg (show ¬ table.calls.isEmpty = true from hempty)]
    exact ⟨hnext, hbelow, fun hnone => absurd (isEmpty_iff.2 hnone) hempty⟩

/-- Striking a call out keeps the count, unless it was the last. -/
theorem Counted.take {table : CallTable ω} {issued : Nat} (hcounted : table.Counted issued)
    (id : CallId) :
    (table.take id).2.Counted (if (table.take id).2.isEmpty then 0 else issued) := by
  have hids : (table.take id).2.ids = (table.calls.erase id).keys := by
    rw [CallTable.take, ids_restartIfEmpty]
    rfl
  have hempty : (table.take id).2.isEmpty = (table.calls.erase id).isEmpty := by
    rw [Bool.eq_iff_iff, isEmpty_iff, hids, Table.keys, List.map_eq_nil_iff, Table.isEmpty,
      List.isEmpty_iff]
  rw [hempty]
  refine Counted.restart hcounted.next fun other hmem => ?_
  have hleft : other ∈ (table.take id).2.ids := by
    rw [hids]
    exact hmem
  exact hcounted.below other (mem_ids_take.1 hleft).2

end Telephony.CallTable
