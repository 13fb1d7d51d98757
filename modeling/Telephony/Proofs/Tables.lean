import Mathlib.Data.List.Induction
import Mathlib.Data.List.Nodup
import Telephony.Table

/-!
# Entries of tables

A table is its look-ups: two tables that look up alike are equal. An entry that is put in stands
before the entries of the other keys, up to order, and so does an entry that is there; counting
what the entries hold is counting it in one entry and in the others.
-/

namespace Telephony.Table

variable {κ α β : Type} [DecidableEq κ]

/-! ### Look-ups in lists -/

theorem mem_of_lookup {key : κ} {value : α} {entries : List (κ × α)}
    (hfound : lookup key entries = some value) : (key, value) ∈ entries := by
  induction entries with
  | nil => simp [lookup] at hfound
  | cons head rest ih =>
    unfold lookup at hfound
    split at hfound
    · next hkey =>
      cases hfound
      exact List.mem_cons.2 (.inl (by rw [← hkey]))
    · exact List.mem_cons_of_mem _ (ih hfound)

theorem lookup_eq_none_iff {key : κ} {entries : List (κ × α)} :
    lookup key entries = none ↔ ∀ entry ∈ entries, entry.1 ≠ key := by
  induction entries with
  | nil => simp [lookup]
  | cons head rest ih =>
    by_cases hkey : head.1 = key
    · simp [lookup, hkey]
    · simp [lookup, hkey, ih]

theorem lookup_of_mem {key : κ} {value : α} {entries : List (κ × α)}
    (hdistinct : (entries.map (·.1)).Nodup) (hmem : (key, value) ∈ entries) :
    lookup key entries = some value := by
  induction entries with
  | nil => simp at hmem
  | cons head rest ih =>
    rw [List.map_cons, List.nodup_cons] at hdistinct
    rcases List.mem_cons.1 hmem with rfl | hrest
    · simp [lookup]
    · have hne : head.1 ≠ key := fun heq =>
        hdistinct.1 (heq ▸ List.mem_map.2 ⟨(key, value), hrest, rfl⟩)
      simpa [lookup, hne] using ih hdistinct.2 hrest

theorem lookup_map_key {ι : Type} [DecidableEq ι] {rename : κ → ι}
    (hrename : Function.Injective rename) (key : κ) (entries : List (κ × α)) :
    lookup (rename key) (entries.map fun (k, value) => (rename k, value)) = lookup key entries := by
  induction entries with
  | nil => rfl
  | cons head rest ih => simp only [List.map_cons, lookup, hrename.eq_iff, ih]

theorem perm_of_lookup {key : κ} {value : α} {entries : List (κ × α)}
    (hdistinct : (entries.map (·.1)).Nodup) (hfound : lookup key entries = some value) :
    entries.Perm ((key, value) :: entries.filter (·.1 != key)) := by
  induction entries with
  | nil => simp [lookup] at hfound
  | cons head rest ih =>
    rw [List.map_cons, List.nodup_cons] at hdistinct
    by_cases hkey : head.1 = key
    · have hvalue : head.2 = value := by simpa [lookup, hkey] using hfound
      have hothers : rest.filter (·.1 != key) = rest := List.filter_eq_self.2 fun entry hentry => by
        have : entry.1 ≠ key := fun heq =>
          hdistinct.1 (List.mem_map.2 ⟨entry, hentry, heq.trans hkey.symm⟩)
        simpa using this
      have hhead : head = (key, value) := Prod.ext hkey hvalue
      rw [List.filter_cons, hothers, hhead]
      simp
    · have hrest := ih hdistinct.2 (by simpa [lookup, hkey] using hfound)
      have hfilter : (head :: rest).filter (·.1 != key) = head :: rest.filter (·.1 != key) := by
        simp [hkey]
      rw [hfilter]
      exact (hrest.cons head).trans (.swap _ _ _)

/-- What is gathered from all entries and passes the filter comes from the entry of the key, if
nothing from the others passes. -/
theorem filter_flatMap_of_lookup {gather : κ × α → List β} {passes : β → Bool} {key : κ}
    {entries : List (κ × α)} (hdistinct : (entries.map (·.1)).Nodup)
    (hothers : ∀ entry, entry.1 ≠ key → (gather entry).filter passes = []) :
    (entries.flatMap gather).filter passes =
      (lookup key entries).elim [] fun value => (gather (key, value)).filter passes := by
  induction entries with
  | nil => rfl
  | cons head rest ih =>
    rw [List.map_cons, List.nodup_cons] at hdistinct
    rw [List.flatMap_cons, List.filter_append, ih hdistinct.2]
    by_cases hkey : head.1 = key
    · have hrest : lookup key rest = none := lookup_eq_none_iff.2 fun entry hentry heq =>
        hdistinct.1 (List.mem_map.2 ⟨entry, hentry, heq.trans hkey.symm⟩)
      have hhead : head = (key, head.2) := Prod.ext hkey rfl
      rw [hrest, Option.elim_none, List.append_nil, lookup, if_pos hkey, Option.elim_some, ← hhead]
    · rw [hothers head hkey, List.nil_append, lookup, if_neg hkey]

/-! ### Tables -/

variable [Ord κ]

theorem get?_eq_none_iff {table : Table κ α} {key : κ} :
    table.get? key = none ↔ key ∉ table.keys := by
  rw [get?, lookup_eq_none_iff, keys, List.mem_map, not_exists]
  exact forall_congr' fun entry => not_and.symm

theorem contains_iff_mem_keys {table : Table κ α} {key : κ} :
    table.contains key = true ↔ key ∈ table.keys := by
  rw [contains, Option.isSome_iff_ne_none, ne_eq, get?_eq_none_iff, not_not]

theorem erase_of_get?_eq_none {table : Table κ α} {key : κ} (habsent : table.get? key = none) :
    table.erase key = table := by
  have hentries : table.entries.filter (·.1 != key) = table.entries :=
    List.filter_eq_self.2 fun entry hentry => by
      simpa using lookup_eq_none_iff.1 habsent entry hentry
  cases table
  simpa [erase] using hentries

variable [Std.TransOrd κ] [Std.LawfulEqOrd κ]

omit [DecidableEq κ] [Std.TransOrd κ] in
theorem keys_nodup (table : Table κ α) : table.keys.Nodup := by
  rw [keys, List.Nodup, List.pairwise_map]
  refine table.sorted.imp fun hlt heq => ?_
  rw [heq, Std.compare_self] at hlt
  cases hlt

omit [Std.TransOrd κ] in
theorem get?_eq_some_iff {table : Table κ α} {key : κ} {value : α} :
    table.get? key = some value ↔ (key, value) ∈ table.entries :=
  ⟨mem_of_lookup, lookup_of_mem table.keys_nodup⟩

omit [DecidableEq κ] [Std.LawfulEqOrd κ] in
theorem eq_of_perm {a b : Table κ α} (hperm : a.entries.Perm b.entries) : a = b := by
  have hentries : a.entries = b.entries := by
    refine hperm.eq_of_pairwise (fun x y _ _ hlt hgt => ?_) a.sorted b.sorted
    rw [Std.OrientedCmp.gt_of_lt hlt] at hgt
    cases hgt
  cases a
  cases b
  congr

theorem ext_get? {a b : Table κ α} (hlookups : ∀ key, a.get? key = b.get? key) : a = b := by
  have hmem : ∀ entry, entry ∈ a.entries ↔ entry ∈ b.entries := fun ⟨key, value⟩ => by
    rw [← get?_eq_some_iff, ← get?_eq_some_iff, hlookups]
  exact eq_of_perm ((List.perm_ext_iff_of_nodup a.keys_nodup.of_map b.keys_nodup.of_map).2 hmem)

omit [Std.TransOrd κ] in
/-- An entry that is there stands beside the entries of the other keys. -/
theorem entries_perm_of_get? {table : Table κ α} {key : κ} {value : α}
    (hfound : table.get? key = some value) :
    table.entries.Perm ((key, value) :: (table.erase key).entries) :=
  perm_of_lookup table.keys_nodup hfound

theorem erase_insert (table : Table κ α) (key : κ) (value : α) :
    (table.insert key value).erase key = table.erase key := by
  apply ext_get?
  intro other
  rw [get?_erase, get?_erase, get?_insert]
  split <;> rfl

theorem insert_insert (table : Table κ α) (key : κ) (first second : α) :
    (table.insert key first).insert key second = table.insert key second := by
  apply ext_get?
  intro other
  rw [get?_insert, get?_insert, get?_insert]
  split <;> rfl

theorem insert_of_get? {table : Table κ α} {key : κ} {value : α}
    (hfound : table.get? key = some value) : table.insert key value = table := by
  apply ext_get?
  intro other
  rw [get?_insert]
  split
  · next hkey => rw [← hkey, hfound]
  · rfl

/-- An entry that is put in stands beside the entries of the other keys. -/
theorem entries_insert_perm (table : Table κ α) (key : κ) (value : α) :
    (table.insert key value).entries.Perm ((key, value) :: (table.erase key).entries) := by
  have hfound : (table.insert key value).get? key = some value := by simp [get?_insert]
  have hperm := entries_perm_of_get? hfound
  rwa [erase_insert] at hperm

/-! ### Tables of lists -/

omit [DecidableEq κ] in
theorem ofList_concat (entries : List (κ × α)) (key : κ) (value : α) :
    ofList (entries ++ [(key, value)]) = (ofList entries).insert key value :=
  List.foldl_append

/-- Of several entries with one key the last counts. -/
theorem get?_ofList (entries : List (κ × α)) (key : κ) :
    (ofList entries).get? key = lookup key entries.reverse := by
  induction entries using List.reverseRecOn with
  | nil => rfl
  | append_singleton rest last ih =>
    rw [ofList_concat, get?_insert, ih, List.reverse_append]
    rfl

omit [Ord κ] [Std.TransOrd κ] [Std.LawfulEqOrd κ] in
theorem lookup_of_perm {first second : List (κ × α)} (hperm : first.Perm second)
    (hdistinct : (second.map (·.1)).Nodup) (key : κ) : lookup key first = lookup key second := by
  have hfirst : (first.map (·.1)).Nodup := (hperm.map _).nodup_iff.2 hdistinct
  refine Option.ext fun value => ⟨fun hfound => ?_, fun hfound => ?_⟩
  · exact lookup_of_mem hdistinct (hperm.subset (mem_of_lookup hfound))
  · exact lookup_of_mem hfirst (hperm.symm.subset (mem_of_lookup hfound))

theorem ofList_of_perm {entries : List (κ × α)} {table : Table κ α}
    (hperm : entries.Perm table.entries) : ofList entries = table := by
  refine ext_get? fun key => ?_
  rw [get?_ofList]
  exact lookup_of_perm ((List.reverse_perm entries).trans hperm) table.keys_nodup key

end Telephony.Table
