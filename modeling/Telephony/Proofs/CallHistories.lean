import Telephony.Proofs.CallIds

/-!
# Histories of call tables

Calls are made, armed, taken and cancelled in any order and by any ids. Between two moments when no
call is outstanding the ids go up from one, and as long as they last an id that is given out is a
new one. So no call ever stands in the place of another: every call that was made is outstanding,
has been returned, or has been dropped before it was sent, and this once.
-/

namespace Telephony

namespace CallTable

variable {ω : Type}

/-- What may be done to a call table. A call that is made gets the next id and stands under it at
once. -/
inductive Deed (ω : Type) where
  | make (origin : ω) (token : Option Token)
  | arm (id : CallId) (token : Token)
  | take (id : CallId)
  | cancel (id : CallId)

/-! ### Outstanding calls -/

/-- The outstanding calls, each as its id and what it was made for. -/
def standing (table : CallTable ω) : List (CallId × ω) :=
  table.calls.entries.map fun (id, call) => (id, call.origin)

theorem standing_add {table : CallTable ω} {id : CallId} (hfree : id ∉ table.ids) (origin : ω)
    (token : Option Token) :
    (table.add id origin token).standing.Perm ((id, origin) :: table.standing) := by
  have hperm := (table.calls.entries_insert_perm id ⟨origin, token⟩).map
    fun (id, call) => (id, call.origin)
  rwa [Table.erase_of_get?_eq_none (Table.get?_eq_none_iff.2 hfree)] at hperm

theorem standing_arm (table : CallTable ω) (id : CallId) (token : Token) :
    (table.arm id token).2.standing = table.standing := by
  simp only [standing, arm, Table.modify, Table.mapValues, List.map_map]
  refine List.map_congr_left fun entry _ => ?_
  simp only [Function.comp_apply]
  split <;> rfl

theorem standing_take {table : CallTable ω} {id : CallId} {call : Call ω}
    (hcall : table.get? id = some call) :
    table.standing.Perm ((id, call.origin) :: (table.take id).2.standing) := by
  have hrest : (table.take id).2.standing =
      (table.calls.erase id).entries.map fun (id, call) => (id, call.origin) := by
    simp only [take, restartIfEmpty]
    split <;> rfl
  rw [hrest]
  exact (Table.entries_perm_of_get? hcall).map fun (id, call) => (id, call.origin)

/-- The ids begin again when a call is struck out and none is left. -/
theorem next_take (table : CallTable ω) (id : CallId) :
    (table.take id).2.next = if (table.take id).2.isEmpty then .base else table.next := by
  cases hempty : (table.calls.erase id).isEmpty <;>
    simp [take, restartIfEmpty, isEmpty, hempty]

theorem take_of_not_mem {table : CallTable ω} {id : CallId} (hnone : id ∉ table.ids) :
    table.take id = (none, table.restartIfEmpty) := by
  have hget := get?_eq_none_iff.2 hnone
  rw [take, hget, Table.erase_of_get?_eq_none hget]

theorem cancel_of_not_mem {table : CallTable ω} {id : CallId} (hnone : id ∉ table.ids) :
    table.cancel id = (.unknown, table) := by
  rw [cancel, get?_eq_none_iff.2 hnone]

theorem cancel_of_token {table : CallTable ω} {id : CallId} {origin : ω} {token : Token}
    (hcall : table.get? id = some ⟨origin, some token⟩) :
    table.cancel id = (.signalled token, table) := by
  rw [cancel, hcall]

theorem cancel_of_waiting {table : CallTable ω} {id : CallId} {origin : ω}
    (hcall : table.get? id = some ⟨origin, none⟩) :
    table.cancel id = (.destroyed, (table.take id).2) := by
  rw [cancel, hcall]
  rfl

end CallTable

/-- A call table, and what is remembered of its past. -/
structure CallHistory (ω : Type) where
  table : CallTable ω
  signalled : List Token
  /-- The ids given out since no call was outstanding last. -/
  recent : List CallId
  /-- All calls that were made. -/
  made : List (CallId × ω)
  /-- The calls that were struck out and returned. -/
  taken : List (CallId × ω)
  /-- The calls that were cancelled before they had a token. -/
  dropped : List (CallId × ω)

namespace CallHistory

open CallTable (Deed)
open scoped List

variable {ω : Type} {history : CallHistory ω} {id : CallId}

def opened : CallHistory ω := ⟨∅, [], [], [], [], []⟩

/-- What was made for `call` under `id`, if there is such a call. -/
def entry (id : CallId) (call : Option (Call ω)) : List (CallId × ω) :=
  (call.map fun call => (id, call.origin)).toList

def perform (history : CallHistory ω) : Deed ω → CallHistory ω
  | .make origin token =>
    let (id, table) := history.table.reserve
    { history with
      table := table.add id origin token
      recent := id :: history.recent
      made := (id, origin) :: history.made }
  | .arm id token => { history with table := (history.table.arm id token).2 }
  | .take id =>
    let (call, table) := history.table.take id
    { history with table, taken := entry id call ++ history.taken }
  | .cancel id =>
    match history.table.cancel id with
    | (.signalled token, table) => { history with table, signalled := token :: history.signalled }
    | (.destroyed, table) =>
      { history with table, dropped := entry id (history.table.get? id) ++ history.dropped }
    | (.unknown, table) => { history with table }

/-- Once no call is outstanding, the ids are given out anew. -/
def settle (history : CallHistory ω) : CallHistory ω :=
  { history with recent := if history.table.isEmpty then [] else history.recent }

def step (history : CallHistory ω) (deed : Deed ω) : CallHistory ω := (history.perform deed).settle

def run (history : CallHistory ω) (deeds : List (Deed ω)) : CallHistory ω :=
  deeds.foldl step history

/-- Between two moments when no call is outstanding, no more ids are given out than there are. -/
def Roomy (history : CallHistory ω) : List (Deed ω) → Prop
  | [] => True
  | deed :: rest => (history.step deed).recent.length ≤ UInt32.size - 1 ∧ (history.step deed).Roomy rest

instance decidableRoomy (history : CallHistory ω) : DecidablePred history.Roomy
  | [] => isTrue trivial
  | deed :: rest =>
    have := decidableRoomy (history.step deed) rest
    inferInstanceAs (Decidable (_ ∧ _))

/-! ### What every deed keeps -/

/-- The ids given out since no call was outstanding last are the first ones, and all that are
outstanding are among them; the next id follows them, unless they are all there are. -/
structure Numbered (history : CallHistory ω) : Prop where
  next : history.recent.length < UInt32.size - 1 →
    history.table.next.number.toNat = history.recent.length + 1
  bounded : ∀ id ∈ history.recent, id.number.toNat ≤ history.recent.length
  outstanding : ∀ id ∈ history.table.ids, id ∈ history.recent
  restarted : history.table.ids = [] → history.recent = []
  conserved : (history.taken ++ (history.dropped ++ history.table.standing)).Perm history.made

theorem numbered_opened : (opened : CallHistory ω).Numbered :=
  ⟨fun _ => rfl, nofun, nofun, fun _ => rfl, .nil⟩

namespace Numbered

theorem next_eq_base (hnumbered : history.Numbered) (hnone : history.table.ids = []) :
    history.table.next = .base := by
  have hrecent := hnumbered.restarted hnone
  have hnext := hnumbered.next (by rw [hrecent]; decide)
  rw [hrecent] at hnext
  have hnumber : history.table.next.number = 1 := UInt32.toNat_inj.1 hnext
  exact congrArg CallId.mk hnumber

theorem restartIfEmpty_eq (hnumbered : history.Numbered) :
    history.table.restartIfEmpty = history.table := by
  unfold CallTable.restartIfEmpty
  split
  · next hempty =>
    rw [← hnumbered.next_eq_base (CallTable.isEmpty_iff.1 hempty)]
  · rfl

theorem below_next (hnumbered : history.Numbered) (hroom : history.recent.length < UInt32.size - 1)
    (hid : id ∈ history.recent) : id.number < history.table.next.number := by
  have hbound := hnumbered.bounded id hid
  rw [UInt32.lt_iff_toNat_lt, hnumbered.next hroom]
  omega

theorem next_not_mem (hnumbered : history.Numbered) (hroom : history.recent.length < UInt32.size - 1) :
    history.table.next ∉ history.table.ids := fun hmem =>
  UInt32.lt_irrefl _ (hnumbered.below_next hroom (hnumbered.outstanding _ hmem))

theorem settle_eq (hnumbered : history.Numbered) : history.settle = history := by
  unfold settle
  split
  · next hempty => rw [← hnumbered.restarted (CallTable.isEmpty_iff.1 hempty)]
  · rfl

theorem make (hnumbered : history.Numbered) (hroom : history.recent.length < UInt32.size - 1)
    (origin : ω) (token : Option Token) : (history.perform (.make origin token)).Numbered where
  next hlater := by
    have hnext := hnumbered.next hroom
    have hlength : history.recent.length + 1 < UInt32.size - 1 := hlater
    change history.table.next.succ.number.toNat = _
    rw [CallTable.toNat_succ (by rw [hnext]; omega), hnext]
    rfl
  bounded id hmem := by
    rcases List.mem_cons.1 hmem with rfl | hold
    · exact Nat.le_of_eq (hnumbered.next hroom)
    · exact Nat.le_succ_of_le (hnumbered.bounded id hold)
  outstanding id hmem := by
    rcases CallTable.mem_ids_add.1 hmem with rfl | hold
    · exact List.mem_cons_self
    · exact List.mem_cons_of_mem _ (hnumbered.outstanding id hold)
  restarted hnone := by
    have hmem : history.table.next ∈ (history.perform (.make origin token)).table.ids :=
      CallTable.mem_ids_add.2 (.inl rfl)
    rw [hnone] at hmem
    exact absurd hmem List.not_mem_nil
  conserved := by
    have hstanding := CallTable.standing_add (hnumbered.next_not_mem hroom) origin token
    calc
      _ = (history.taken ++ history.dropped) ++
          (history.table.add history.table.next origin token).standing :=
        (List.append_assoc _ _ _).symm
      _ ~ ((history.taken ++ history.dropped) ++
          ((history.table.next, origin) :: history.table.standing)) := hstanding.append_left _
      _ ~ ((history.table.next, origin) ::
          ((history.taken ++ history.dropped) ++ history.table.standing)) := List.perm_middle
      _ ~ ((history.table.next, origin) :: history.made) := by
        rw [List.append_assoc]
        exact hnumbered.conserved.cons _

theorem arm (hnumbered : history.Numbered) (id : CallId) (token : Token) :
    (history.perform (.arm id token)).Numbered where
  next := hnumbered.next
  bounded := hnumbered.bounded
  outstanding other hmem := hnumbered.outstanding other (by
    rwa [perform, CallTable.ids_arm] at hmem)
  restarted hnone := hnumbered.restarted (by rwa [perform, CallTable.ids_arm] at hnone)
  conserved := by
    rw [perform, CallTable.standing_arm]
    exact hnumbered.conserved

/-- A call is struck out and noted among those taken or those dropped. -/
theorem strike (hnumbered : history.Numbered) {call : Call ω}
    (hcall : history.table.get? id = some call) {taken dropped : List (CallId × ω)}
    (hnoted : (taken ++ dropped).Perm ((id, call.origin) :: (history.taken ++ history.dropped))) :
    ({ history with table := (history.table.take id).2, taken, dropped } :
      CallHistory ω).settle.Numbered := by
  have hmem : id ∈ history.table.ids :=
    CallTable.contains_iff.1 (Option.isSome_of_eq_some hcall)
  have hstanding := CallTable.standing_take hcall
  have hconserved : (taken ++ (dropped ++ (history.table.take id).2.standing)).Perm history.made :=
    calc
      _ = (taken ++ dropped) ++ (history.table.take id).2.standing :=
        (List.append_assoc _ _ _).symm
      _ ~ ((id, call.origin) :: (history.taken ++ history.dropped) ++
          (history.table.take id).2.standing) := hnoted.append_right _
      _ ~ ((history.taken ++ history.dropped) ++
          ((id, call.origin) :: (history.table.take id).2.standing)) := List.perm_middle.symm
      _ ~ ((history.taken ++ history.dropped) ++ history.table.standing) :=
        hstanding.symm.append_left _
      _ ~ history.made := by
        rw [List.append_assoc]
        exact hnumbered.conserved
  have hnext := history.table.next_take id
  by_cases hempty : (history.table.take id).2.isEmpty = true
  · rw [if_pos hempty] at hnext
    have hnone := CallTable.isEmpty_iff.1 hempty
    refine ⟨fun _ => ?_, ?_, ?_, fun _ => ?_, hconserved⟩
    all_goals simp only [settle, if_pos hempty]
    · rw [hnext]
      rfl
    · exact nofun
    · rw [hnone]
      exact nofun
  · rw [if_neg hempty] at hnext
    refine ⟨?_, ?_, ?_, fun hnone => absurd (CallTable.isEmpty_iff.2 hnone) hempty, hconserved⟩
    all_goals simp only [settle, if_neg hempty]
    · rw [hnext]
      exact hnumbered.next
    · exact hnumbered.bounded
    · exact fun other hother => hnumbered.outstanding other (CallTable.mem_ids_take.1 hother).2

/-- An id under which no call is outstanding is of no effect. -/
theorem take_of_not_mem (hnumbered : history.Numbered) (hnone : id ∉ history.table.ids) :
    history.step (.take id) = history := by
  have htaken := CallTable.take_of_not_mem hnone
  rw [step, perform, htaken, hnumbered.restartIfEmpty_eq]
  exact hnumbered.settle_eq

theorem cancel_of_not_mem (hnumbered : history.Numbered) (hnone : id ∉ history.table.ids) :
    history.step (.cancel id) = history := by
  rw [step, perform, CallTable.cancel_of_not_mem hnone]
  exact hnumbered.settle_eq

theorem cancel_of_token (hnumbered : history.Numbered) {origin : ω} {token : Token}
    (hcall : history.table.get? id = some ⟨origin, some token⟩) :
    history.step (.cancel id) = { history with signalled := token :: history.signalled } := by
  rw [step, perform, CallTable.cancel_of_token hcall]
  exact congrArg (fun settled : CallHistory ω =>
    { settled with signalled := token :: history.signalled }) hnumbered.settle_eq

theorem step (hnumbered : history.Numbered) (deed : Deed ω)
    (hroom : (history.step deed).recent.length ≤ UInt32.size - 1) : (history.step deed).Numbered := by
  cases deed with
  | make origin token =>
    have hmem : history.table.next ∈ (history.perform (.make origin token)).table.ids :=
      CallTable.mem_ids_add.2 (.inl rfl)
    have hbusy : ¬ (history.perform (.make origin token)).table.isEmpty = true := fun hempty => by
      rw [CallTable.isEmpty_iff.1 hempty] at hmem
      exact List.not_mem_nil hmem
    rw [CallHistory.step, settle, if_neg hbusy] at hroom
    have hmade := hnumbered.make (Nat.lt_of_succ_le hroom) origin token
    rw [CallHistory.step, hmade.settle_eq]
    exact hmade
  | arm id token =>
    have harmed := hnumbered.arm id token
    rw [CallHistory.step, harmed.settle_eq]
    exact harmed
  | take id =>
    cases hcall : history.table.get? id with
    | none =>
      rw [hnumbered.take_of_not_mem (CallTable.get?_eq_none_iff.1 hcall)]
      exact hnumbered
    | some call =>
      have htaken : (history.table.take id).1 = some call := hcall
      have hnoted : (entry id (history.table.take id).1 ++ history.taken ++ history.dropped).Perm
          ((id, call.origin) :: (history.taken ++ history.dropped)) := by
        rw [htaken]
        exact .refl _
      exact hnumbered.strike hcall hnoted
  | cancel id =>
    cases hcall : history.table.get? id with
    | none =>
      rw [hnumbered.cancel_of_not_mem (CallTable.get?_eq_none_iff.1 hcall)]
      exact hnumbered
    | some call =>
      obtain ⟨origin, token⟩ := call
      cases token with
      | some token =>
        rw [hnumbered.cancel_of_token hcall]
        exact ⟨hnumbered.next, hnumbered.bounded, hnumbered.outstanding, hnumbered.restarted,
          hnumbered.conserved⟩
      | none =>
        rw [CallHistory.step, perform, CallTable.cancel_of_waiting hcall, hcall]
        exact hnumbered.strike hcall List.perm_middle

theorem run {deeds : List (Deed ω)} (hnumbered : history.Numbered) (hroomy : history.Roomy deeds) :
    (history.run deeds).Numbered := by
  induction deeds generalizing history with
  | nil => exact hnumbered
  | cons deed rest ih => exact ih (hnumbered.step deed hroomy.1) hroomy.2

end Numbered

/-- What the table is fit to do next, whatever that is, and what has come of the calls. -/
structure WellKept (history : CallHistory ω) : Prop where
  /-- While there are ids left, the next one is greater than all that were given out since no call
  was outstanding, and outstanding nowhere. -/
  fresh : history.recent.length < UInt32.size - 1 →
    history.table.reserve.1 ∉ history.table.ids ∧
      ∀ id ∈ history.recent, id.number < history.table.reserve.1.number
  first : history.table.isEmpty = true → history.table.reserve.1 = ⟨1⟩
  /-- Under an id that is not outstanding there is nothing to take or to cancel. -/
  idle : ∀ id, id ∉ history.table.ids →
    (history.table.take id).1 = none ∧ (history.table.cancel id).1 = .unknown ∧
      history.step (.take id) = history ∧ history.step (.cancel id) = history
  /-- Cancelling a call that has a token signals that token, and does nothing else. -/
  signals : ∀ id origin token, history.table.get? id = some ⟨origin, some token⟩ →
    history.step (.cancel id) = { history with signalled := token :: history.signalled }
  /-- Cancelling a call that has none strikes it out, and no other. -/
  destroys : ∀ id origin, history.table.get? id = some ⟨origin, none⟩ →
    (history.step (.cancel id)).signalled = history.signalled ∧
      ∀ other, (history.step (.cancel id)).table.get? other =
        if id = other then none else history.table.get? other
  /-- Every call that was made has been returned, has been dropped or is outstanding, once. -/
  conserved : (history.taken ++ (history.dropped ++ history.table.standing)).Perm history.made
  once : history.made.Nodup → history.taken.Nodup

theorem Numbered.wellKept (hnumbered : history.Numbered) : history.WellKept where
  fresh hroom := ⟨hnumbered.next_not_mem hroom, fun _ hid => hnumbered.below_next hroom hid⟩
  first hempty := hnumbered.next_eq_base (CallTable.isEmpty_iff.1 hempty)
  idle id hnone := by
    have htaken := CallTable.take_of_not_mem hnone
    have hcancelled := CallTable.cancel_of_not_mem hnone
    exact ⟨congrArg Prod.fst htaken, congrArg Prod.fst hcancelled,
      hnumbered.take_of_not_mem hnone, hnumbered.cancel_of_not_mem hnone⟩
  signals id origin token hcall := hnumbered.cancel_of_token hcall
  destroys id origin hcall := by
    rw [CallHistory.step, perform, CallTable.cancel_of_waiting hcall]
    exact ⟨rfl, history.table.get?_take id⟩
  conserved := hnumbered.conserved
  once hdistinct := (hnumbered.conserved.nodup_iff.2 hdistinct).of_append_left

/-- Whatever is done to a call table, its calls are well kept as long as the ids last. -/
theorem wellKept_run (deeds : List (Deed ω)) (hroomy : (opened : CallHistory ω).Roomy deeds) :
    (opened.run deeds).WellKept :=
  (numbered_opened.run hroomy).wellKept

/-- Of three calls one is dropped, one is stopped and taken, and one is taken; nothing more can be
taken, and the ids begin again. -/
theorem wellKept_run_restarted :
    let deeds : List (Deed String) :=
      [.make "a" none, .make "b" (some ⟨0⟩), .make "c" none, .cancel ⟨1⟩, .arm ⟨3⟩ ⟨1⟩,
        .cancel ⟨2⟩, .take ⟨2⟩, .take ⟨2⟩, .cancel ⟨7⟩, .take ⟨3⟩, .make "d" none]
    (opened : CallHistory String).Roomy deeds ∧ (opened.run deeds).WellKept ∧
      (opened.run deeds).taken = [(⟨3⟩, "c"), (⟨2⟩, "b")] ∧
      (opened.run deeds).dropped = [(⟨1⟩, "a")] ∧ (opened.run deeds).signalled = [⟨0⟩] ∧
      (opened.run deeds).table.standing = [(⟨1⟩, "d")] := by
  intro deeds
  have hroomy : (opened : CallHistory String).Roomy deeds := by decide +kernel
  exact ⟨hroomy, wellKept_run deeds hroomy, by decide +kernel⟩

end CallHistory

end Telephony
