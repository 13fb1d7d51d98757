import Telephony.Proofs.Operations

/-!
# Listeners in order of registration

The lists of observers against the list of all registrations that are open: each topic's list holds
those of its topic, in the order in which they were made. An id is given out once, so that closing a
registration strikes out that one and no other.
-/

namespace Telephony

namespace ObserverList

variable {α : Type} {list : ObserverList α}

/-- Ids grow along the list and are below the next one. -/
structure Ordered (list : ObserverList α) : Prop where
  growing : list.ids.Pairwise fun a b => a.number < b.number
  issued : ∀ id ∈ list.ids, id.number < list.next

theorem ordered_empty : (∅ : ObserverList α).Ordered :=
  ⟨.nil, fun _ hmem => absurd hmem List.not_mem_nil⟩

theorem Ordered.add (hordered : list.Ordered) (observer : α) : (list.add observer).2.Ordered := by
  have hids : (list.add observer).2.ids = list.ids ++ [⟨list.next⟩] := List.map_append
  constructor
  · rw [hids, List.pairwise_append]
    refine ⟨hordered.growing, List.pairwise_singleton _ _, fun id hid last hlast => ?_⟩
    rw [List.mem_singleton.1 hlast]
    exact hordered.issued id hid
  · intro id hid
    rw [hids, List.mem_append, List.mem_singleton] at hid
    change id.number < list.next + 1
    rcases hid with hthere | rfl
    · exact Nat.lt_succ_of_lt (hordered.issued id hthere)
    · exact Nat.lt_succ_self list.next

theorem eraseP_eq_filter {entries : List (ObserverId × α)} (id : ObserverId)
    (hgrowing : (entries.map (·.1)).Pairwise fun a b => a.number < b.number) :
    entries.eraseP (·.1 = id) = entries.filter (·.1 ≠ id) := by
  induction entries with
  | nil => rfl
  | cons head rest ih =>
    rw [List.map_cons, List.pairwise_cons] at hgrowing
    obtain ⟨hhead, hrest⟩ := hgrowing
    by_cases hid : head.1 = id
    · have hothers : rest.filter (·.1 ≠ id) = rest := by
        refine List.filter_eq_self.2 fun entry hentry => decide_eq_true fun heq => ?_
        have hlt := hhead entry.1 (List.mem_map_of_mem hentry)
        rw [hid, heq] at hlt
        exact Nat.lt_irrefl _ hlt
      rw [List.eraseP_cons_of_pos (by simpa using hid), List.filter_cons_of_neg (by simpa using hid),
        hothers]
    · rw [List.eraseP_cons_of_neg (by simpa using hid), List.filter_cons_of_pos (by simpa using hid),
        ih hrest]

theorem Ordered.entries_remove (hordered : list.Ordered) (id : ObserverId) :
    (list.remove id).2.entries = list.entries.filter (·.1 ≠ id) :=
  eraseP_eq_filter id hordered.growing

theorem Ordered.remove (hordered : list.Ordered) (id : ObserverId) :
    (list.remove id).2.Ordered := by
  have hsub : (list.remove id).2.ids.Sublist list.ids :=
    List.Sublist.map _ (hordered.entries_remove id ▸ List.filter_sublist)
  exact ⟨hordered.growing.sublist hsub, fun other hother =>
    hordered.issued other (hsub.subset hother)⟩

end ObserverList

/-! ### Registrations -/

/-- The registrations that are open, in the order in which they were made. -/
abbrev Registrations := List (Subscription × Listener)

namespace Registrations

/-- Who is registered on a topic. -/
def on (registrations : Registrations) (topic : Topic) : Registrations :=
  registrations.filter (·.1.topic = topic)

def listeners (registrations : Registrations) (topic : Topic) : List Listener :=
  (registrations.on topic).map (·.2)

end Registrations

namespace Observers

/-- The lists are the open registrations, topic by topic. -/
def Holds (observers : Observers) (registrations : Registrations) : Prop :=
  ∀ topic, (observers.on topic).Ordered ∧
    (observers.on topic).entries = (registrations.on topic).map fun (made, listener) =>
      (made.id, listener)

variable {observers : Observers} {registrations : Registrations}

theorem holds_empty : (∅ : Observers).Holds [] := by
  intro topic
  cases topic <;> exact ⟨ObserverList.ordered_empty, rfl⟩

theorem Holds.snapshot (hholds : observers.Holds registrations) (topic : Topic) :
    (observers.on topic).snapshot = registrations.listeners topic := by
  rw [ObserverList.snapshot, (hholds topic).2, List.map_map]
  rfl

theorem Holds.add (hholds : observers.Holds registrations) (topic : Topic) (listener : Listener) :
    (observers.add topic listener).2.Holds
      (registrations ++ [((observers.add topic listener).1, listener)]) := by
  intro other
  obtain ⟨hordered, hentries⟩ := hholds other
  simp only [Observers.add, on_setOn, Registrations.on, List.filter_append, List.map_append]
  by_cases hother : topic = other
  · subst hother
    rw [if_pos rfl]
    refine ⟨hordered.add listener, ?_⟩
    simp only [ObserverList.add, hentries, Registrations.on]
    simp
  · rw [if_neg hother]
    refine ⟨hordered, ?_⟩
    rw [hentries]
    simp [Registrations.on, hother]

theorem Holds.remove (hholds : observers.Holds registrations) (closed : Subscription) :
    (observers.remove closed).2.Holds (registrations.filter (·.1 ≠ closed)) := by
  intro other
  obtain ⟨hordered, hentries⟩ := hholds other
  obtain ⟨topic, id⟩ := closed
  simp only [Observers.remove, on_setOn]
  by_cases hother : topic = other
  · subst hother
    rw [if_pos rfl]
    refine ⟨hordered.remove id, ?_⟩
    -- the id is that of one registration on the topic, so that removing it removes only that
    rw [hordered.entries_remove, hentries, Registrations.on, Registrations.on, List.filter_map,
      List.filter_filter, List.filter_filter]
    refine congrArg _ (List.filter_congr fun ⟨⟨on, number⟩, listener⟩ _ => ?_)
    by_cases htopic : on = topic <;> simp [htopic]
  · rw [if_neg hother]
    refine ⟨hordered, ?_⟩
    rw [hentries, Registrations.on, Registrations.on, List.filter_filter]
    refine congrArg _ (List.filter_congr fun ⟨⟨on, number⟩, listener⟩ _ => ?_)
    by_cases htopic : on = other
    · have hne : on ≠ topic := fun heq => hother (heq.symm.trans htopic)
      simp [htopic, Ne.symm hother]
    · simp [htopic]

end Observers

/-! ### Operations -/

namespace Switchboard

theorem observers_removeModem (board : Switchboard) (path : ModemPath) :
    (board.removeModem path).1.observers = board.observers := by
  unfold removeModem
  split <;> rfl

theorem observers_clear (board : Switchboard) : board.clear.1.observers = board.observers :=
  clear_keeps (fun result => result.1.observers = board.observers)
    (fun before _ path hkept => (observers_removeModem before path).trans hkept) rfl

theorem observers_submit (board : Switchboard) (path : ModemPath) (code : String)
    (ticket : Ticket) : (board.perform (.submit path code ticket)).observers = board.observers := by
  cases hentry : board.entry? path with
  | none => simp only [perform, submit_of_unknown hentry]
  | some entry =>
    by_cases hdirect : entry.requests = .direct
    · simp only [perform, submit_of_direct hentry hdirect]
      rfl
    · simp only [perform, submit_of_waiting hentry hdirect]

/-- Who listens after an operation. -/
def listening (observers : Observers) : Operation → Observers
  | .subscribe topic listener => (observers.add topic listener).2
  | .unsubscribe closed => (observers.remove closed).2
  | _ => observers

theorem observers_perform (board : Switchboard) (operation : Operation) :
    (board.perform operation).observers = listening board.observers operation := by
  cases operation with
  | apply event =>
    cases event with
    | modemAdded path properties => rfl
    | modemRemoved path => exact observers_removeModem board path
    | propertyChanged path change =>
      obtain ⟨modems, hchanged⟩ := board.onEntry_eq path fun entry =>
        entry.change board.observers path change
      simp only [perform, apply, hchanged, listening]
  | loaded path interface result =>
    obtain ⟨modems, drains, hloaded⟩ := board.board_loaded path interface result
    simp only [perform, hloaded, listening]
  | clear => exact observers_clear board
  | submit path code ticket => exact observers_submit board path code ticket
  | nextQueued path epoch =>
    obtain ⟨modems, hnext⟩ := board.nextQueued_eq path epoch
    simp only [perform, hnext, listening]
  | arm id =>
    simp only [perform, arm]
    split <;> rfl
  | beginSession =>
    simp only [perform, beginSession]
    cases board.sessionActive <;> rfl
  | subscribe | unsubscribe | flush | beginCall | finishCall | cancel | endSession => rfl

/-- The registrations that are open after the operation. -/
def registers (board : Switchboard) (registrations : Registrations) : Operation → Registrations
  | .subscribe topic listener => registrations ++ [((board.subscribe topic listener).1, listener)]
  | .unsubscribe closed => registrations.filter (·.1 ≠ closed)
  | _ => registrations

theorem holds_perform {board : Switchboard} {registrations : Registrations}
    (hholds : board.observers.Holds registrations) (operation : Operation) :
    (board.perform operation).observers.Holds (board.registers registrations operation) := by
  rw [observers_perform]
  cases operation with
  | subscribe topic listener => exact hholds.add topic listener
  | unsubscribe closed => exact hholds.remove closed
  | _ => exact hholds

end Switchboard

end Telephony
