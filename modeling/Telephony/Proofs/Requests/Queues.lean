import Telephony.Proofs.Loading
import Telephony.Proofs.Requests.Desk

/-!
# Queues of the switchboard

No operation on an entry touches its queue, whatever else it changes: an interface that comes, goes
or changes leaves the requests where they are. Only the removal of a modem asks for answers to be
given, and then to the requests that waited for it.
-/

namespace Telephony

/-! ### Answers that effects ask for -/

/-- The answers that an effect asks to be given. -/
def Effect.failures : Effect → List (Ticket × Answer)
  | fail path requests =>
    requests.map fun request => (request.ticket, .reply (.error (.modemNotFound path)))
  | _ => []

def Outcome.failures (outcome : Outcome) : List (Ticket × Answer) :=
  outcome.effects.flatMap Effect.failures

namespace Outcome

@[simp] theorem failures_append (a b : Outcome) : (a ++ b).failures = a.failures ++ b.failures :=
  List.flatMap_append

@[simp] theorem failures_empty : (∅ : Outcome).failures = [] := rfl

@[simp] theorem failures_ofEffect (effect : Effect) :
    (ofEffect effect).failures = effect.failures := by
  simp [failures, ofEffect]

theorem failures_watches (path : ModemPath) (interfaces : List Interface) :
    failures ⟨interfaces.map (.watch path), []⟩ = [] := by
  simp [failures, Effect.failures]

end Outcome

/-! ### Entries -/

namespace Entry

variable (observers : Observers) (path : ModemPath)

theorem queue_detach (entry : Entry) (interface : Interface) :
    (entry.detach observers path interface).1.requests.queue = entry.requests.queue := by
  unfold detach
  split
  · cases interface <;> rfl
  · rfl

theorem failures_detach (entry : Entry) (interface : Interface) :
    (entry.detach observers path interface).2.failures = [] := by
  unfold detach
  split <;> rfl

theorem queue_detachAll (entry : Entry) (interfaces : List Interface) :
    (entry.detachAll observers path interfaces).1.requests.queue = entry.requests.queue := by
  induction interfaces generalizing entry with
  | nil => rfl
  | cons interface rest ih => exact (ih _).trans (queue_detach observers path entry interface)

theorem failures_detachAll (entry : Entry) (interfaces : List Interface) :
    (entry.detachAll observers path interfaces).2.failures = [] := by
  induction interfaces generalizing entry with
  | nil => rfl
  | cons interface rest ih =>
    simp only [detachAll, Outcome.failures_append, failures_detach, ih, List.append_nil]

theorem queue_attach (epoch : UInt64) (entry : Entry) (interface : Interface) :
    (entry.attach path epoch interface).1.requests.queue = entry.requests.queue := by
  cases interface with
  | supplementaryServices =>
    cases hrequests : entry.requests with
    | pending queue => cases queue <;> simp [attach, hrequests, Requests.queue]
    | draining queue epoch => simp [attach, hrequests]
    | direct => simp [attach, hrequests]
  | _ => rfl

theorem failures_attach (epoch : UInt64) (entry : Entry) (interface : Interface) :
    (entry.attach path epoch interface).2.failures = [] := by
  cases interface with
  | supplementaryServices =>
    cases hrequests : entry.requests with
    | pending queue => cases queue <;> simp [attach, hrequests, Effect.failures]
    | draining queue epoch => simp [attach, hrequests]
    | direct => simp [attach, hrequests]
  | _ => rfl

@[simp] theorem requests_mark (entry : Entry) (interface : Interface) :
    (entry.mark interface).requests = entry.requests := by
  cases interface <;> rfl

theorem queue_setInterfaces (entry : Entry) (current : InterfaceSet) :
    (entry.setInterfaces observers path current).1.requests.queue = entry.requests.queue := by
  simp only [setInterfaces]
  split
  · rfl
  · exact queue_detachAll observers path _ _

theorem failures_setInterfaces (entry : Entry) (current : InterfaceSet) :
    (entry.setInterfaces observers path current).2.failures = [] := by
  simp only [setInterfaces]
  split
  · rfl
  · rw [Outcome.failures_append, failures_detachAll, Outcome.failures_watches, List.append_nil]

theorem queue_change (entry : Entry) (change : Change) :
    (entry.change observers path change).1.requests.queue = entry.requests.queue := by
  unfold Entry.change
  split
  · exact queue_setInterfaces observers path entry _
  · rfl
  · split <;> rfl
  · rfl
  · rfl
  · rfl

theorem failures_change (entry : Entry) (change : Change) :
    (entry.change observers path change).2.failures = [] := by
  unfold Entry.change
  split
  · exact failures_setInterfaces observers path entry _
  all_goals rfl

theorem queue_changeAll (entry : Entry) (changes : List Change) :
    (entry.changeAll observers path changes).1.requests.queue = entry.requests.queue := by
  induction changes generalizing entry with
  | nil => rfl
  | cons change rest ih => exact (ih _).trans (queue_change observers path entry change)

theorem failures_changeAll (entry : Entry) (changes : List Change) :
    (entry.changeAll observers path changes).2.failures = [] := by
  induction changes generalizing entry with
  | nil => rfl
  | cons change rest ih =>
    simp only [changeAll, Outcome.failures_append, failures_change, ih, List.append_nil]

end Entry

/-! ### Boards -/

namespace Switchboard

theorem waitingIn_of_get? {modems : Table ModemPath Entry} {path : ModemPath} {entry : Entry}
    (hentry : modems.get? path = some entry) :
    waitingIn modems =
      (entry.requests.queue.map (path, ·) : List _) + waitingIn (modems.erase path) := by
  have hperm := (Table.entries_perm_of_get? hentry).flatMap_right
    fun listed => listed.2.requests.queue.map (listed.1, ·)
  exact Multiset.coe_eq_coe.2 hperm

theorem waitingIn_insert (modems : Table ModemPath Entry) (path : ModemPath) (entry : Entry) :
    waitingIn (modems.insert path entry) =
      (entry.requests.queue.map (path, ·) : List _) + waitingIn (modems.erase path) := by
  have hperm := (modems.entries_insert_perm path entry).flatMap_right
    fun listed => listed.2.requests.queue.map (listed.1, ·)
  exact Multiset.coe_eq_coe.2 hperm

/-- An entry that keeps its queue leaves all that wait where they are. -/
theorem waitingIn_insert_same {modems : Table ModemPath Entry} {path : ModemPath}
    {entry after : Entry} (hentry : modems.get? path = some entry)
    (hqueue : after.requests.queue = entry.requests.queue) :
    waitingIn (modems.insert path after) = waitingIn modems := by
  rw [waitingIn_insert, waitingIn_of_get? hentry, hqueue]

/-- The operation leaves all that wait and all that is outstanding alone, and asks for no answer. -/
structure Calm (board : Switchboard) (result : Switchboard × Outcome) : Prop where
  waiting : result.1.waiting = board.waiting
  calls : result.1.calls = board.calls
  failures : result.2.failures = []

theorem calm_onEntry (board : Switchboard) (path : ModemPath) (step : Entry → Entry × Outcome)
    (hqueue : ∀ entry, (step entry).1.requests.queue = entry.requests.queue)
    (hfailures : ∀ entry, (step entry).2.failures = []) :
    board.Calm (board.onEntry path step) := by
  unfold onEntry
  cases hentry : board.entry? path with
  | none => exact ⟨rfl, rfl, rfl⟩
  | some entry => exact ⟨waitingIn_insert_same hentry (hqueue entry), rfl, hfailures entry⟩

theorem calm_addModem (board : Switchboard) (path : ModemPath) (properties : List Change) :
    board.Calm (board.addModem path properties) where
  waiting := by
    simp only [addModem, waiting]
    cases hentry : board.entry? path with
    | some entry =>
      refine waitingIn_insert_same hentry ?_
      rw [Entry.requests_mark]
      exact Entry.queue_changeAll board.observers path entry properties
    | none =>
      have hnew : (Entry.new.changeAll board.observers path properties).1.requests.queue = [] :=
        Entry.queue_changeAll board.observers path .new properties
      rw [waitingIn_insert, Entry.requests_mark, Option.getD_none, hnew,
        Table.erase_of_get?_eq_none hentry]
      exact zero_add _
  calls := rfl
  failures := by
    simp only [addModem, Outcome.failures_append, Entry.failures_changeAll, List.append_nil]
    split <;> simp [Effect.failures]

theorem failures_refusal (path : ModemPath) (interface : Interface) :
    (refusal path interface).failures = [] := by
  unfold refusal
  split <;> simp [Effect.failures]

theorem queue_loadEntry (board : Switchboard) (path : ModemPath) (interface : Interface)
    (result : Except Failure (List Change)) (entry : Entry) :
    (board.loadEntry path interface result entry).1.requests.queue = entry.requests.queue := by
  cases hoffered : entry.offers interface with
  | false => rw [loadEntry_of_withdrawn hoffered]
  | true =>
    cases result with
    | error failure => rw [loadEntry_error]
    | ok properties =>
      rw [loadEntry_ok hoffered, Entry.requests_mark, Entry.queue_changeAll, Entry.queue_attach]

theorem failures_loadEntry (board : Switchboard) (path : ModemPath) (interface : Interface)
    (result : Except Failure (List Change)) (entry : Entry) :
    (board.loadEntry path interface result entry).2.failures = [] := by
  cases hoffered : entry.offers interface with
  | false => rw [loadEntry_of_withdrawn hoffered, failures_refusal]
  | true =>
    cases result with
    | error failure => rw [loadEntry_error, failures_refusal]
    | ok properties =>
      rw [loadEntry_ok hoffered, Outcome.failures_append, Entry.failures_attach,
        Entry.failures_changeAll, List.append_nil]

theorem calm_loaded (board : Switchboard) (path : ModemPath) (interface : Interface)
    (result : Except Failure (List Change)) : board.Calm (board.loaded path interface result) := by
  obtain ⟨drains, hloaded⟩ := loaded_eq board path interface result
  obtain ⟨hwaiting, hcalls, hfailures⟩ := calm_onEntry board path
    (board.loadEntry path interface result) (queue_loadEntry board path interface result)
    (failures_loadEntry board path interface result)
  rw [hloaded]
  exact ⟨hwaiting, hcalls, hfailures⟩

/-- Every event but the removal of a modem. -/
theorem calm_apply (board : Switchboard) (event : Event)
    (hevent : ∀ path, event ≠ .modemRemoved path) : board.Calm (board.apply event) := by
  cases event with
  | modemAdded path properties => exact calm_addModem board path properties
  | modemRemoved path => exact absurd rfl (hevent path)
  | propertyChanged path change =>
    exact calm_onEntry board path _
      (fun entry => Entry.queue_change board.observers path entry change)
      (fun entry => Entry.failures_change board.observers path entry change)

theorem waiting_flush (board : Switchboard) : board.flush.1.waiting = board.waiting := by
  simp only [waiting, waitingIn, flush, Table.mapValues, List.flatMap_map]
  rfl

/-! ### Submission -/

theorem queue_enqueue (request : QueuedRequest) {requests : Requests}
    (hwaits : requests ≠ .direct) :
    (enqueue request requests).queue = requests.queue ++ [request] := by
  cases requests with
  | pending queue => rfl
  | draining queue epoch => rfl
  | direct => exact absurd rfl hwaits

theorem waitingIn_enqueue {modems : Table ModemPath Entry} {path : ModemPath} {entry : Entry}
    (hentry : modems.get? path = some entry) (request : QueuedRequest)
    (hwaits : entry.requests ≠ .direct) :
    waitingIn (modems.insert path { entry with requests := enqueue request entry.requests }) =
      (path, request) ::ₘ waitingIn modems := by
  have hperm : ((entry.requests.queue ++ [request]).map (path, ·)).Perm
      ((path, request) :: entry.requests.queue.map (path, ·)) := by
    rw [List.map_append]
    exact List.perm_append_comm
  rw [waitingIn_insert, waitingIn_of_get? hentry, queue_enqueue request hwaits,
    Multiset.coe_eq_coe.2 hperm, ← Multiset.cons_coe, Multiset.cons_add]

/-- A request is refused, or it gets the next id and is sent at once or put into the queue. -/
theorem submit_cases (board : Switchboard) (path : ModemPath) (code : String) (ticket : Ticket) :
    (∃ failure, board.submit path code ticket = .error failure) ∨
      (∃ token tokens, board.submit path code ticket = .ok (.dispatch board.calls.next token,
        { board with
          calls := board.calls.reserve.2.add board.calls.next path (some token), tokens })) ∨
      ∃ after, board.submit path code ticket = .ok (.queued board.calls.next, after) ∧
        after.calls = board.calls.reserve.2.add board.calls.next path none ∧
        after.waiting = (path, ⟨board.calls.next, code, ticket⟩) ::ₘ board.waiting := by
  unfold submit
  cases hentry : board.entry? path with
  | none => exact .inl ⟨_, rfl⟩
  | some entry =>
    cases hrequests : entry.requests with
    | direct => exact .inr (.inl ⟨board.fresh, board.tokens + 1, by simp only [hrequests]; rfl⟩)
    | pending queue =>
      have hwaits : entry.requests ≠ .direct := by simp [hrequests]
      refine .inr (.inr ⟨_, by simp only [hrequests]; rfl, rfl, ?_⟩)
      rw [← hrequests]
      exact waitingIn_enqueue hentry _ hwaits
    | draining queue epoch =>
      have hwaits : entry.requests ≠ .direct := by simp [hrequests]
      refine .inr (.inr ⟨_, by simp only [hrequests]; rfl, rfl, ?_⟩)
      rw [← hrequests]
      exact waitingIn_enqueue hentry _ hwaits

/-! ### Removal of a modem -/

/-- A removal strikes out the queue of the modem and asks for an answer to each request in it that
is still outstanding. -/
theorem removeModem_of_known {board : Switchboard} {path : ModemPath} {entry : Entry}
    (hentry : board.entry? path = some entry) :
    board.waiting = (entry.requests.queue.map (path, ·) : List _) +
        (board.removeModem path).1.waiting ∧
      (board.removeModem path).1.calls = (abandon board.calls entry.requests.queue).1 ∧
      (board.removeModem path).2.failures =
        (Effect.fail path (abandon board.calls entry.requests.queue).2).failures := by
  have hqueue := Entry.queue_detachAll board.observers path entry Interface.tracked
  have hgone := Entry.failures_detachAll board.observers path entry Interface.tracked
  unfold removeModem
  rw [hentry]
  simp only [hqueue, Outcome.failures_append, hgone, List.nil_append]
  refine ⟨waitingIn_of_get? hentry, trivial, ?_⟩
  cases hfailed : (abandon board.calls entry.requests.queue).2 with
  | nil => rfl
  | cons request rest => simp [Outcome.failures, Effect.failures]

end Switchboard

end Telephony
