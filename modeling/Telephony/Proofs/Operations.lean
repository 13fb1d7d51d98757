import Telephony.Proofs.Loading
import Telephony.Service.Requests

/-!
# Operations of a switchboard

All that can be done to a switchboard, in one type, so that a run is a list of operations. A service
changes its board in no other way: whatever happens to a service, its board has gone through a run,
and what every operation keeps holds of the board of every service.
-/

namespace Telephony

namespace Switchboard

inductive Operation where
  | apply (event : Event)
  | loaded (path : ModemPath) (interface : Interface) (result : Except Failure (List Change))
  | flush
  | clear
  | submit (path : ModemPath) (code : String) (ticket : Ticket)
  | nextQueued (path : ModemPath) (epoch : UInt64)
  | beginCall (path : ModemPath)
  | arm (id : CallId)
  | finishCall (id : CallId)
  | cancel (id : CallId)
  | subscribe (topic : Topic) (listener : Listener)
  | unsubscribe (subscription : Subscription)
  | beginSession
  | endSession

/-- The board after an operation. One that is refused changes nothing. -/
def perform (board : Switchboard) : Operation → Switchboard
  | .apply event => (board.apply event).1
  | .loaded path interface result => (board.loaded path interface result).1
  | .flush => board.flush.1
  | .clear => board.clear.1
  | .submit path code ticket =>
    match board.submit path code ticket with
    | .ok (_, after) => after
    | .error _ => board
  | .nextQueued path epoch => (board.nextQueued path epoch).2
  | .beginCall path => (board.beginCall path).2.2
  | .arm id => (board.arm id).2
  | .finishCall id => board.finishCall id
  | .cancel id => (board.cancel id).2
  | .subscribe topic listener => (board.subscribe topic listener).2
  | .unsubscribe subscription => (board.unsubscribe subscription).2
  | .beginSession =>
    match board.beginSession with
    | .ok after => after
    | .error _ => board
  | .endSession => board.endSession

/-- What the operation has delivered. -/
def delivers (board : Switchboard) : Operation → List Delivery
  | .apply event => (board.apply event).2.deliveries
  | .loaded path interface result => (board.loaded path interface result).2.deliveries
  | .flush => board.flush.2
  | .clear => board.clear.2.deliveries
  | _ => []

def run (board : Switchboard) (operations : List Operation) : Switchboard :=
  operations.foldl perform board

theorem run_append (board : Switchboard) (first rest : List Operation) :
    board.run (first ++ rest) = (board.run first).run rest :=
  List.foldl_append

/-- What every operation keeps is kept in a run. -/
theorem run_keeps (Kept : Switchboard → Prop)
    (hstep : ∀ board operation, Kept board → Kept (board.perform operation))
    {board : Switchboard} (hkept : Kept board) (operations : List Operation) :
    Kept (board.run operations) := by
  induction operations generalizing board with
  | nil => exact hkept
  | cons operation rest ih => exact ih (hstep board operation hkept)

/-- What removing one modem keeps is kept when all are removed. -/
theorem clear_keeps (Kept : Switchboard × Outcome → Prop)
    (hstep : ∀ board outcome path, Kept (board, outcome) →
      Kept ((board.removeModem path).1, outcome ++ (board.removeModem path).2))
    {board : Switchboard} (hkept : Kept (board, ∅)) : Kept board.clear := by
  unfold clear
  generalize (∅ : Outcome) = outcome at hkept ⊢
  generalize board.paths = paths
  induction paths generalizing board outcome with
  | nil => exact hkept
  | cons path rest ih => exact ih _ (hstep board outcome path hkept)

/-! ### Requests, case by case -/

/-- The drain of the requests that is under way. -/
def drain? (board : Switchboard) (path : ModemPath) : Option UInt64 :=
  (board.entry? path).bind fun entry =>
    match entry.requests with
    | .draining _ epoch => some epoch
    | _ => none

section Requests

variable {board : Switchboard} {path : ModemPath} {entry : Entry}

theorem submit_of_unknown (hentry : board.entry? path = none) (code : String) (ticket : Ticket) :
    board.submit path code ticket = .error (.modemNotFound path) := by
  unfold submit
  rw [hentry]

theorem submit_of_direct (hentry : board.entry? path = some entry)
    (hdirect : entry.requests = .direct) (code : String) (ticket : Ticket) :
    board.submit path code ticket =
      .ok (.dispatch board.calls.next board.fresh, (board.beginCall path).2.2) := by
  unfold submit
  simp only [hentry, hdirect]
  rfl

theorem submit_of_waiting (hentry : board.entry? path = some entry)
    (hwaits : entry.requests ≠ .direct) (code : String) (ticket : Ticket) :
    board.submit path code ticket = .ok (.queued board.calls.next, { board with
      calls := board.calls.reserve.2.add board.calls.next path none
      modems := board.modems.insert path { entry with
        requests := enqueue ⟨board.calls.next, code, ticket⟩ entry.requests } }) := by
  unfold submit
  simp only [hentry]
  cases hrequests : entry.requests with
  | direct => exact absurd hrequests hwaits
  | pending queue => rfl
  | draining queue epoch => rfl

theorem nextQueued_of_drain?_ne {epoch : UInt64} (hother : board.drain? path ≠ some epoch) :
    board.nextQueued path epoch = (none, board) := by
  unfold drain? at hother
  unfold nextQueued
  cases hentry : board.entry? path with
  | none => rfl
  | some entry =>
    rw [hentry, Option.bind_some] at hother
    cases hrequests : entry.requests with
    | pending queue => simp only [hrequests]
    | direct => simp only [hrequests]
    | draining queue current =>
      rw [hrequests] at hother
      have hne : current ≠ epoch := fun heq => hother (congrArg some heq)
      simp only [hrequests, if_neg hne]

theorem nextQueued_of_drained {epoch : UInt64} (hentry : board.entry? path = some entry)
    (hdrained : entry.requests = .draining [] epoch) :
    board.nextQueued path epoch = (none, { board with
      modems := board.modems.insert path { entry with requests := .direct } }) := by
  unfold nextQueued
  simp only [hentry, hdrained, if_pos, List.head?_nil]

theorem nextQueued_of_draining {epoch : UInt64} {request : QueuedRequest}
    {rest : List QueuedRequest} (hentry : board.entry? path = some entry)
    (hdraining : entry.requests = .draining (request :: rest) epoch) :
    board.nextQueued path epoch = (some request, { board with
      modems := board.modems.insert path { entry with requests := .draining rest epoch } }) := by
  unfold nextQueued
  simp only [hentry, hdraining, if_pos, List.head?_cons]

theorem drain?_eq_some {epoch : UInt64} (hdrain : board.drain? path = some epoch) :
    ∃ entry queue, board.entry? path = some entry ∧ entry.requests = .draining queue epoch := by
  obtain ⟨entry, hentry, hdraining⟩ := Option.bind_eq_some_iff.1 hdrain
  cases hrequests : entry.requests with
  | draining queue current =>
    rw [hrequests] at hdraining
    obtain rfl := Option.some.inj hdraining
    exact ⟨entry, queue, hentry, hrequests⟩
  | pending queue => simp [hrequests] at hdraining
  | direct => simp [hrequests] at hdraining

theorem nextQueued_eq (board : Switchboard) (path : ModemPath) (epoch : UInt64) :
    ∃ modems, (board.nextQueued path epoch).2 = { board with modems } := by
  by_cases hdrain : board.drain? path = some epoch
  · obtain ⟨entry, queue, hentry, hdraining⟩ := drain?_eq_some hdrain
    cases queue with
    | nil => exact ⟨_, congrArg Prod.snd (nextQueued_of_drained hentry hdraining)⟩
    | cons request rest => exact ⟨_, congrArg Prod.snd (nextQueued_of_draining hentry hdraining)⟩
  · exact ⟨board.modems, congrArg Prod.snd (nextQueued_of_drain?_ne hdrain)⟩

end Requests

end Switchboard

/-! ### Services -/

namespace Service

variable {δ : Type} {before middle after : Service δ}

/-- The board of the later service has come from that of the earlier one by operations. -/
def Leads (before after : Service δ) : Prop :=
  ∃ operations, after.board = before.board.run operations

theorem Leads.of_board (hboard : after.board = before.board) : before.Leads after := ⟨[], hboard⟩

theorem Leads.of_perform (operation : Switchboard.Operation)
    (hboard : after.board = before.board.perform operation) : before.Leads after :=
  ⟨[operation], hboard⟩

theorem Leads.trans (hfirst : before.Leads middle) (hsecond : middle.Leads after) :
    before.Leads after := by
  obtain ⟨first, hmiddle⟩ := hfirst
  obtain ⟨rest, hafter⟩ := hsecond
  refine ⟨first ++ rest, ?_⟩
  rw [Switchboard.run_append, ← hmiddle, hafter]

theorem board_deliverAll (service : Service δ) (deliveries : List Delivery) :
    (service.deliverAll deliveries).board = service.board := by
  obtain ⟨heard, hdelivered⟩ := deliverAll_eq service deliveries
  rw [hdelivered]

theorem leads_flush (service : Service δ) : service.Leads service.flush :=
  .of_perform .flush (board_deliverAll _ _)

theorem leads_submit (service : Service δ) (path : ModemPath) (code : String) (ticket : Ticket) :
    service.Leads (service.submit path code ticket).2 := by
  refine .of_perform (.submit path code ticket) ?_
  simp only [submit, Switchboard.perform]
  split
  · next hrefused => simp only [hrefused]
  · next hqueued => simp only [hqueued]
  · next hsent =>
    simp only [hsent]
    rfl

theorem leads_listOperators (service : Service δ) (path : ModemPath) (scan : Bool)
    (ticket : Ticket) : service.Leads (service.listOperators path scan ticket).2 := by
  unfold listOperators
  split
  · exact .of_board rfl
  · exact .of_perform (.beginCall path) rfl

theorem leads_cancel (service : Service δ) (id : CallId) :
    service.Leads (service.cancel id).2 :=
  .of_perform (.cancel id) rfl

variable [Daemon δ]

theorem leads_carryOut (service : Service δ) (effect : Effect) :
    service.Leads (service.carryOut effect).1 := by
  cases effect with
  | watch path interface =>
    refine .of_perform (.loaded path interface (service.fetch path interface).1) ?_
    exact board_deliverAll _ _
  | unwatch path interface => exact .of_board rfl
  | replay path epoch => exact .of_board rfl
  | fail path requests =>
    obtain ⟨answered, hfail⟩ := service.fail_eq path requests
    exact .of_board (by rw [hfail])

theorem leads_execute (service : Service δ) (outcome : Outcome) :
    service.Leads (service.execute outcome) :=
  settleEffects_keeps service.Leads
    (fun middle effect hleads => hleads.trans (middle.leads_carryOut effect))
    (.of_board (board_deliverAll _ _)) 3 _

theorem leads_process (service : Service δ) (event : Event) :
    service.Leads (service.process event) := by
  have happlied : service.Leads { service with board := (service.board.apply event).1 } :=
    .of_perform (.apply event) rfl
  exact happlied.trans (leads_execute _ _)

theorem leads_advance (service : Service δ) (flight : Flight) :
    service.Leads (service.advance flight).2 := by
  unfold advance
  split
  · exact .of_perform (.finishCall flight.id) rfl
  · have hasked : (service.askAnswer flight).2.board = service.board := by
      unfold askAnswer
      split
      split <;> rfl
    split
    · next answer asked hanswer =>
      rw [hanswer] at hasked
      refine .of_perform (.finishCall flight.id) ?_
      exact congrArg (Switchboard.finishCall · flight.id) hasked
    · next asked hanswer =>
      rw [hanswer] at hasked
      exact .of_board hasked

theorem leads_turn (service : Service δ) (job : Job) : service.Leads (service.turn job).2 := by
  cases job with
  | call flight => exact leads_advance service flight
  | drain path epoch stage =>
    cases stage with
    | seeking => exact .of_perform (.nextQueued path epoch) rfl
    | taken request => exact .of_perform (.arm request.id) rfl
    | sending flight => exact leads_advance service flight

end Service

end Telephony
