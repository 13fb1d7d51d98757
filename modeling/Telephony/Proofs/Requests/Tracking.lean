import Telephony.Proofs.Requests.Conservation
import Telephony.Proofs.Requests.Order

/-!
# Calls and the requests they stand for

Tokens are given out once, so that no call has the token that is given out next. As long as no call
of an id has been destroyed, and the ids do not run out, that id stands for one request at most: the
one in the queue of the modem that its call is for, or the one under way.
-/

namespace Telephony

variable {δ : Type}

/-! ### Tokens -/

namespace Switchboard

theorem get?_abandon (calls : CallTable ModemPath) (queue : List QueuedRequest) (id : CallId) :
    CallTable.get? (abandon calls queue).1 id =
      if id ∈ queue.map (·.id) then none else calls.get? id := by
  induction queue generalizing calls with
  | nil => rfl
  | cons request rest ih =>
    rw [abandon_cons, ih, CallTable.get?_take, List.map_cons]
    by_cases hhead : request.id = id
    · simp [hhead]
    · simp [hhead, Ne.symm hhead]

/-- A removal strikes out the calls of the queue, and beside the entries changes nothing else. -/
theorem removeModem_eq (board : Switchboard) (path : ModemPath) :
    ∃ modems, (board.removeModem path).1 =
      { board with modems, calls := (abandon board.calls (board.queue path)).1 } := by
  cases hentry : board.entry? path with
  | none =>
    rw [removeModem_of_unknown hentry, queue_of_unknown hentry]
    exact ⟨board.modems, rfl⟩
  | some entry =>
    rw [queue_of_entry hentry, ← Entry.queue_detachAll board.observers path entry]
    unfold removeModem
    rw [hentry]
    exact ⟨_, rfl⟩

/-- Every token that a call has was given out before. -/
def TokensGiven (board : Switchboard) : Prop :=
  ∀ id call token, board.calls.get? id = some call → call.token = some token →
    token.number < board.tokens

variable {board after : Switchboard}

/-- Calls may go, or come, without a token or with the one that is next. -/
theorem TokensGiven.mono (hgiven : board.TokensGiven)
    (hcalls : ∀ id call token, after.calls.get? id = some call → call.token = some token →
      board.calls.get? id = some call ∨ token = board.fresh ∧ board.tokens < after.tokens)
    (htokens : board.tokens ≤ after.tokens) : after.TokensGiven := by
  intro id call token hcall htoken
  rcases hcalls id call token hcall htoken with hold | ⟨rfl, hlt⟩
  · exact (hgiven id call token hold htoken).trans_le htokens
  · exact hlt

theorem TokensGiven.of_same (hgiven : board.TokensGiven) (hcalls : after.calls = board.calls)
    (htokens : after.tokens = board.tokens) : after.TokensGiven :=
  hgiven.mono (fun _ _ _ hcall _ => .inl (hcalls ▸ hcall)) htokens.ge

theorem TokensGiven.of_gone (hgiven : board.TokensGiven)
    (hcalls : ∀ id call, after.calls.get? id = some call → board.calls.get? id = some call)
    (htokens : after.tokens = board.tokens) : after.TokensGiven :=
  hgiven.mono (fun id call _ hcall _ => .inl (hcalls id call hcall)) htokens.ge

theorem TokensGiven.removeModem (hgiven : board.TokensGiven) (path : ModemPath) :
    (board.removeModem path).1.TokensGiven := by
  obtain ⟨modems, hremoved⟩ := board.removeModem_eq path
  rw [hremoved]
  refine hgiven.of_gone (fun id call hcall => ?_) rfl
  rw [get?_abandon] at hcall
  split at hcall
  · cases hcall
  · exact hcall

theorem TokensGiven.beginCall (hgiven : board.TokensGiven) (path : ModemPath) :
    (board.beginCall path).2.2.TokensGiven := by
  refine hgiven.mono (fun id call token hcall htoken => ?_) (Nat.le_succ _)
  have hadded := (CallTable.get?_add board.calls.reserve.2 _ id path _).symm.trans hcall
  split at hadded
  · cases hadded
    exact .inr ⟨(Option.some.inj htoken).symm, Nat.lt_succ_self _⟩
  · exact .inl hadded

theorem TokensGiven.arm (hgiven : board.TokensGiven) (id : CallId) :
    (board.arm id).2.TokensGiven := by
  unfold Switchboard.arm
  simp only
  split
  · refine hgiven.mono (fun other call token hcall htoken => ?_) (Nat.le_succ _)
    have harmed := (CallTable.get?_arm board.calls id other board.fresh).symm.trans hcall
    split at harmed
    · obtain ⟨waiting, -, rfl⟩ := Option.map_eq_some_iff.1 harmed
      exact .inr ⟨(Option.some.inj htoken).symm, Nat.lt_succ_self _⟩
    · exact .inl harmed
  · exact hgiven

theorem TokensGiven.take (hgiven : board.TokensGiven) (id : CallId)
    (hcalls : after.calls = (board.calls.take id).2) (htokens : after.tokens = board.tokens) :
    after.TokensGiven := by
  refine hgiven.of_gone (fun other call hcall => ?_) htokens
  rw [hcalls, CallTable.get?_take] at hcall
  split at hcall
  · cases hcall
  · exact hcall

theorem TokensGiven.cancel (hgiven : board.TokensGiven) (id : CallId) :
    (board.cancel id).2.TokensGiven := by
  rcases board.calls.cancel_cases id with ⟨-, -, htaken⟩ | ⟨-, hsame⟩
  · exact hgiven.take id htaken rfl
  · exact hgiven.of_same hsame rfl

theorem TokensGiven.submit (hgiven : board.TokensGiven) (path : ModemPath) (code : String)
    (ticket : Ticket) : (board.perform (.submit path code ticket)).TokensGiven := by
  cases hentry : board.entry? path with
  | none => simpa only [perform, submit_of_unknown hentry] using hgiven
  | some entry =>
    by_cases hdirect : entry.requests = .direct
    · simpa only [perform, submit_of_direct hentry hdirect] using hgiven.beginCall path
    · simp only [perform, submit_of_waiting hentry hdirect]
      refine hgiven.mono (fun id call token hcall htoken => ?_) le_rfl
      have hadded := (CallTable.get?_add board.calls.reserve.2 _ id path none).symm.trans hcall
      split at hadded
      · cases hadded
        cases htoken
      · exact .inl hadded

theorem TokensGiven.perform (hgiven : board.TokensGiven) (operation : Operation) :
    (board.perform operation).TokensGiven := by
  cases operation with
  | apply event =>
    cases event with
    | modemAdded path properties => exact hgiven
    | modemRemoved path => exact hgiven.removeModem path
    | propertyChanged path change =>
      obtain ⟨modems, hchanged⟩ := board.onEntry_eq path fun entry =>
        entry.change board.observers path change
      simp only [Switchboard.perform, apply, hchanged]
      exact hgiven
  | loaded path interface result =>
    obtain ⟨modems, drains, hloaded⟩ := board.board_loaded path interface result
    simp only [Switchboard.perform, hloaded]
    exact hgiven
  | clear =>
    exact clear_keeps (fun result => result.1.TokensGiven)
      (fun before _ path hkept => hkept.removeModem path) hgiven
  | submit path code ticket => exact hgiven.submit path code ticket
  | nextQueued path epoch =>
    obtain ⟨modems, hnext⟩ := board.nextQueued_eq path epoch
    simp only [Switchboard.perform, hnext]
    exact hgiven
  | beginCall path => exact hgiven.beginCall path
  | arm id => exact hgiven.arm id
  | finishCall id => exact hgiven.take id rfl rfl
  | cancel id => exact hgiven.cancel id
  | beginSession =>
    simp only [Switchboard.perform, beginSession]
    cases board.sessionActive <;> exact hgiven
  | flush | subscribe _ _ | unsubscribe _ | endSession => exact hgiven

end Switchboard

namespace Desk

variable [Daemon δ]

theorem leads_turnAt (service : Service δ) (index : Nat) :
    service.Leads (service.turnAt index) := by
  unfold Service.turnAt
  cases hjob : service.jobs[index]? with
  | none => exact .of_board rfl
  | some job =>
    have hturn := Service.leads_turn
      ({ service with jobs := service.jobs.eraseIdx index } : Service δ) job
    simp only
    cases (({ service with jobs := service.jobs.eraseIdx index } : Service δ).turn job).1 with
    | none => exact hturn
    | some rest => exact hturn.trans (.of_board rfl)

theorem leads_step (desk : Desk δ) (move : Move δ) :
    desk.service.Leads (desk.step move).service := by
  cases move with
  | submit path code =>
    have hleads := desk.service.leads_submit path code desk.ticket
    rw [step]
    cases hsubmit : desk.service.submit path code desk.ticket with
    | mk result service =>
      rw [hsubmit] at hleads
      cases result <;> exact hleads
  | listOperators path scan =>
    have hleads := desk.service.leads_listOperators path scan desk.ticket
    rw [step]
    cases hlist : desk.service.listOperators path scan desk.ticket with
    | mk result service =>
      rw [hlist] at hleads
      cases result <;> exact hleads
  | cancel id => exact desk.service.leads_cancel id
  | process event => exact desk.service.leads_process event
  | load path interface => exact desk.service.leads_execute _
  | replay path epoch => exact desk.service.leads_execute _
  | turn index => exact leads_turnAt desk.service index
  | flush => exact desk.service.leads_flush
  | daemon next => exact .of_board rfl

/-- The board of a desk has gone through a run of operations, from the empty board on. -/
theorem board_run (daemon : δ) (moves : List (Move δ)) :
    ∃ operations, ((opened daemon).run moves).board = (∅ : Switchboard).run operations := by
  have hleads : ∀ desk : Desk δ, desk.service.Leads (desk.run moves).service := by
    induction moves with
    | nil => exact fun desk => .of_board rfl
    | cons move rest ih => exact fun desk => (desk.leads_step move).trans (ih _)
  exact hleads (opened daemon)

theorem tokensGiven_run (daemon : δ) (moves : List (Move δ)) :
    ((opened daemon).run moves).board.TokensGiven := by
  obtain ⟨operations, hboard⟩ := board_run daemon moves
  rw [hboard]
  refine Switchboard.run_keeps Switchboard.TokensGiven
    (fun board operation hgiven => hgiven.perform operation) ?_ operations
  intro id call token hcall
  cases hcall

end Desk

/-! ### Ids -/

/-- The id stands for one request if a call of it is outstanding, and for none if not; and a request
of it that waits does so at the modem that the call is for. -/
structure Ledger.Tracks (ledger : Ledger) (id : CallId) : Prop where
  once : ledger.ids.count id = if (ledger.calls.get? id).isSome then 1 else 0
  origin : ∀ path request call, (path, request) ∈ ledger.waiting → request.id = id →
    ledger.calls.get? id = some call → call.origin = path

namespace Ledger

variable {ledger after : Ledger} {id : CallId}

theorem count_ids (ledger : Ledger) (id : CallId) :
    ledger.ids.count id = (ledger.waiting.map (·.2.id)).count id +
      ((ledger.taken.map (·.id)).count id + (ledger.flights.map (·.id)).count id) := by
  rw [ids, Multiset.count_add, Multiset.count_add]

theorem mem_ids_of_waiting {path : ModemPath} {request : QueuedRequest}
    (hmem : (path, request) ∈ ledger.waiting) : request.id ∈ ledger.ids :=
  Multiset.mem_add.2 (.inl (Multiset.mem_map.2 ⟨_, hmem, rfl⟩))

theorem Tracks.not_mem (htracks : ledger.Tracks id) (hfree : ledger.calls.get? id = none) :
    id ∉ ledger.ids := by
  have honce := htracks.once
  rw [hfree] at honce
  exact Multiset.count_eq_zero.1 honce

theorem Tracks.count_le_one (htracks : ledger.Tracks id) : ledger.ids.count id ≤ 1 := by
  rw [htracks.once]
  split <;> omega

theorem Tracks.out_of_mem (htracks : ledger.Tracks id) (hmem : id ∈ ledger.ids) :
    id ∈ ledger.calls.ids := by
  by_contra hfree
  exact htracks.not_mem (CallTable.get?_eq_none_iff.2 hfree) hmem

theorem Tracks.of_same (htracks : ledger.Tracks id)
    (hcount : after.ids.count id = ledger.ids.count id)
    (horigin : (after.calls.get? id).map (·.origin) = (ledger.calls.get? id).map (·.origin))
    (hwaiting : ∀ path request, (path, request) ∈ after.waiting → request.id = id →
      (path, request) ∈ ledger.waiting) : after.Tracks id where
  once := by
    have hsome := congrArg Option.isSome horigin
    rw [Option.isSome_map, Option.isSome_map] at hsome
    rw [hcount, htracks.once, hsome]
  origin path request call hmem hid hcall := by
    rw [hcall, Option.map_some] at horigin
    obtain ⟨before, hbefore, heq⟩ := Option.map_eq_some_iff.1 horigin.symm
    exact heq.symm.trans (htracks.origin path request before (hwaiting _ _ hmem hid) hid hbefore)

theorem Tracks.of_gone (hcount : after.ids.count id = 0) (hgone : after.calls.get? id = none) :
    after.Tracks id where
  once := by rw [hcount, hgone]; rfl
  origin path request call hmem hid hcall := by
    rw [hgone] at hcall
    cases hcall

/-- A request that comes in gets an id that nobody has. -/
theorem Tracks.queue (htracks : ledger.Tracks id)
    (hfresh : ledger.calls.get? ledger.calls.next = none) (path : ModemPath) (code : String)
    (ticket : Ticket) :
    ({ ledger with
      waiting := (path, ⟨ledger.calls.next, code, ticket⟩) ::ₘ ledger.waiting
      calls := ledger.calls.reserve.2.add ledger.calls.next path none } : Ledger).Tracks id := by
  have hadded := CallTable.get?_add ledger.calls.reserve.2 ledger.calls.next id path none
  by_cases hid : ledger.calls.next = id
  · subst hid
    have hnobody := htracks.not_mem hfresh
    rw [if_pos rfl] at hadded
    constructor
    · rw [hadded]
      have hnone := Multiset.count_eq_zero.2 hnobody
      simp only [count_ids, Multiset.map_cons, Multiset.count_cons_self] at hnone ⊢
      rw [if_pos (Option.isSome_some)]
      omega
    · intro other request call hmem hnext hcall
      rw [hadded] at hcall
      cases hcall
      rcases Multiset.mem_cons.1 hmem with heq | hold
      · cases heq
        rfl
      · exact absurd (hnext ▸ mem_ids_of_waiting hold) hnobody
  · rw [if_neg hid] at hadded
    refine htracks.of_same ?_ (congrArg _ hadded) fun other request hmem hsame => ?_
    · simp only [count_ids, Multiset.map_cons, Multiset.count_cons_of_ne (Ne.symm hid)]
    · rcases Multiset.mem_cons.1 hmem with heq | hold
      · cases heq
        exact absurd hsame hid
      · exact hold

theorem Tracks.dispatch (htracks : ledger.Tracks id)
    (hfresh : ledger.calls.get? ledger.calls.next = none) {flight : Flight}
    (hflight : flight.id = ledger.calls.next) (path : ModemPath) (token : Token) :
    ({ ledger with
      flights := flight ::ₘ ledger.flights
      calls := ledger.calls.reserve.2.add ledger.calls.next path (some token) } :
        Ledger).Tracks id := by
  have hadded := CallTable.get?_add ledger.calls.reserve.2 ledger.calls.next id path (some token)
  by_cases hid : ledger.calls.next = id
  · subst hid
    have hnobody := htracks.not_mem hfresh
    rw [if_pos rfl] at hadded
    constructor
    · rw [hadded]
      have hnone := Multiset.count_eq_zero.2 hnobody
      simp only [count_ids, Multiset.map_cons, hflight, Multiset.count_cons_self] at hnone ⊢
      rw [if_pos (Option.isSome_some)]
      omega
    · intro other request call hmem hnext hcall
      exact absurd (hnext ▸ mem_ids_of_waiting hmem) hnobody
  · rw [if_neg hid] at hadded
    refine htracks.of_same ?_ (congrArg _ hadded) fun other request hmem hsame => hmem
    have hne : id ≠ flight.id := hflight ▸ Ne.symm hid
    simp only [count_ids, Multiset.map_cons, Multiset.count_cons_of_ne hne]

theorem Tracks.take (htracks : ledger.Tracks id) {path : ModemPath} {request : QueuedRequest}
    {rest : Multiset (ModemPath × QueuedRequest)}
    (hwaiting : ledger.waiting = (path, request) ::ₘ rest) :
    ({ ledger with waiting := rest, taken := request ::ₘ ledger.taken } : Ledger).Tracks id := by
  refine htracks.of_same ?_ rfl fun other waiter hmem _ => ?_
  · simp only [count_ids, hwaiting, Multiset.map_cons, Multiset.count_cons]
    omega
  · rw [hwaiting]
    exact Multiset.mem_cons_of_mem hmem

theorem Tracks.arm (htracks : ledger.Tracks id) {request : QueuedRequest}
    {rest : Multiset QueuedRequest} (htaken : ledger.taken = request ::ₘ rest) {flight : Flight}
    (hflight : flight.id = request.id) (token : Token) :
    ({ ledger with
      taken := rest
      flights := flight ::ₘ ledger.flights
      calls := (ledger.calls.arm request.id token).2 } : Ledger).Tracks id := by
  refine htracks.of_same ?_ ?_ fun other waiter hmem _ => hmem
  · simp only [count_ids, htaken, hflight, Multiset.map_cons, Multiset.count_cons]
    omega
  · rw [CallTable.get?_arm]
    split
    · rw [Option.map_map]
      rfl
    · rfl

/-- What a drain drops has no call, so that its id is not the one in question. -/
theorem Tracks.skip (htracks : ledger.Tracks id) {request : QueuedRequest}
    {rest : Multiset QueuedRequest} (htaken : ledger.taken = request ::ₘ rest)
    (hout : request.id ∉ ledger.calls.ids) :
    ({ ledger with taken := rest } : Ledger).Tracks id := by
  have hne : id ≠ request.id := by
    rintro rfl
    refine hout (htracks.out_of_mem ?_)
    simp [ids, htaken]
  refine htracks.of_same ?_ rfl fun other waiter hmem _ => hmem
  simp only [count_ids, htaken, Multiset.map_cons, Multiset.count_cons_of_ne hne]

theorem Tracks.begin (htracks : ledger.Tracks id) {flight : Flight} {rest : Multiset Flight}
    (hflights : ledger.flights = flight ::ₘ rest) :
    ({ ledger with flights := { flight with begun := true } ::ₘ rest } : Ledger).Tracks id := by
  refine htracks.of_same ?_ rfl fun other waiter hmem _ => hmem
  simp only [count_ids, hflights, Multiset.map_cons]

theorem Tracks.finish (htracks : ledger.Tracks id) {flight : Flight} {rest : Multiset Flight}
    (hflights : ledger.flights = flight ::ₘ rest) (answer : Answer) :
    (({ ledger with flights := rest, calls := (ledger.calls.take flight.id).2 } :
      Ledger).answer [(flight.ticket, answer)]).Tracks id := by
  have htaken := CallTable.get?_take ledger.calls flight.id id
  have hcount := ledger.count_ids id
  by_cases hid : flight.id = id
  · rw [if_pos hid] at htaken
    refine .of_gone ?_ htaken
    have hle := htracks.count_le_one
    rw [hflights, Multiset.map_cons, hid, Multiset.count_cons_self] at hcount
    change (Ledger.ids { ledger with flights := rest }).count id = 0
    simp only [count_ids]
    omega
  · rw [if_neg hid] at htaken
    refine htracks.of_same ?_ (congrArg _ htaken) fun other waiter hmem _ => hmem
    rw [hcount, hflights, Multiset.map_cons, Multiset.count_cons_of_ne (Ne.symm hid)]
    exact count_ids _ id

theorem Tracks.destroy (htracks : ledger.Tracks id) {gone : CallId} (hne : gone ≠ id) :
    ({ ledger with calls := (ledger.calls.take gone).2 } : Ledger).Tracks id := by
  refine htracks.of_same rfl ?_ fun other waiter hmem _ => hmem
  rw [CallTable.get?_take, if_neg hne]

theorem Tracks.remove (htracks : ledger.Tracks id) {path : ModemPath}
    {queue : List QueuedRequest} {rest : Multiset (ModemPath × QueuedRequest)}
    (hwaiting : ledger.waiting = (queue.map (path, ·) : List _) + rest)
    (answers : List (Ticket × Answer)) :
    (({ ledger with
      waiting := rest
      calls := (Switchboard.abandon ledger.calls queue).1 } : Ledger).answer answers).Tracks id := by
  have hgone := Switchboard.get?_abandon ledger.calls queue id
  have hcount := ledger.count_ids id
  rw [hwaiting, Multiset.map_add, Multiset.count_add, Multiset.map_coe, List.map_map,
    Multiset.coe_count] at hcount
  by_cases hid : id ∈ queue.map (·.id)
  · -- the one request of the id is in the queue that is dropped
    rw [if_pos hid] at hgone
    refine .of_gone ?_ hgone
    have hle := htracks.count_le_one
    have hthere : 0 < (queue.map (·.id)).count id := List.count_pos_iff.2 hid
    change (Ledger.ids { ledger with waiting := rest }).count id = 0
    simp only [count_ids]
    change _ = List.count id (queue.map (·.id)) + _ + _ at hcount
    omega
  · rw [if_neg hid] at hgone
    refine htracks.of_same ?_ (congrArg _ hgone) fun other waiter hmem _ => ?_
    · have hnone : (queue.map (·.id)).count id = 0 := List.count_eq_zero_of_not_mem hid
      change (Ledger.ids { ledger with waiting := rest }).count id = _
      change _ = List.count id (queue.map (·.id)) + _ + _ at hcount
      rw [count_ids, hcount, hnone, Nat.zero_add]
    · rw [hwaiting]
      exact Multiset.mem_add.2 (.inr hmem)

end Ledger

namespace Desk

/-! ### Runs -/

theorem tracks_opened (daemon : δ) (id : CallId) : (opened daemon).service.ledger.Tracks id :=
  .of_gone rfl rfl

variable [Daemon δ]

/-- A cancellation in the run destroys a call of the id. -/
def Destroyed (desk : Desk δ) (id : CallId) : List (Move δ) → Prop
  | [] => False
  | move :: rest =>
    (move = .cancel id ∧ (desk.service.cancel id).1 = .destroyed) ∨
      (desk.step move).Destroyed id rest

/-- The ids do not run out in the run. -/
def Roomy (desk : Desk δ) : List (Move δ) → Prop
  | [] => True
  | move :: rest => (desk.step move).issued < 2 ^ 32 - 1 ∧ (desk.step move).Roomy rest

theorem Step.tracks {desk : Desk δ} {move : Move δ} {books : Books} (hstep : desk.Step move books)
    (hcounted : desk.calls.Counted desk.issued) {id : CallId}
    (htracks : desk.service.ledger.Tracks id)
    (hkept : ¬ (move = .cancel id ∧ (desk.service.cancel id).1 = .destroyed)) :
    books.Tracks id := by
  have hfresh : desk.service.ledger.calls.get? desk.service.ledger.calls.next = none :=
    CallTable.get?_eq_none_iff.2 hcounted.next_not_mem
  cases hstep with
  | quiet => exact htracks
  | @queue path code => exact htracks.queue hfresh path code desk.ticket
  | @dispatch _ path errand token => exact htracks.dispatch hfresh rfl path token
  | take _ hwaiting => exact htracks.take hwaiting
  | @arm _ _ _ _ token _ _ _ htaken => exact htracks.arm htaken rfl token
  | skip _ hout htaken => exact htracks.skip htaken hout
  | begin _ hflights => exact htracks.begin hflights
  | @finish _ _ answer _ _ hflights => exact htracks.finish hflights answer
  | @destroy gone hdestroyed =>
    refine htracks.destroy fun hsame => hkept ?_
    subst hsame
    exact ⟨rfl, hdestroyed⟩
  | remove _ hwaiting => exact htracks.remove hwaiting _

/-- As long as no call of an id is destroyed, the id is tracked. -/
theorem tracks_run {desk : Desk δ} (hcounted : desk.calls.Counted desk.issued) {id : CallId}
    (htracks : desk.service.ledger.Tracks id) {moves : List (Move δ)} (hroom : desk.Roomy moves)
    (hkept : ¬ desk.Destroyed id moves) : (desk.run moves).service.ledger.Tracks id := by
  induction moves generalizing desk with
  | nil => exact htracks
  | cons move rest ih =>
    obtain ⟨hissued, hroom⟩ := hroom
    obtain ⟨hthis, hlater⟩ := not_or.1 hkept
    have hstep := desk.step_spec move
    exact ih (hstep.counted hcounted hissued) (hstep.tracks hcounted htracks hthis) hroom hlater

end Desk

end Telephony
