import Telephony.Proofs.Requests.Queues

/-!
# The ledger of a service

Where every request of a service is, and which calls are outstanding. One lemma for each operation
says what it does to the ledger: effects only give the answers that they ask for, and a turn of a
job moves one request by one place.
-/

namespace Telephony

variable {δ : Type}

structure Ledger where
  waiting : Multiset (ModemPath × QueuedRequest)
  taken : Multiset QueuedRequest
  flights : Multiset Flight
  answered : Multiset (Ticket × Answer)
  calls : CallTable ModemPath

/-- Notes answers that have been given. -/
def Ledger.answer (ledger : Ledger) (answers : List (Ticket × Answer)) : Ledger :=
  { ledger with answered := ledger.answered + (answers : Multiset (Ticket × Answer)) }

@[simp] theorem Ledger.answer_nil (ledger : Ledger) : ledger.answer [] = ledger := by
  simp [answer]

theorem Ledger.answer_append (ledger : Ledger) (first rest : List (Ticket × Answer)) :
    (ledger.answer first).answer rest = ledger.answer (first ++ rest) := by
  simp [answer, ← Multiset.coe_add, add_assoc]

namespace Service

def ledger (service : Service δ) : Ledger :=
  ⟨service.board.waiting, service.taken, service.flights, service.answered, service.board.calls⟩

/-! ### Effects -/

theorem ledger_deliver (service : Service δ) (delivery : Delivery) :
    (service.deliver delivery).ledger = service.ledger := rfl

theorem ledger_deliverAll (service : Service δ) (deliveries : List Delivery) :
    (service.deliverAll deliveries).ledger = service.ledger := by
  unfold deliverAll
  induction deliveries generalizing service with
  | nil => rfl
  | cons delivery rest ih =>
    rw [List.foldl_cons, ih, ledger_deliver]

theorem ledger_answer (service : Service δ) (ticket : Ticket) (answer : Answer) :
    (service.answer ticket answer).ledger = service.ledger.answer [(ticket, answer)] := by
  simp [ledger, Ledger.answer, Service.answer, taken, flights, ← Multiset.coe_add]

/-- A new board that keeps all that waits and all that is outstanding keeps the ledger. -/
theorem ledger_of_calm {service : Service δ} {result : Switchboard × Outcome}
    (hcalm : service.board.Calm result) (daemon : δ) :
    ({ service with daemon, board := result.1 } : Service δ).ledger = service.ledger := by
  unfold ledger
  rw [hcalm.waiting, hcalm.calls]
  rfl

theorem ledger_fail (service : Service δ) (path : ModemPath) (requests : List QueuedRequest) :
    (requests.foldl (fun service request =>
        service.answer request.ticket (.reply (.error (.modemNotFound path)))) service).ledger =
      service.ledger.answer (Effect.fail path requests).failures := by
  induction requests generalizing service with
  | nil => exact (Ledger.answer_nil _).symm
  | cons request rest ih =>
    rw [List.foldl_cons, ih, ledger_answer, Ledger.answer_append]
    rfl

/-- A drain that begins has no request yet. -/
theorem ledger_addJob_seeking (service : Service δ) (path : ModemPath) (epoch : UInt64) :
    (service.addJob (.drain path epoch .seeking)).ledger = service.ledger := by
  have htaken : [Job.drain path epoch .seeking].filterMap Job.taken? = [] := rfl
  have hflights : [Job.drain path epoch .seeking].filterMap Job.flight? = [] := rfl
  simp only [ledger, addJob, taken, flights, List.filterMap_append, htaken, hflights,
    List.append_nil]

variable [Daemon δ]

theorem load_spec (service : Service δ) (path : ModemPath) (interface : Interface) :
    (service.load path interface).1.ledger = service.ledger ∧
      (service.load path interface).2.flatMap Effect.failures = [] := by
  have hcalm := service.board.calm_loaded path interface (service.fetch path interface).1
  rw [load_eq]
  refine ⟨?_, hcalm.failures⟩
  rw [ledger_deliverAll]
  exact ledger_of_calm hcalm _

/-- Carrying out an effect gives the answers that it asks for, and asks for no more answers. -/
theorem carryOut_spec (service : Service δ) (effect : Effect) :
    (service.carryOut effect).1.ledger = service.ledger.answer effect.failures ∧
      (service.carryOut effect).2.flatMap Effect.failures = [] := by
  cases effect with
  | watch path interface =>
    obtain ⟨hledger, hmore⟩ := service.load_spec path interface
    exact ⟨hledger.trans (Ledger.answer_nil _).symm, hmore⟩
  | unwatch path interface => exact ⟨(Ledger.answer_nil _).symm, rfl⟩
  | replay path epoch =>
    exact ⟨(service.ledger_addJob_seeking path epoch).trans (Ledger.answer_nil _).symm, rfl⟩
  | fail path requests => exact ⟨service.ledger_fail path requests, rfl⟩

theorem carryOutAll_spec (service : Service δ) (effects : List Effect) :
    (service.carryOutAll effects).1.ledger =
        service.ledger.answer (effects.flatMap Effect.failures) ∧
      (service.carryOutAll effects).2.flatMap Effect.failures = [] := by
  induction effects generalizing service with
  | nil => exact ⟨(Ledger.answer_nil _).symm, rfl⟩
  | cons effect rest ih =>
    obtain ⟨hledger, hmore⟩ := service.carryOut_spec effect
    obtain ⟨hledgers, hothers⟩ := ih (service.carryOut effect).1
    refine ⟨?_, ?_⟩
    · rw [List.flatMap_cons, ← Ledger.answer_append, ← hledger]
      exact hledgers
    · rw [carryOutAll, List.flatMap_append, hmore, hothers, List.append_nil]

theorem ledger_settleEffects (depth : Nat) (service : Service δ) (effects : List Effect) :
    (settleEffects (depth + 1) service effects).ledger =
      service.ledger.answer (effects.flatMap Effect.failures) := by
  induction depth generalizing service effects with
  | zero => exact (service.carryOutAll_spec effects).1
  | succ depth ih =>
    obtain ⟨hledger, hmore⟩ := service.carryOutAll_spec effects
    rw [settleEffects, ih, hmore, Ledger.answer_nil, hledger]

theorem ledger_execute (service : Service δ) (outcome : Outcome) :
    (service.execute outcome).ledger = service.ledger.answer outcome.failures := by
  rw [execute, ledger_settleEffects, ledger_deliverAll]
  rfl

theorem ledger_process (service : Service δ) (event : Event)
    (hevent : ∀ path, event ≠ .modemRemoved path) :
    (service.process event).ledger = service.ledger := by
  have hcalm := service.board.calm_apply event hevent
  rw [process, ledger_execute, hcalm.failures, Ledger.answer_nil]
  exact ledger_of_calm hcalm service.daemon

theorem ledger_process_unknown {service : Service δ} {path : ModemPath}
    (hentry : service.board.entry? path = none) :
    (service.process (.modemRemoved path)).ledger = service.ledger := by
  rw [process, ledger_execute, Switchboard.apply, Switchboard.removeModem_of_unknown hentry]
  exact Ledger.answer_nil _

/-- The removal of a modem ends the waiting of its queue, and answers each request in it that is
still outstanding. -/
theorem ledger_process_removed {service : Service δ} {path : ModemPath} {entry : Entry}
    (hentry : service.board.entry? path = some entry) :
    ∃ rest, service.board.waiting = (entry.requests.queue.map (path, ·) : List _) + rest ∧
      (service.process (.modemRemoved path)).ledger =
        ({ service.ledger with
          waiting := rest
          calls := (Switchboard.abandon service.board.calls entry.requests.queue).1 } :
            Ledger).answer
          (Effect.fail path
            (Switchboard.abandon service.board.calls entry.requests.queue).2).failures := by
  obtain ⟨hwaiting, hcalls, hfailures⟩ := Switchboard.removeModem_of_known hentry
  refine ⟨_, hwaiting, ?_⟩
  rw [process, ledger_execute, Switchboard.apply, hfailures, ← hcalls]
  rfl

omit [Daemon δ] in
theorem ledger_flush (service : Service δ) : service.flush.ledger = service.ledger := by
  have hflush : service.flush.ledger =
      (({ service with board := service.board.flush.1 } : Service δ).deliverAll
        service.board.flush.2).ledger := rfl
  have hledger : ({ service with board := service.board.flush.1 } : Service δ).ledger =
      ⟨service.board.flush.1.waiting, service.taken, service.flights, service.answered,
        service.board.calls⟩ := rfl
  rw [hflush, ledger_deliverAll, hledger, Switchboard.waiting_flush]
  rfl

end Service

end Telephony
