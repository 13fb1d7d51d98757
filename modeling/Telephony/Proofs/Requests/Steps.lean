import Telephony.Proofs.Requests.Ledger

/-!
# Steps of the request desk

What one move of a desk does to its books. `step_spec` is the only place where moves are taken
apart: whatever is said of runs follows from the cases of `Desk.Step`.
-/

namespace Telephony

variable {δ : Type}

/-! ### Jobs in the ledger -/

/-- The ledger with one more job under way. -/
def Ledger.withJob (ledger : Ledger) (job : Job) : Ledger :=
  { ledger with
    taken := (job.taken?.toList : Multiset QueuedRequest) + ledger.taken
    flights := (job.flight?.toList : Multiset Flight) + ledger.flights }

theorem Ledger.withJob_idle (ledger : Ledger) {job : Job} (htaken : job.taken? = none)
    (hflight : job.flight? = none) : ledger.withJob job = ledger := by
  simp [withJob, htaken, hflight]

theorem Ledger.withJob_taken (ledger : Ledger) (path : ModemPath) (epoch : UInt64)
    (request : QueuedRequest) :
    ledger.withJob (.drain path epoch (.taken request)) =
      { ledger with taken := request ::ₘ ledger.taken } := by
  simp [withJob, Job.taken?, Job.flight?]

theorem Ledger.withJob_flight (ledger : Ledger) {job : Job} {flight : Flight}
    (hflight : job.flight? = some flight) :
    ledger.withJob job = { ledger with flights := flight ::ₘ ledger.flights } := by
  have htaken : job.taken? = none := by
    cases job with
    | call flight => rfl
    | drain path epoch stage => cases stage <;> simp_all [Job.flight?, Job.taken?]
  simp [withJob, htaken, hflight]

namespace Service

/-- A service with a job among its jobs has that job beside the others in its ledger. -/
theorem ledger_of_perm (service : Service δ) {job : Job} {jobs : List Job}
    (hperm : service.jobs.Perm (job :: jobs)) :
    service.ledger = ({ service with jobs } : Service δ).ledger.withJob job := by
  have htaken : service.taken =
      (job.taken?.toList : Multiset QueuedRequest) + (jobs.filterMap Job.taken? : List _) := by
    refine Multiset.coe_eq_coe.2 ((hperm.filterMap Job.taken?).trans ?_)
    rw [List.filterMap_cons]
    cases job.taken? <;> rfl
  have hflights : service.flights =
      (job.flight?.toList : Multiset Flight) + (jobs.filterMap Job.flight? : List _) := by
    refine Multiset.coe_eq_coe.2 ((hperm.filterMap Job.flight?).trans ?_)
    rw [List.filterMap_cons]
    cases job.flight? <;> rfl
  unfold ledger
  rw [htaken, hflights]
  rfl

theorem ledger_addJob (service : Service δ) (job : Job) :
    (service.addJob job).ledger = service.ledger.withJob job :=
  (service.addJob job).ledger_of_perm List.perm_append_comm

theorem ledger_of_job {service : Service δ} {index : Nat} {job : Job}
    (hjob : service.jobs[index]? = some job) :
    service.ledger =
      ({ service with jobs := service.jobs.eraseIdx index } : Service δ).ledger.withJob job := by
  obtain ⟨hindex, rfl⟩ := List.getElem?_eq_some_iff.1 hjob
  exact service.ledger_of_perm (List.getElem_cons_eraseIdx_perm hindex).symm

/-! ### Turns -/

variable [Daemon δ]

/-- What the daemon answers to an errand: that it cannot begin, or what it has when it is asked. -/
inductive Replies (daemon : δ) (flight : Flight) (answer : Answer) : Prop
  | refused (hfirst : flight.begun = false)
      (hbegin : (Daemon.begin flight.path flight.errand daemon).1 = some answer)
  | prompt (hfirst : flight.begun = false)
      (hbegin : (Daemon.begin flight.path flight.errand daemon).1 = none)
      (hpoll : (Daemon.poll flight.path flight.errand
        (Daemon.begin flight.path flight.errand daemon).2).1 = some answer)
  | late (hbegun : flight.begun = true)
      (hpoll : (Daemon.poll flight.path flight.errand daemon).1 = some answer)

/-- The answers that a call under way can get: it was told to stop, or the daemon has answered. -/
def Gives (service : Service δ) (flight : Flight) (answer : Answer) : Prop :=
  service.board.isSignalled flight.token = true ∧ answer = flight.errand.failed .canceled ∨
    Replies service.daemon flight answer

/-- Asking the daemon changes nothing but the daemon. -/
theorem askAnswer_spec (service : Service δ) (flight : Flight) :
    (∃ daemon, (service.askAnswer flight).2 = { service with daemon }) ∧
      ∀ answer, (service.askAnswer flight).1 = some answer →
        Replies service.daemon flight answer := by
  unfold askAnswer
  cases hbegun : flight.begun with
  | true => exact ⟨⟨_, rfl⟩, fun answer hanswer => .late hbegun hanswer⟩
  | false =>
    cases hbegin : Daemon.begin flight.path flight.errand service.daemon with
    | mk refusal daemon =>
      cases refusal with
      | some refusal =>
        refine ⟨⟨daemon, by simp⟩, fun answer hanswer => .refused hbegun ?_⟩
        simpa [hbegin] using hanswer
      | none =>
        refine ⟨⟨_, by simp; rfl⟩, fun answer hanswer => .prompt hbegun (by simp [hbegin]) ?_⟩
        simpa [hbegin] using hanswer

omit [Daemon δ] in
theorem ledger_complete (service : Service δ) (flight : Flight) (answer : Answer) :
    (service.complete flight answer).ledger =
      ({ service.ledger with calls := (service.board.calls.take flight.id).2 } : Ledger).answer
        [(flight.ticket, answer)] :=
  ledger_answer _ _ _

/-- A call under way stays under way, or gets an answer and is struck out. -/
theorem advance_cases (service : Service δ) (flight : Flight) :
    ((service.advance flight).1 = some { flight with begun := true } ∧
        (service.advance flight).2.ledger = service.ledger) ∨
      ∃ answer, service.Gives flight answer ∧ (service.advance flight).1 = none ∧
        (service.advance flight).2.ledger =
          ({ service.ledger with calls := (service.board.calls.take flight.id).2 } :
            Ledger).answer [(flight.ticket, answer)] := by
  unfold advance
  by_cases hsignalled : service.board.isSignalled flight.token = true
  · rw [if_pos hsignalled]
    exact .inr ⟨_, .inl ⟨hsignalled, rfl⟩, rfl, ledger_complete _ _ _⟩
  · rw [if_neg hsignalled]
    obtain ⟨⟨daemon, hservice⟩, hreplies⟩ := service.askAnswer_spec flight
    cases hasked : service.askAnswer flight with
    | mk answer asked =>
      rw [hasked] at hservice hreplies
      subst hservice
      cases answer with
      | none => exact .inl ⟨rfl, rfl⟩
      | some answer => exact .inr ⟨answer, .inr (hreplies answer rfl), rfl, ledger_complete _ _ _⟩

/-- The ledger after a turn of a job, with what is left of the job. -/
def ledgerAfter (result : Option Job × Service δ) : Ledger :=
  result.1.elim result.2.ledger result.2.ledger.withJob

theorem ledger_turnAt {service : Service δ} {index : Nat} {job : Job}
    (hjob : service.jobs[index]? = some job) :
    (service.turnAt index).ledger =
      ledgerAfter (({ service with jobs := service.jobs.eraseIdx index } : Service δ).turn job) := by
  unfold turnAt ledgerAfter
  rw [hjob]
  cases hturn : ({ service with jobs := service.jobs.eraseIdx index } : Service δ).turn job with
  | mk rest after =>
    cases rest with
    | none => simp [hturn]
    | some job => simp [hturn, ledger_addJob]

/-- A call under way gets no further than to be begun, or is answered. -/
theorem turn_flight (service : Service δ) {job : Job} {flight : Flight}
    (hflight : job.flight? = some flight) :
    ledgerAfter (service.turn job) =
        { service.ledger with flights := { flight with begun := true } ::ₘ service.flights } ∨
      ∃ answer, service.Gives flight answer ∧
        ledgerAfter (service.turn job) =
          ({ service.ledger with calls := (service.board.calls.take flight.id).2 } :
            Ledger).answer [(flight.ticket, answer)] := by
  have hturn : ∃ rebuild : Option Flight → Option Job,
      service.turn job = (rebuild (service.advance flight).1, (service.advance flight).2) ∧
      (∀ flight, ∃ job, rebuild (some flight) = some job ∧ job.flight? = some flight) ∧
      ∀ ledger : Ledger, (rebuild none).elim ledger ledger.withJob = ledger := by
    cases job with
    | call other =>
      cases hflight
      exact ⟨Option.map .call, rfl, fun flight => ⟨.call flight, rfl, rfl⟩, fun ledger => rfl⟩
    | drain path epoch stage =>
      cases stage with
      | seeking => cases hflight
      | taken request => cases hflight
      | sending other =>
        cases hflight
        refine ⟨fun rest => some (.drain path epoch (rest.elim .seeking .sending)), ?_,
          fun flight => ⟨_, rfl, rfl⟩, fun ledger => ledger.withJob_idle rfl rfl⟩
        simp only [turn]
        cases (service.advance flight).1 <;> rfl
  obtain ⟨rebuild, hturn, hleft, hdone⟩ := hturn
  rw [ledgerAfter, hturn]
  rcases service.advance_cases flight with ⟨hrest, hledger⟩ | ⟨answer, hgives, hrest, hledger⟩
  · left
    obtain ⟨job, hjob, hbegun⟩ := hleft { flight with begun := true }
    rw [hrest, hjob, hledger]
    exact Ledger.withJob_flight _ hbegun
  · right
    refine ⟨answer, hgives, ?_⟩
    rw [hrest, ← hledger]
    exact hdone _

end Service

/-- The next request of a drain leaves its queue; nothing else changes. -/
theorem Switchboard.nextQueued_cases (board : Switchboard) (path : ModemPath) (epoch : UInt64) :
    (board.nextQueued path epoch).2.calls = board.calls ∧
      match (board.nextQueued path epoch).1 with
      | some request =>
        board.waiting = (path, request) ::ₘ (board.nextQueued path epoch).2.waiting
      | none => (board.nextQueued path epoch).2.waiting = board.waiting := by
  unfold nextQueued
  cases hentry : board.entry? path with
  | none => exact ⟨rfl, rfl⟩
  | some entry =>
    cases hrequests : entry.requests with
    | pending queue => exact ⟨by simp [hrequests], by simp [hrequests]⟩
    | direct => exact ⟨by simp [hrequests], by simp [hrequests]⟩
    | draining queue current =>
      by_cases hepoch : current = epoch
      · subst hepoch
        cases queue with
        | nil =>
          simp only [hrequests, ↓reduceIte, List.head?_nil, true_and]
          exact waitingIn_insert_same hentry (by rw [hrequests]; rfl)
        | cons request rest =>
          simp only [hrequests, ↓reduceIte, List.head?_cons, true_and]
          rw [waiting, waitingIn_of_get? hentry, hrequests]
          simp only [waiting, waitingIn_insert, Requests.queue, List.map_cons,
            ← Multiset.cons_coe, Multiset.cons_add]
      · simp only [hrequests, hepoch, ↓reduceIte, and_self]

namespace Service

variable [Daemon δ]

/-- A drain that looks for its next request takes one out of the queue, or ends. -/
theorem turn_seeking (service : Service δ) (path : ModemPath) (epoch : UInt64) :
    ledgerAfter (service.turn (.drain path epoch .seeking)) = service.ledger ∨
      ∃ request rest, service.board.waiting = (path, request) ::ₘ rest ∧
        ledgerAfter (service.turn (.drain path epoch .seeking)) =
          { service.ledger with waiting := rest, taken := request ::ₘ service.taken } := by
  have hcases := service.board.nextQueued_cases path epoch
  have hturn : service.turn (.drain path epoch .seeking) =
      ((service.board.nextQueued path epoch).1.map fun request =>
          .drain path epoch (.taken request),
        { service with board := (service.board.nextQueued path epoch).2 }) := rfl
  rw [hturn]
  cases hnext : service.board.nextQueued path epoch with
  | mk next board =>
    rw [hnext] at hcases
    have hboard : ({ service with board } : Service δ).ledger =
        { service.ledger with waiting := board.waiting, calls := board.calls } := rfl
    obtain ⟨hcalls, hwaiting⟩ := hcases
    change board.calls = service.board.calls at hcalls
    cases next with
    | none =>
      left
      change board.waiting = service.board.waiting at hwaiting
      change ({ service with board } : Service δ).ledger = _
      rw [hboard, hwaiting, hcalls]
      rfl
    | some request =>
      right
      refine ⟨request, board.waiting, hwaiting, ?_⟩
      change ({ service with board } : Service δ).ledger.withJob
        (.drain path epoch (.taken request)) = _
      rw [Ledger.withJob_taken, hboard, hcalls]
      rfl

/-- A drain that has taken a request sends it if its call is outstanding, and drops it if not. -/
theorem turn_taken (service : Service δ) (path : ModemPath) (epoch : UInt64)
    (request : QueuedRequest) :
    (request.id ∈ service.board.calls.ids ∧ ∃ token,
        ledgerAfter (service.turn (.drain path epoch (.taken request))) =
          { service.ledger with
            flights := ⟨request.id, path, .dial request.code, token, request.ticket, false⟩ ::ₘ
              service.flights
            calls := (service.board.calls.arm request.id token).2 }) ∨
      request.id ∉ service.board.calls.ids ∧
        ledgerAfter (service.turn (.drain path epoch (.taken request))) = service.ledger := by
  simp only [turn, Switchboard.arm]
  by_cases hout : request.id ∈ service.board.calls.ids
  · left
    have hfound : (service.board.calls.arm request.id service.board.fresh).1 = true :=
      CallTable.contains_iff.2 hout
    refine ⟨hout, service.board.fresh, ?_⟩
    rw [if_pos hfound]
    exact Ledger.withJob_flight _ rfl
  · right
    have hfound : ¬ (service.board.calls.arm request.id service.board.fresh).1 = true :=
      fun hfound => hout (CallTable.contains_iff.1 hfound)
    refine ⟨hout, ?_⟩
    rw [if_neg hfound]
    exact Ledger.withJob_idle _ rfl rfl

end Service

/-! ### Books -/

/-- What a desk knows: the ledger of its service, the modems of the accepted requests in the order
of their tickets, and the ids given out since no call was outstanding last. -/
structure Books extends Ledger where
  accepted : List ModemPath
  issued : Nat

namespace Books

/-- The books with the ledger as it is after a move. -/
def put (books : Books) (ledger : Ledger) : Books :=
  ⟨ledger, books.accepted, if ledger.calls.isEmpty then 0 else books.issued⟩

def accept (books : Books) (path : ModemPath) : Books :=
  { books with accepted := books.accepted ++ [path], issued := books.issued + 1 }

end Books

namespace Desk

def books (desk : Desk δ) : Books := ⟨desk.service.ledger, desk.accepted, desk.issued⟩

theorem books_put (desk : Desk δ) (service : Service δ) :
    (desk.put service).books = desk.books.put service.ledger := rfl

/-- The move decides what becomes of a request that waits: a drain comes to send it, or its modem is
removed. -/
inductive TakesUp (desk : Desk δ) : Move δ → QueuedRequest → Prop
  | drain {index : Nat} {path : ModemPath} {epoch : UInt64} {request : QueuedRequest}
      (hjob : desk.service.jobs[index]? = some (.drain path epoch (.taken request))) :
      TakesUp desk (.turn index) request
  | removal {path : ModemPath} {entry : Entry} {request : QueuedRequest}
      (hentry : desk.board.entry? path = some entry)
      (hqueued : request ∈ entry.requests.queue) :
      TakesUp desk (.process (.modemRemoved path)) request

variable [Daemon δ]

/-- What a move can do to the books. -/
inductive Step (desk : Desk δ) : Move δ → Books → Prop
  | quiet {move : Move δ} (hnone : ∀ request, ¬ desk.TakesUp move request) :
      Step desk move (desk.books.put desk.service.ledger)
  | queue {path : ModemPath} {code : String} :
      Step desk (.submit path code) ((desk.books.accept path).put
        { desk.service.ledger with
          waiting := (path, ⟨desk.calls.next, code, desk.ticket⟩) ::ₘ desk.board.waiting
          calls := desk.calls.reserve.2.add desk.calls.next path none })
  | dispatch {move : Move δ} {path : ModemPath} {errand : Errand} {token : Token}
      (hnone : ∀ request, ¬ desk.TakesUp move request) :
      Step desk move ((desk.books.accept path).put
        { desk.service.ledger with
          flights := ⟨desk.calls.next, path, errand, token, desk.ticket, false⟩ ::ₘ
            desk.service.flights
          calls := desk.calls.reserve.2.add desk.calls.next path (some token) })
  | take {index : Nat} {path : ModemPath} {request : QueuedRequest}
      {rest : Multiset (ModemPath × QueuedRequest)}
      (hnone : ∀ request, ¬ desk.TakesUp (.turn index) request)
      (hwaiting : desk.board.waiting = (path, request) ::ₘ rest) :
      Step desk (.turn index) (desk.books.put
        { desk.service.ledger with waiting := rest, taken := request ::ₘ desk.service.taken })
  | arm {index : Nat} {path : ModemPath} {epoch : UInt64} {request : QueuedRequest} {token : Token}
      {rest : Multiset QueuedRequest}
      (hjob : desk.service.jobs[index]? = some (.drain path epoch (.taken request)))
      (hout : request.id ∈ desk.calls.ids) (htaken : desk.service.taken = request ::ₘ rest) :
      Step desk (.turn index) (desk.books.put
        { desk.service.ledger with
          taken := rest
          flights := ⟨request.id, path, .dial request.code, token, request.ticket, false⟩ ::ₘ
            desk.service.flights
          calls := (desk.calls.arm request.id token).2 })
  | skip {index : Nat} {path : ModemPath} {epoch : UInt64} {request : QueuedRequest}
      {rest : Multiset QueuedRequest}
      (hjob : desk.service.jobs[index]? = some (.drain path epoch (.taken request)))
      (hout : request.id ∉ desk.calls.ids) (htaken : desk.service.taken = request ::ₘ rest) :
      Step desk (.turn index) (desk.books.put { desk.service.ledger with taken := rest })
  | begin {index : Nat} {flight : Flight} {rest : Multiset Flight}
      (hnone : ∀ request, ¬ desk.TakesUp (.turn index) request)
      (hflights : desk.service.flights = flight ::ₘ rest) :
      Step desk (.turn index) (desk.books.put
        { desk.service.ledger with flights := { flight with begun := true } ::ₘ rest })
  | finish {index : Nat} {flight : Flight} {answer : Answer} {rest : Multiset Flight}
      (hnone : ∀ request, ¬ desk.TakesUp (.turn index) request)
      (hflights : desk.service.flights = flight ::ₘ rest)
      (hgives : desk.service.Gives flight answer) :
      Step desk (.turn index) (desk.books.put
        (({ desk.service.ledger with
          flights := rest
          calls := (desk.calls.take flight.id).2 } : Ledger).answer [(flight.ticket, answer)]))
  | destroy {id : CallId} (hdestroyed : (desk.service.cancel id).1 = .destroyed)
      (hout : id ∈ desk.calls.ids) :
      Step desk (.cancel id) (desk.books.put
        { desk.service.ledger with calls := (desk.calls.take id).2 })
  | remove {path : ModemPath} {entry : Entry} {rest : Multiset (ModemPath × QueuedRequest)}
      (hentry : desk.board.entry? path = some entry)
      (hwaiting : desk.board.waiting = (entry.requests.queue.map (path, ·) : List _) + rest) :
      Step desk (.process (.modemRemoved path)) (desk.books.put
        (({ desk.service.ledger with
          waiting := rest
          calls := (Switchboard.abandon desk.calls entry.requests.queue).1 } : Ledger).answer
          (Effect.fail path
            (Switchboard.abandon desk.calls entry.requests.queue).2).failures))

/-- A request that is sent at once is a new job. -/
theorem step_dispatch (desk : Desk δ) {move : Move δ} (path : ModemPath) (errand : Errand)
    (token : Token) (tokens : Nat) (hnone : ∀ request, ¬ desk.TakesUp move request) :
    desk.Step move (desk.accept path (.ok desk.calls.next,
      ({ desk.service with board := { desk.service.board with
        calls := desk.calls.reserve.2.add desk.calls.next path (some token), tokens } } :
          Service δ).addJob
        (.call ⟨desk.calls.next, path, errand, token, desk.ticket, false⟩))).books := by
  have hstep : desk.Step move ((desk.books.accept path).put
      { desk.service.ledger with
        flights := ⟨desk.calls.next, path, errand, token, desk.ticket, false⟩ ::ₘ
          desk.service.flights
        calls := desk.calls.reserve.2.add desk.calls.next path (some token) }) := .dispatch hnone
  rw [accept, books_put, Service.ledger_addJob, Ledger.withJob_flight _ rfl]
  exact hstep

theorem step_submit (desk : Desk δ) (path : ModemPath) (code : String) :
    desk.Step (.submit path code) (desk.step (.submit path code)).books := by
  have hnone : ∀ request, ¬ desk.TakesUp (.submit path code) request := fun request htakes => by
    cases htakes
  simp only [step, Service.submit]
  rcases desk.service.board.submit_cases path code desk.ticket with
    ⟨failure, hrefused⟩ | ⟨token, tokens, hsent⟩ | ⟨after, hqueued, hcalls, hwaiting⟩
  · rw [hrefused]
    exact .quiet hnone
  · rw [hsent]
    exact desk.step_dispatch path (.dial code) token tokens hnone
  · rw [hqueued]
    have hledger : ({ desk.service with board := after } : Service δ).ledger =
        { desk.service.ledger with waiting := after.waiting, calls := after.calls } := rfl
    have hstep : desk.Step (.submit path code) ((desk.books.accept path).put
        { desk.service.ledger with
          waiting := (path, ⟨desk.calls.next, code, desk.ticket⟩) ::ₘ desk.board.waiting
          calls := desk.calls.reserve.2.add desk.calls.next path none }) := .queue
    change desk.Step _ ((desk.books.accept path).put
      ({ desk.service with board := after } : Service δ).ledger)
    rw [hledger, hwaiting, hcalls]
    exact hstep

theorem step_listOperators (desk : Desk δ) (path : ModemPath) (scan : Bool) :
    desk.Step (.listOperators path scan) (desk.step (.listOperators path scan)).books := by
  have hnone : ∀ request, ¬ desk.TakesUp (.listOperators path scan) request :=
    fun request htakes => by cases htakes
  simp only [step, Service.listOperators]
  cases hrequire : desk.service.board.require path .networkRegistration with
  | error failure => exact .quiet hnone
  | ok attached => exact desk.step_dispatch path (.listOperators scan) _ _ hnone

theorem step_cancel (desk : Desk δ) (id : CallId) :
    desk.Step (.cancel id) (desk.step (.cancel id)).books := by
  have hnone : ∀ request, ¬ desk.TakesUp (.cancel id) request := fun request htakes => by
    cases htakes
  have hledger : (desk.service.cancel id).2.ledger =
      { desk.service.ledger with calls := (desk.calls.cancel id).2 } := rfl
  rw [step, books_put, hledger]
  rcases desk.calls.cancel_cases id with ⟨hdestroyed, hout, hcalls⟩ | ⟨-, hcalls⟩
  · rw [hcalls]
    exact .destroy hdestroyed hout
  · rw [hcalls]
    exact .quiet hnone

theorem step_process (desk : Desk δ) (event : Event) :
    desk.Step (.process event) (desk.step (.process event)).books := by
  by_cases hremoval : ∃ path, event = .modemRemoved path
  · obtain ⟨path, rfl⟩ := hremoval
    rw [step, books_put]
    cases hentry : desk.board.entry? path with
    | none =>
      rw [Service.ledger_process_unknown hentry]
      refine .quiet ?_
      intro request htakes
      cases htakes with
      | removal hknown _ => simp [hentry] at hknown
    | some entry =>
      obtain ⟨rest, hwaiting, hledger⟩ := Service.ledger_process_removed hentry
      rw [hledger]
      exact .remove hentry hwaiting
  · rw [not_exists] at hremoval
    rw [step, books_put, Service.ledger_process _ _ hremoval]
    refine .quiet ?_
    intro request htakes
    cases htakes with
    | removal _ _ => exact hremoval _ rfl

theorem step_turn_flight (desk : Desk δ) {index : Nat} {job : Job} {flight : Flight}
    (hjob : desk.service.jobs[index]? = some job) (hflight : job.flight? = some flight) :
    desk.Step (.turn index) (desk.books.put (desk.service.turnAt index).ledger) := by
  let others : Service δ := { desk.service with jobs := desk.service.jobs.eraseIdx index }
  have hbefore : desk.service.ledger =
      { others.ledger with flights := flight ::ₘ others.flights } := by
    rw [Service.ledger_of_job hjob, Ledger.withJob_flight _ hflight]
    rfl
  have hothers : others.ledger = { desk.service.ledger with flights := others.flights } := by
    rw [hbefore]
    rfl
  have hflights : desk.service.flights = flight ::ₘ others.flights :=
    congrArg Ledger.flights hbefore
  have hnone : ∀ request, ¬ desk.TakesUp (.turn index) request := fun request htakes => by
    cases htakes with
    | drain htaken =>
      rw [hjob, Option.some.injEq] at htaken
      rw [htaken] at hflight
      cases hflight
  rw [Service.ledger_turnAt hjob]
  rcases others.turn_flight hflight with hledger | ⟨answer, hgives, hledger⟩
  · rw [hledger, hothers]
    exact .begin hnone hflights
  · rw [hledger, hothers]
    exact .finish hnone hflights hgives

theorem step_turn_seeking (desk : Desk δ) {index : Nat} {path : ModemPath} {epoch : UInt64}
    (hjob : desk.service.jobs[index]? = some (.drain path epoch .seeking)) :
    desk.Step (.turn index) (desk.books.put (desk.service.turnAt index).ledger) := by
  let others : Service δ := { desk.service with jobs := desk.service.jobs.eraseIdx index }
  have hothers : others.ledger = desk.service.ledger := by
    rw [Service.ledger_of_job hjob, Ledger.withJob_idle _ rfl rfl]
  have hnone : ∀ request, ¬ desk.TakesUp (.turn index) request := fun request htakes => by
    cases htakes with
    | drain htaken =>
      rw [hjob] at htaken
      cases htaken
  rw [Service.ledger_turnAt hjob]
  rcases others.turn_seeking path epoch with hledger | ⟨request, rest, hwaiting, hledger⟩
  · rw [hledger, hothers]
    exact .quiet hnone
  · have htaken : others.taken = desk.service.taken := congrArg Ledger.taken hothers
    rw [hledger, hothers, htaken]
    exact .take hnone hwaiting

theorem step_turn_taken (desk : Desk δ) {index : Nat} {path : ModemPath} {epoch : UInt64}
    {request : QueuedRequest}
    (hjob : desk.service.jobs[index]? = some (.drain path epoch (.taken request))) :
    desk.Step (.turn index) (desk.books.put (desk.service.turnAt index).ledger) := by
  let others : Service δ := { desk.service with jobs := desk.service.jobs.eraseIdx index }
  have hbefore : desk.service.ledger =
      { others.ledger with taken := request ::ₘ others.taken } := by
    rw [Service.ledger_of_job hjob, Ledger.withJob_taken]
    rfl
  have hothers : others.ledger = { desk.service.ledger with taken := others.taken } := by
    rw [hbefore]
    rfl
  have htaken : desk.service.taken = request ::ₘ others.taken := congrArg Ledger.taken hbefore
  have hflights : others.flights = desk.service.flights := congrArg Ledger.flights hothers
  rw [Service.ledger_turnAt hjob]
  rcases others.turn_taken path epoch request with ⟨hout, token, hledger⟩ | ⟨hout, hledger⟩
  · rw [hledger, hothers, hflights]
    exact .arm hjob hout htaken
  · rw [hledger, hothers]
    exact .skip hjob hout htaken

theorem step_turn (desk : Desk δ) (index : Nat) :
    desk.Step (.turn index) (desk.step (.turn index)).books := by
  rw [step, books_put]
  cases hjob : desk.service.jobs[index]? with
  | none =>
    have hservice : desk.service.turnAt index = desk.service := by
      unfold Service.turnAt
      rw [hjob]
    rw [hservice]
    refine .quiet ?_
    intro request htakes
    cases htakes with
    | drain htaken =>
      rw [hjob] at htaken
      cases htaken
  | some job =>
    cases job with
    | call flight => exact desk.step_turn_flight hjob rfl
    | drain path epoch stage =>
      cases stage with
      | seeking => exact desk.step_turn_seeking hjob
      | taken request => exact desk.step_turn_taken hjob
      | sending flight => exact desk.step_turn_flight hjob rfl

/-- Every move does to the books what one of the cases says. -/
theorem step_spec (desk : Desk δ) (move : Move δ) : desk.Step move (desk.step move).books := by
  cases move with
  | submit path code => exact desk.step_submit path code
  | listOperators path scan => exact desk.step_listOperators path scan
  | cancel id => exact desk.step_cancel id
  | process event => exact desk.step_process event
  | turn index => exact desk.step_turn index
  | load path interface =>
    rw [step, books_put, Service.ledger_execute, Outcome.failures_ofEffect]
    exact (Ledger.answer_nil desk.service.ledger).symm ▸ .quiet fun request htakes => nomatch htakes
  | replay path epoch =>
    rw [step, books_put, Service.ledger_execute, Outcome.failures_ofEffect]
    exact (Ledger.answer_nil desk.service.ledger).symm ▸ .quiet fun request htakes => nomatch htakes
  | flush =>
    rw [step, books_put, Service.ledger_flush]
    exact .quiet fun request htakes => nomatch htakes
  | daemon next => exact .quiet fun request htakes => nomatch htakes

end Desk

end Telephony
