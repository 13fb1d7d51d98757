import Telephony.CodeSession.Open
import Telephony.Proofs.Lifecycle.Restart
import Telephony.Proofs.News.Listeners
import Telephony.Proofs.Requests.Tracking
import Telephony.Proofs.Subscriptions.Upkeep

/-!
# What serving leaves alone

Taking in events, telling news and working on requests change neither who is registered nor whether
a code session is open, and answers that were given stay given. Only a start and a stop change
whether the service runs.
-/

namespace Telephony

/-! ### Boards -/

namespace Switchboard

theorem sessionActive_removeModem (board : Switchboard) (path : ModemPath) :
    (board.removeModem path).1.sessionActive = board.sessionActive := by
  obtain ⟨modems, hremoved⟩ := board.removeModem_eq path
  rw [hremoved]

/-- The boards agree on who is registered and on whether a session is open. -/
structure Attends (board after : Switchboard) : Prop where
  observers : after.observers = board.observers
  session : after.sessionActive = board.sessionActive

variable {board middle after : Switchboard}

theorem Attends.trans (hfirst : board.Attends middle) (hsecond : middle.Attends after) :
    board.Attends after :=
  ⟨hsecond.observers.trans hfirst.observers, hsecond.session.trans hfirst.session⟩

theorem attends_apply (board : Switchboard) (event : Event) :
    board.Attends (board.apply event).1 := by
  cases event with
  | modemAdded path properties => exact ⟨rfl, rfl⟩
  | modemRemoved path =>
    exact ⟨board.observers_removeModem path, board.sessionActive_removeModem path⟩
  | propertyChanged path change =>
    obtain ⟨modems, hchanged⟩ := board.onEntry_eq path fun entry =>
      entry.change board.observers path change
    have hboard : (board.apply (.propertyChanged path change)).1 = { board with modems } := hchanged
    rw [hboard]
    exact ⟨rfl, rfl⟩

theorem attends_clear (board : Switchboard) : board.Attends board.clear.1 :=
  clear_keeps (fun result => board.Attends result.1)
    (fun before _ path hattends => hattends.trans
      ⟨before.observers_removeModem path, before.sessionActive_removeModem path⟩) ⟨rfl, rfl⟩

theorem attends_arm (board : Switchboard) (id : CallId) : board.Attends (board.arm id).2 := by
  unfold arm
  simp only
  split <;> exact ⟨rfl, rfl⟩

theorem attends_submit (board : Switchboard) (path : ModemPath) (code : String) (ticket : Ticket) :
    board.Attends (board.perform (.submit path code ticket)) := by
  refine ⟨board.observers_submit path code ticket, ?_⟩
  cases hentry : board.entry? path with
  | none => simp only [perform, submit_of_unknown hentry]
  | some entry =>
    by_cases hdirect : entry.requests = .direct
    · simp only [perform, submit_of_direct hentry hdirect]
      rfl
    · simp only [perform, submit_of_waiting hentry hdirect]

end Switchboard

/-! ### Services -/

namespace Service

variable {δ : Type} {service middle after : Service δ}

/-- The service serves on: it attends to the same users, runs if it did, and has given its answers. -/
structure Serves (service after : Service δ) : Prop where
  board : service.board.Attends after.board
  running : after.running = service.running
  answered : service.answered <+: after.answered

theorem Serves.of_attends (hattends : service.board.Attends after.board)
    (hrunning : after.running = service.running) (hanswered : after.answered = service.answered) :
    service.Serves after :=
  ⟨hattends, hrunning, hanswered ▸ List.prefix_refl _⟩

theorem Serves.refl (service : Service δ) : service.Serves service :=
  .of_attends ⟨rfl, rfl⟩ rfl rfl

theorem Serves.trans (hfirst : service.Serves middle) (hsecond : middle.Serves after) :
    service.Serves after where
  board := hfirst.board.trans hsecond.board
  running := hsecond.running.trans hfirst.running
  answered := hfirst.answered.trans hsecond.answered

theorem serves_deliverAll (service : Service δ) (deliveries : List Delivery) :
    service.Serves (service.deliverAll deliveries) := by
  obtain ⟨heard, hdelivered⟩ := service.deliverAll_eq deliveries
  rw [hdelivered]
  exact .of_attends ⟨rfl, rfl⟩ rfl rfl

theorem serves_flush (service : Service δ) : service.Serves service.flush := by
  obtain ⟨heard, roster, hflush⟩ := service.flush_eq
  rw [hflush]
  exact .of_attends ⟨rfl, rfl⟩ rfl rfl

theorem serves_fail (service : Service δ) (path : ModemPath) (requests : List QueuedRequest) :
    service.Serves (requests.foldl (fun service request =>
      service.answer request.ticket (.reply (.error (.modemNotFound path)))) service) := by
  induction requests generalizing service with
  | nil => exact .refl service
  | cons request rest ih =>
    refine Serves.trans ?_ (ih _)
    exact ⟨⟨rfl, rfl⟩, rfl, List.prefix_append _ _⟩

theorem serves_submit (service : Service δ) (path : ModemPath) (code : String) (ticket : Ticket) :
    service.Serves (service.submit path code ticket).2 := by
  have hattends := service.board.attends_submit path code ticket
  simp only [Switchboard.perform] at hattends
  unfold submit
  split
  · exact .refl service
  · next hqueued =>
    rw [hqueued] at hattends
    exact .of_attends hattends rfl rfl
  · next hsent =>
    rw [hsent] at hattends
    exact .of_attends hattends rfl rfl

theorem serves_listOperators (service : Service δ) (path : ModemPath) (scan : Bool)
    (ticket : Ticket) : service.Serves (service.listOperators path scan ticket).2 := by
  unfold listOperators
  split
  · exact .refl service
  · exact .of_attends ⟨rfl, rfl⟩ rfl rfl

variable [Daemon δ]

theorem serves_carryOut (service : Service δ) (effect : Effect) :
    service.Serves (service.carryOut effect).1 := by
  cases effect with
  | watch path interface =>
    have hattends : service.board.Attends
        (service.board.loaded path interface (service.fetch path interface).1).1 := by
      obtain ⟨modems, drains, hloaded⟩ :=
        service.board.board_loaded path interface (service.fetch path interface).1
      rw [hloaded]
      exact ⟨rfl, rfl⟩
    refine Serves.trans ?_ (serves_deliverAll _ _)
    exact .of_attends hattends rfl rfl
  | unwatch path interface => exact .of_attends ⟨rfl, rfl⟩ rfl rfl
  | replay path epoch => exact .of_attends ⟨rfl, rfl⟩ rfl rfl
  | fail path requests => exact service.serves_fail path requests

theorem serves_execute (service : Service δ) (outcome : Outcome) :
    service.Serves (service.execute outcome) :=
  settleEffects_keeps service.Serves
    (fun middle effect hserves => hserves.trans (middle.serves_carryOut effect))
    (service.serves_deliverAll outcome.deliveries) 3 _

theorem serves_process (service : Service δ) (event : Event) :
    service.Serves (service.process event) := by
  have happlied : service.Serves { service with board := (service.board.apply event).1 } :=
    .of_attends (service.board.attends_apply event) rfl rfl
  exact happlied.trans (serves_execute _ _)

theorem serves_cleared (service : Service δ) : service.Serves service.cleared := by
  have hcleared : service.Serves { service with board := service.board.clear.1 } :=
    .of_attends service.board.attends_clear rfl rfl
  exact hcleared.trans (serves_execute _ _)

theorem serves_welcome (service : Service δ) (modems : List (ModemPath × List Change)) :
    service.Serves (service.welcome modems) :=
  welcome_keeps service.Serves
    (fun middle path properties hserves =>
      hserves.trans (middle.serves_process (.modemAdded path properties)))
    (.refl service) modems

theorem serves_advance (service : Service δ) (flight : Flight) :
    service.Serves (service.advance flight).2 := by
  obtain ⟨⟨daemon, hasked⟩, -⟩ := service.askAnswer_spec flight
  have hask : service.Serves (service.askAnswer flight).2 := by
    rw [hasked]
    exact .of_attends ⟨rfl, rfl⟩ rfl rfl
  have hcomplete : ∀ (service : Service δ) answer, service.Serves (service.complete flight answer) :=
    fun service answer => ⟨⟨rfl, rfl⟩, rfl, List.prefix_append _ _⟩
  unfold advance
  split
  · exact hcomplete service _
  · split
    · next answer asked hanswer =>
      rw [hanswer] at hask
      exact hask.trans (hcomplete asked answer)
    · next asked hanswer =>
      rw [hanswer] at hask
      exact hask

theorem serves_turn (service : Service δ) (job : Job) : service.Serves (service.turn job).2 := by
  cases job with
  | call flight => exact service.serves_advance flight
  | drain path epoch stage =>
    cases stage with
    | seeking =>
      obtain ⟨modems, hnext⟩ := service.board.nextQueued_eq path epoch
      have hattends : service.board.Attends (service.board.nextQueued path epoch).2 := by
        rw [hnext]
        exact ⟨rfl, rfl⟩
      exact .of_attends hattends rfl rfl
    | taken request => exact .of_attends (service.board.attends_arm request.id) rfl rfl
    | sending flight => exact service.serves_advance flight

theorem serves_turnAt (service : Service δ) (index : Nat) :
    service.Serves (service.turnAt index) := by
  unfold turnAt
  split
  · exact .refl service
  · next job hjob =>
    have hturn := serves_turn { service with jobs := service.jobs.eraseIdx index } job
    simp only
    cases (({ service with jobs := service.jobs.eraseIdx index } : Service δ).turn job).1 with
    | none => exact ⟨hturn.board, hturn.running, hturn.answered⟩
    | some rest => exact ⟨hturn.board, hturn.running, hturn.answered⟩

/-! ### Starting and stopping -/

/-- A start brings the service up, or leaves all but the daemon as it was. -/
theorem start_cases (service : Service δ) :
    (service.running = true ∧ service.start = (.ok (), service)) ∨
      (∃ failure daemon, service.running = false ∧
        Daemon.connect service.daemon = (.error failure, daemon) ∧
        service.start = (.error failure, { service with daemon })) ∨
      (service.running = false ∧ service.start.1 = .ok () ∧ service.start.2.running = true ∧
        service.board.Attends service.start.2.board ∧
        service.answered <+: service.start.2.answered ∧
        service.start.2.ledger = service.ledger) := by
  cases hrunning : service.running with
  | true => exact .inl ⟨rfl, start_of_running hrunning⟩
  | false =>
    right
    rcases hconnect : Daemon.connect service.daemon with ⟨failure | modems, daemon⟩
    · have hrefused := start_of_refused hrunning hconnect
      rw [hrunning] at hrefused
      exact .inl ⟨failure, daemon, rfl, rfl, hrefused⟩
    · right
      have hwelcomed := serves_welcome { service with daemon } modems
      have hserves := hwelcomed.trans (serves_flush _)
      have hledger : (Service.welcome { service with daemon } modems).flush.ledger =
          service.ledger := by
        have hsame : ({ service with daemon } : Service δ).ledger = service.ledger := rfl
        rw [ledger_flush]
        refine welcome_keeps (fun later => later.ledger = service.ledger)
          (fun later path properties hkept => ?_) hsame modems
        exact (later.ledger_process _ fun other => by simp).trans hkept
      rw [start_of_connected hrunning hconnect]
      exact ⟨rfl, rfl, rfl, hserves.board, hserves.answered, hledger⟩

theorem running_of_start (hstarted : service.start.1 = .ok ()) : service.start.2.running = true := by
  rcases service.start_cases with ⟨hrunning, hstart⟩ | ⟨_, _, -, -, hstart⟩ |
    ⟨-, -, hrunning, -, -, -⟩
  · rwa [hstart]
  · rw [hstart] at hstarted
    cases hstarted
  · exact hrunning

theorem attends_start (service : Service δ) : service.board.Attends service.start.2.board := by
  rcases service.start_cases with ⟨-, hstart⟩ | ⟨_, _, -, -, hstart⟩ | ⟨-, -, -, hattends, -, -⟩
  · rw [hstart]
    exact ⟨rfl, rfl⟩
  · rw [hstart]
    exact ⟨rfl, rfl⟩
  · exact hattends

theorem stop_of_busy (hbusy : ¬ (service.board.isIdle = true ∧ service.running = true)) :
    service.stop = (false, service) := by
  unfold stop
  rw [if_neg (by rwa [Bool.and_eq_true])]

/-! ### Opening a code session -/

omit [Daemon δ] in
/-- The service while a session is being opened on it. -/
def engaged (service : Service δ) : Service δ :=
  { service with board := { service.board with sessionActive := true } }

omit [Daemon δ] in
/-- The service with the two registrations of a session, and these. -/
def enlistSession (service : Service δ) (number : Nat) : List Subscription × Service δ :=
  let (status, service) := service.enlist .sim (.session number)
  let (query, service) := service.enlist .codeQuery (.session number)
  ([status, query], service)

/-- A session is opened on a service that was brought up for it, unless one is open or the service
cannot be started; then nothing but the daemon has changed. -/
theorem openSession_cases (service : Service δ) (number : Nat) (options : CodeOptions)
    (startup : Bool) :
    (service.board.sessionActive = true ∧
        service.openSession number options startup = (.error .sessionActive, service)) ∨
      (∃ failure daemon, service.board.sessionActive = false ∧
        service.start = (.error failure, { service with daemon }) ∧
        service.openSession number options startup = (.error failure, { service with daemon })) ∨
      (service.board.sessionActive = false ∧ service.engaged.start.1 = .ok () ∧
        ∃ session, session.subscriptions = (service.engaged.start.2.enlistSession number).1 ∧
          service.openSession number options startup =
            (.ok session, (service.engaged.start.2.enlistSession number).2)) := by
  cases hactive : service.board.sessionActive with
  | true => exact .inl ⟨rfl, by simp [openSession, beginSession, Switchboard.beginSession, hactive]⟩
  | false =>
    right
    have hbegun : service.beginSession = (.ok (), service.engaged) := by
      simp [beginSession, Switchboard.beginSession, hactive, engaged]
    have hup : ∀ started : Service δ, service.engaged.start = (.ok (), started) →
        started.running = true →
        ∃ session, session.subscriptions = (started.enlistSession number).1 ∧
          service.openSession number options startup =
            (.ok session, (started.enlistSession number).2) := by
      intro started hstart hrunning
      -- the second registration finds the service running
      have hagain : (started.enlist .sim (.session number)).2.start =
          (.ok (), (started.enlist .sim (.session number)).2) := start_of_running hrunning
      refine ⟨CodeSession.new (started.enlistSession number).2.board options startup
        (started.enlistSession number).1, rfl, ?_⟩
      simp only [openSession, hbegun, subscribeSession, subscribe, hstart, hagain]
      rfl
    rcases service.engaged.start_cases with ⟨hrunning, hstart⟩ |
      ⟨failure, daemon, hstopped, hconnect, hstart⟩ | ⟨-, hok, hrunning, -, -, -⟩
    · have hsession := hup service.engaged hstart hrunning
      rw [hstart]
      exact .inr ⟨rfl, rfl, hsession⟩
    · have hboard : (service.engaged.board).endSession = service.board := by
        have hflag : service.engaged.board.endSession =
            { service.board with sessionActive := false } := rfl
        rw [hflag, ← hactive]
      have hstill : Service.stop { service with daemon } = (false, { service with daemon }) := by
        refine stop_of_busy fun hstops => ?_
        cases hstopped.symm.trans hstops.2
      have hidle : service.running = false := hstopped
      refine .inl ⟨failure, daemon, rfl, start_of_refused hidle hconnect, ?_⟩
      simp only [openSession, hbegun, subscribeSession, subscribe, hstart, endSession, hboard]
      exact congrArg (Except.error failure, ·.2) hstill
    · have hstart : service.engaged.start = (.ok (), service.engaged.start.2) :=
        Prod.ext hok rfl
      exact .inr ⟨rfl, hok, hup _ hstart hrunning⟩

end Service

end Telephony
