import Telephony.Proofs.Dialling.Sending
import Telephony.Scenario.Step

/-!
# Reading settings back

Whoever sets call waiting or a forwarding on the simulated network, or asks for them, is told in the
reply how they are set by then. The network keeps what was set last, so the replies follow from the
requests alone. A request with a number that cannot be dialled leaves everything as it is.
-/

namespace Telephony

open Simulator (SimulatedModem)
open Scenario (Payload World)

namespace ServiceRequest

/-! ### What has been set -/

/-- What an accepted request makes of the number for a condition: a new one, or none. -/
def change? (condition : Condition) : ServiceRequest → Option (Option String)
  | register other number =>
    if other = condition ∧ Dialable number then some (some number) else none
  | erase other => if other = condition then some none else none
  | queryWaiting | setWaiting _ | queryForwarding => none

def flag? : ServiceRequest → Option Bool
  | setWaiting on => some on
  | queryWaiting | queryForwarding | register _ _ | erase _ => none

/-- The number that was registered last for a condition, unless that was erased since. -/
def lastNumber (condition : Condition) (requests : List ServiceRequest) : Option String :=
  (requests.filterMap (change? condition)).getLast?.join

/-- The flag that was set last; call waiting is off at first. -/
def lastFlag (requests : List ServiceRequest) : Bool :=
  (requests.filterMap flag?).getLast?.getD false

/-- The reply tells how call waiting is set, or where calls go under each condition. -/
def Reports (requests : List ServiceRequest) (payload : Payload) : ServiceRequest → Prop
  | queryWaiting | setWaiting _ => payload = .flag (lastFlag requests)
  | queryForwarding | register _ _ | erase _ =>
    ∃ forwarding, payload = .forwarding forwarding ∧ ∀ condition,
      (forwarding.condition condition).enabled = (lastNumber condition requests).isSome ∧
        (forwarding.condition condition).number = (lastNumber condition requests).getD ""

theorem lastNumber_snoc (condition : Condition) (requests : List ServiceRequest)
    (request : ServiceRequest) : lastNumber condition (requests ++ [request]) =
      (request.change? condition).getD (lastNumber condition requests) := by
  unfold lastNumber
  cases hchange : request.change? condition with
  | none => simp [hchange]
  | some change => simp [hchange]

theorem lastFlag_snoc (requests : List ServiceRequest) (request : ServiceRequest) :
    lastFlag (requests ++ [request]) = request.flag?.getD (lastFlag requests) := by
  unfold lastFlag
  cases hflag : request.flag? with
  | none => simp [hflag]
  | some on => simp [hflag]

/-- What was registered can be dialled, so it is not empty. -/
theorem ne_empty_of_lastNumber {condition : Condition} {requests : List ServiceRequest}
    {number : String} (hlast : lastNumber condition requests = some number) : number ≠ "" := by
  obtain ⟨request, -, hchange⟩ := List.mem_filterMap.1
    (List.mem_of_getLast? (Option.join_eq_some_iff.1 hlast))
  cases request with
  | register other given =>
    simp only [change?] at hchange
    split at hchange
    · next hregistered =>
      obtain rfl := Option.some.inj (Option.some.inj hchange)
      rintro rfl
      exact absurd hregistered.2 (by decide)
    · cases hchange
  | erase other =>
    simp only [change?] at hchange
    split at hchange <;> cases hchange
  | queryWaiting | setWaiting _ | queryForwarding => cases hchange

end ServiceRequest

open ServiceRequest (lastNumber lastFlag Reports)

/-! ### The memory of the network -/

namespace Simulator.SimulatedModem

variable {modem : SimulatedModem} {requests : List ServiceRequest} {request : ServiceRequest}

/-- The network keeps what was set last. -/
structure Remembers (modem : SimulatedModem) (requests : List ServiceRequest) : Prop where
  waiting : modem.waiting = lastFlag requests
  forwards : ∀ condition, modem.forwards.get? condition.serviceCode = lastNumber condition requests

theorem Remembers.dial (hremembers : modem.Remembers requests)
    (haccepted : ∀ condition number, request = .register condition number → Dialable number) :
    (modem.dial request.dialled).2.Remembers (requests ++ [request]) := by
  obtain ⟨hwaiting, hforwards⟩ := hremembers
  refine ⟨?_, fun condition => ?_⟩
  · rw [ServiceRequest.lastFlag_snoc, ← hwaiting]
    cases request <;> rfl
  · rw [ServiceRequest.lastNumber_snoc, ← hforwards condition]
    cases request with
    | queryWaiting | setWaiting on | queryForwarding => rfl
    | register other number =>
      have hdialable := haccepted other number rfl
      change (modem.forwards.insert other.serviceCode number).get? _ = _
      rw [Table.get?_insert]
      by_cases hother : other = condition
      · rw [if_pos (by rw [hother]), ServiceRequest.change?, if_pos ⟨hother, hdialable⟩]
        rfl
      · rw [if_neg (mt Condition.serviceCode_injective hother), ServiceRequest.change?,
          if_neg fun hregistered => hother hregistered.1]
        rfl
    | erase other =>
      change (modem.forwards.erase other.serviceCode).get? _ = _
      rw [Table.get?_erase]
      by_cases hother : other = condition
      · rw [if_pos (by rw [hother]), ServiceRequest.change?, if_pos hother]
        rfl
      · rw [if_neg (mt Condition.serviceCode_injective hother), ServiceRequest.change?,
          if_neg hother]
        rfl

/-- Nothing is set by a registration that is refused. -/
theorem Remembers.refused {condition : Condition} {number : String}
    (hremembers : modem.Remembers requests) (hundialable : ¬ Dialable number) :
    modem.Remembers (requests ++ [.register condition number]) := by
  obtain ⟨hwaiting, hforwards⟩ := hremembers
  refine ⟨?_, fun other => ?_⟩
  · rw [ServiceRequest.lastFlag_snoc, hwaiting]
    rfl
  · rw [ServiceRequest.lastNumber_snoc, hforwards other, ServiceRequest.change?,
      if_neg fun hregistered => hundialable hregistered.2]
    rfl

theorem interfaces_dial (dialled : Dialled) :
    (modem.dial dialled).2.interfaces = modem.interfaces := by
  cases dialled <;> rfl

theorem Remembers.forwarded (hremembers : modem.Remembers requests) (condition : Condition) :
    modem.forwardedTo condition = (lastNumber condition requests).getD "" ∧
      (modem.forwardedTo condition != "") = (lastNumber condition requests).isSome := by
  rw [forwardedTo, hremembers.forwards condition]
  cases hlast : lastNumber condition requests with
  | none => exact ⟨rfl, rfl⟩
  | some number =>
    exact ⟨rfl, bne_iff_ne.2 (ServiceRequest.ne_empty_of_lastNumber hlast)⟩

theorem Remembers.reports_waiting (hremembers : modem.Remembers requests) (operation : String) :
    World.read (.reply (.ok (modem.waitingReply operation))) .asWaiting =
      .ok (.flag (lastFlag requests)) := by
  change (CallWaiting.ofReply (modem.waitingReply operation) >>= fun on => pure (Payload.flag on)) = _
  rw [read_waitingReply, hremembers.waiting]
  rfl

theorem Remembers.reports_forwarding (hremembers : modem.Remembers requests) (operation : String) :
    ∃ forwarding, World.read (.reply (.ok (modem.forwardingReply operation))) .asForwarding =
        .ok (.forwarding forwarding) ∧ ∀ condition,
      (forwarding.condition condition).enabled = (lastNumber condition requests).isSome ∧
        (forwarding.condition condition).number = (lastNumber condition requests).getD "" := by
  obtain ⟨forwarding, hread, htold⟩ := modem.read_forwardingReply operation
  refine ⟨forwarding, ?_, fun condition => ?_⟩
  · change (CallForwarding.ofReply (modem.forwardingReply operation) >>= fun forwarding =>
      pure (Payload.forwarding forwarding)) = _
    rw [hread]
    rfl
  · obtain ⟨hnumber, henabled⟩ := htold condition
    obtain ⟨hforwarded, hsome⟩ := hremembers.forwarded condition
    exact ⟨henabled.trans hsome, hnumber.trans hforwarded⟩

theorem Remembers.reports (hremembers : (modem.dial request.dialled).2.Remembers requests) :
    ∃ payload, World.read (.reply (.ok (modem.dial request.dialled).1))
      (World.readingOf request) = .ok payload ∧ Reports requests payload request := by
  cases request with
  | queryWaiting | setWaiting on => exact ⟨_, hremembers.reports_waiting _, rfl⟩
  | queryForwarding | register condition number | erase condition =>
    obtain ⟨forwarding, hread, htold⟩ := hremembers.reports_forwarding _
    exact ⟨_, hread, forwarding, rfl, htold⟩

end Simulator.SimulatedModem

namespace Service

variable {service : Service Simulator} {path : ModemPath} {ticket : Ticket}
  {requests : List ServiceRequest} {request : ServiceRequest} {modem : SimulatedModem}

/-! ### Requests that are awaited -/

/-- Makes a request and waits for its answer, which is taken away as it is read. There is no reply
if the answer does not come. -/
def awaited (service : Service Simulator) (path : ModemPath) (ticket : Ticket)
    (request : ServiceRequest) : Option (Except Failure Payload) × Service Simulator :=
  match service.request path request ticket with
  | (.error failure, service) => (some (.error failure), service)
  | (.ok _, service) =>
    let service := service.runJobs
    let answers := service.answered
    ((answers.find? (·.1 == ticket)).map fun (_, answer) =>
        World.read answer (World.readingOf request),
      { service with answered := answers.filter (·.1 != ticket) })

/-- Makes requests one after another. -/
def awaitedAll (service : Service Simulator) (path : ModemPath) (ticket : Ticket) :
    List ServiceRequest → Service Simulator :=
  List.foldl (fun service request => (service.awaited path ticket request).2) service

/-- A number that cannot be dialled is refused, and nothing else happens. -/
theorem awaited_of_undialable {condition : Condition} {number : String}
    (hundialable : ¬ Dialable number) :
    service.awaited path ticket (.register condition number) =
      (some (.error (ServiceRequest.notDialable number)), service) := by
  have hcheck : (ServiceRequest.register condition number).check =
      .error (ServiceRequest.notDialable number) :=
    if_neg (mt ServiceRequest.isDialable_iff.1 hundialable)
  simp only [awaited, Service.request, hcheck]

/-- What an accepted request leaves behind: the network has served it, and the next one is served
in the same way. -/
structure Obeys (service after : Service Simulator) (path : ModemPath) (modem : SimulatedModem)
    (request : ServiceRequest) : Prop where
  daemon : after.daemon = service.daemon.served path modem request
  answered : after.answered = service.answered
  ready : after.Ready path (modem.dial request.dialled).2

/-- The network replies to a request that is accepted. -/
theorem Ready.awaited_of_accepted (hready : service.Ready path modem)
    (hticket : ∀ answered ∈ service.answered, answered.1 ≠ ticket)
    (haccepted : request.check = .ok ()) :
    (service.awaited path ticket request).1 = some (World.read
        (.reply (.ok (modem.dial request.dialled).1)) (World.readingOf request)) ∧
      service.Obeys (service.awaited path ticket request).2 path modem request := by
  have hsettles : service.Settles path modem request ticket := hready.settles
  obtain ⟨id, accepted, board, hsubmit, hran, hdirect⟩ := hsettles
  have hrequest : service.request path request ticket = (.ok id, accepted) := by
    simp only [Service.request, haccepted, hsubmit]
  have hother : service.answered.find? (·.1 == ticket) = none :=
    List.find?_eq_none.2 (by simpa using hticket)
  have hkept : service.answered.filter (·.1 != ticket) = service.answered :=
    List.filter_eq_self.2 (by simpa using hticket)
  have hawaited : service.awaited path ticket request =
      (some (World.read (.reply (.ok (modem.dial request.dialled).1)) (World.readingOf request)),
        { service with
          daemon := service.daemon.served path modem request
          board
          jobs := [] }) := by
    simp [awaited, hrequest, hran, List.find?_append, List.filter_append, hother, hkept]
  have hleads : service.Leads accepted := by
    have hsubmitted := service.leads_submit path request.code ticket
    rwa [hsubmit] at hsubmitted
  obtain ⟨operations, hboard⟩ := hready.reached
  obtain ⟨more, hmore⟩ := hleads.trans accepted.leads_runJobs
  rw [hran, hboard, ← Switchboard.run_append] at hmore
  rw [hawaited]
  refine ⟨rfl, rfl, rfl, ⟨_, hmore⟩, ?_, by simp, .inl hdirect⟩
  refine ⟨(Table.get?_insert _ path path _).trans (if_pos rfl), ?_, hready.answers.free⟩
  rw [SimulatedModem.offers, SimulatedModem.interfaces_dial]
  exact hready.answers.offers

/-- After each request the network remembers what has been set until then. -/
theorem Ready.remembers_awaited (hready : service.Ready path modem)
    (hremembers : modem.Remembers requests)
    (hticket : ∀ answered ∈ service.answered, answered.1 ≠ ticket) (request : ServiceRequest) :
    ∃ after, (service.awaited path ticket request).2.Ready path after ∧
      after.Remembers (requests ++ [request]) ∧
      (service.awaited path ticket request).2.answered = service.answered := by
  rcases request.check_eq with
    ⟨condition, number, rfl, hundialable, -⟩ | ⟨hdialable, haccepted⟩
  · rw [awaited_of_undialable hundialable]
    exact ⟨modem, hready, hremembers.refused hundialable, rfl⟩
  · obtain ⟨-, hobeys⟩ := hready.awaited_of_accepted hticket haccepted
    exact ⟨_, hobeys.ready, hremembers.dial hdialable, hobeys.answered⟩

theorem Ready.remembers_awaitedAll (hready : service.Ready path modem)
    (hremembers : modem.Remembers requests)
    (hticket : ∀ answered ∈ service.answered, answered.1 ≠ ticket) (more : List ServiceRequest) :
    ∃ after, (service.awaitedAll path ticket more).Ready path after ∧
      after.Remembers (requests ++ more) ∧
      (service.awaitedAll path ticket more).answered = service.answered := by
  induction more generalizing service modem requests with
  | nil => exact ⟨modem, hready, by rwa [List.append_nil], rfl⟩
  | cons request rest ih =>
    obtain ⟨next, hnext, hset, hkept⟩ := hready.remembers_awaited hremembers hticket request
    obtain ⟨after, hafter, hall, hanswered⟩ := ih hnext hset (by rwa [hkept])
    rw [List.append_assoc] at hall
    exact ⟨after, hafter, hall, hanswered.trans hkept⟩

/-- After any row of requests, a number that cannot be dialled is refused and does not get to the
daemon. Any other request is dialled, and the reply tells what has been set by then. -/
theorem reads_back (hready : service.Ready path modem) (hflag : modem.waiting = false)
    (hforwards : modem.forwards = ∅)
    (hticket : ∀ answered ∈ service.answered, answered.1 ≠ ticket)
    (requests : List ServiceRequest) (request : ServiceRequest) :
    (∀ condition number, request = .register condition number → ¬ Dialable number →
        (service.awaitedAll path ticket requests).awaited path ticket request =
          (some (.error (.invalidInput "forwarding number"
              s!"'{number}' is not a dialable number")),
            service.awaitedAll path ticket requests)) ∧
      ((∀ condition number, request = .register condition number → Dialable number) →
        ((service.awaitedAll path ticket requests).awaited path ticket request).2.daemon.dialled =
            (service.awaitedAll path ticket requests).daemon.dialled ++ [(path, request.code)] ∧
          ∃ payload, ((service.awaitedAll path ticket requests).awaited path ticket request).1 =
              some (.ok payload) ∧
            Reports (requests ++ [request]) payload request) := by
  have hnew : modem.Remembers [] := ⟨hflag, fun condition => by rw [hforwards]; rfl⟩
  obtain ⟨after, hafter, hremembers, hkept⟩ := hready.remembers_awaitedAll hnew hticket requests
  rw [← hkept] at hticket
  constructor
  · rintro condition number rfl hundialable
    exact awaited_of_undialable hundialable
  · intro hdialable
    have haccepted : request.check = .ok () := by
      rcases request.check_eq with ⟨condition, number, hregister, hundialable, -⟩ | ⟨-, haccepted⟩
      · exact absurd (hdialable condition number hregister) hundialable
      · exact haccepted
    obtain ⟨hreply, hobeys⟩ := hafter.awaited_of_accepted hticket haccepted
    obtain ⟨payload, hread, hreports⟩ := (hremembers.dial hdialable).reports
    rw [hread] at hreply
    refine ⟨?_, payload, hreply, hreports⟩
    rw [hobeys.daemon]
    rfl

/-- A service that has just started on a modem with supplementary services. -/
def furnished : Service Simulator :=
  (stopped (Simulator.empty.addModem ⟨"/m"⟩ [.supplementaryServices])).start.2

theorem ready_furnished :
    furnished.Ready ⟨"/m"⟩ (SimulatedModem.new [.supplementaryServices]) := by
  have hjobs : furnished.jobs = [] := by decide
  have hrequests : furnished.board.requests? ⟨"/m"⟩ = some .direct := by decide
  refine ⟨leads_start _, ⟨by rfl, by decide, by decide⟩, ?_, .inl hrequests⟩
  rw [hjobs]
  simp

/-- A busy subscriber's calls are forwarded, and all others are not. -/
theorem reads_back_busy :
    Dialable "+3581234" ∧ ∃ forwarding,
      ((furnished.awaitedAll ⟨"/m"⟩ ⟨0⟩ [.register .busy "+3581234", .setWaiting true]).awaited
          ⟨"/m"⟩ ⟨0⟩ .queryForwarding).1 = some (.ok (.forwarding forwarding)) ∧
        forwarding.busy.number = "+3581234" ∧ forwarding.busy.enabled = true ∧
        forwarding.noReply.enabled = false ∧ forwarding.unreachable.enabled = false := by
  have hticket : ∀ answered ∈ furnished.answered, answered.1 ≠ (⟨0⟩ : Ticket) := by decide
  have hreads := reads_back ready_furnished (by rfl) (by rfl) hticket
    [.register .busy "+3581234", .setWaiting true] .queryForwarding
  obtain ⟨-, payload, hreply, forwarding, rfl, hreports⟩ := hreads.2 nofun
  exact ⟨by decide, forwarding, hreply, (hreports .busy).2.trans (by decide),
    (hreports .busy).1.trans (by decide), (hreports .noReply).1.trans (by decide),
    (hreports .unreachable).1.trans (by decide)⟩

end Service

end Telephony
