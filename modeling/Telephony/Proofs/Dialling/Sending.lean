import Telephony.Proofs.Dialling.Drains
import Telephony.Proofs.Dialling.ServiceStrings
import Telephony.Proofs.Requests.Signals

/-!
# Requests that are sent at once

A request made while none is outstanding goes to the daemon as soon as the jobs get their turns. It
goes by itself where requests go straight to the daemon. Where the requests that waited for the
interface have just been sent, their drain may not have found out yet that none is left, and the new
request goes with it.
-/

namespace Telephony

open Simulator (SimulatedModem)

/-! ### What the daemon makes of a request -/

namespace Simulator

variable {sim : Simulator} {path : ModemPath} {request : ServiceRequest} {modem : SimulatedModem}

/-- The daemon after it has served a request. -/
def served (sim : Simulator) (path : ModemPath) (modem : SimulatedModem)
    (request : ServiceRequest) : Simulator :=
  { sim with dialled := sim.dialled ++ [(path, request.code)] }.putModem path
    (modem.dial request.dialled).2

/-- The modem offers the supplementary services, and the daemon answers at once. -/
structure Answers (sim : Simulator) (path : ModemPath) (modem : SimulatedModem) : Prop where
  known : sim.modem? path = some modem
  offers : modem.offers .supplementaryServices = true
  free : sim.held = false

theorem begin_dial (hanswers : sim.Answers path modem) (code : String) :
    sim.begin path (.dial code) =
      (none, { sim with dialled := sim.dialled ++ [(path, code)] }) := by
  have hrequire : sim.require path .supplementaryServices = .ok () := by
    simp only [require, find, hanswers.known]
    exact if_pos hanswers.offers
  rw [begin, hrequire]

theorem poll_dial (hanswers : sim.Answers path modem) :
    sim.poll path (.dial request.code) = (some (.reply (.ok (modem.dial request.dialled).1)),
      sim.putModem path (modem.dial request.dialled).2) := by
  have hdial : sim.dial path request.code = (.ok (modem.dial request.dialled).1,
      sim.putModem path (modem.dial request.dialled).2) := by
    simp only [dial, find, hanswers.known, Dialled.ofText?_code]
  simp only [poll, hanswers.free, hdial, Bool.false_eq_true, if_false]

end Simulator

namespace Service

variable {service : Service Simulator} {path : ModemPath} {ticket : Ticket} {id : CallId}
  {token : Token} {request : ServiceRequest} {modem : SimulatedModem}

/-- The service after a request was served: the call is struck out, and the reply is there. -/
def replied (service : Service Simulator) (path : ModemPath) (modem : SimulatedModem)
    (request : ServiceRequest) (id : CallId) (ticket : Ticket) : Service Simulator :=
  { service with
    daemon := service.daemon.served path modem request
    board := service.board.finishCall id
    answered := service.answered ++ [(ticket, .reply (.ok (modem.dial request.dialled).1))] }

theorem advance_dial (hanswers : service.daemon.Answers path modem)
    (hunsignalled : service.board.isSignalled token = false) :
    service.advance ⟨id, path, .dial request.code, token, ticket, false⟩ =
      (none, service.replied path modem request id ticket) := by
  have hbegin : Daemon.begin path (.dial request.code) service.daemon = (none,
      { service.daemon with dialled := service.daemon.dialled ++ [(path, request.code)] }) :=
    Simulator.begin_dial hanswers request.code
  have hpoll : Daemon.poll path (.dial request.code)
      { service.daemon with dialled := service.daemon.dialled ++ [(path, request.code)] } =
        (some (.reply (.ok (modem.dial request.dialled).1)),
          service.daemon.served path modem request) :=
    Simulator.poll_dial ⟨hanswers.known, hanswers.offers, hanswers.free⟩
  simp only [advance, askAnswer, hunsignalled, hbegin, hpoll, Bool.false_eq_true, if_false]
  rfl

/-! ### A request on its way -/

/-- The request is accepted and replied to, and nothing is left to be done. -/
def Settles (service : Service Simulator) (path : ModemPath) (modem : SimulatedModem)
    (request : ServiceRequest) (ticket : Ticket) : Prop :=
  ∃ id accepted board, service.submit path request.code ticket = (.ok id, accepted) ∧
    accepted.runJobs = { service with
      daemon := service.daemon.served path modem request
      board
      jobs := []
      answered := service.answered ++ [(ticket, .reply (.ok (modem.dial request.dialled).1))] } ∧
    board.requests? path = some .direct

theorem settles_of_direct (hanswers : service.daemon.Answers path modem)
    (hknown : service.board.TokensKnown) (hidle : ∀ job ∈ service.jobs, service.board.Idle job)
    (hdirect : service.board.requests? path = some .direct) :
    service.Settles path modem request ticket := by
  obtain ⟨entry, hentry, hrequests⟩ := Switchboard.requests?_eq_some hdirect
  let call : Job := .call ⟨service.board.calls.next, path, .dial request.code,
    service.board.fresh, ticket, false⟩
  let begun := (service.board.beginCall path).2.2
  have hsubmit : service.submit path request.code ticket =
      (.ok service.board.calls.next, addJob { service with board := begun } call) := by
    simp only [submit, Switchboard.submit_of_direct hentry hrequests]
    rfl
  have hbegun : service.board.Idles begun := fun _ => .inl rfl
  let started : Service Simulator := { service with board := begun, jobs := [] }
  have hstarted : ∀ job ∈ service.jobs, started.board.Idle job := fun job hmem =>
    (hidle job hmem).of_idles hbegun
  obtain ⟨modems, hdrains, hidles⟩ := foldl_serve_idle hstarted
  let drained : Service Simulator := { started with board := { begun with modems } }
  have hcall : drained.serve call =
      drained.replied path modem request service.board.calls.next ticket := by
    have hadvance : drained.advance ⟨service.board.calls.next, path, .dial request.code,
        service.board.fresh, ticket, false⟩ =
          (none, drained.replied path modem request service.board.calls.next ticket) :=
      advance_dial hanswers hknown.fresh
    simp only [serve, turnsNeeded, runJob, call, turn, hadvance, Option.map_none]
  refine ⟨_, _, drained.board.finishCall service.board.calls.next, hsubmit, ?_,
    (hbegun.trans hidles).direct hdirect⟩
  rw [runJobs_eq]
  change (service.jobs ++ [call]).foldl serve started = _
  rw [List.foldl_append, hdrains, List.foldl_cons, hcall, List.foldl_nil]
  rfl

/-- A drain sends the one request that waits for it, and is over. -/
theorem serve_draining {epoch : UInt64} (hanswers : service.daemon.Answers path modem)
    (hfresh : service.board.isSignalled service.board.fresh = false)
    (hcall : service.board.calls.contains id = true)
    (hdraining : service.board.requests? path =
      some (.draining [⟨id, request.code, ticket⟩] epoch)) :
    ∃ board, service.serve (.drain path epoch .seeking) = { service with
        daemon := service.daemon.served path modem request
        board
        answered := service.answered ++
          [(ticket, .reply (.ok (modem.dial request.dialled).1))] } ∧
      board.requests? path = some .direct ∧
      ∀ other, path ≠ other → board.requests? other = service.board.requests? other := by
  obtain ⟨entry, hentry, hrequests⟩ := Switchboard.requests?_eq_some hdraining
  have hturns : service.turnsNeeded (.drain path epoch .seeking) = 6 := by
    simp only [turnsNeeded, hentry, Option.map_some, hrequests]
    rfl
  let emptied := { service.board with
    modems := service.board.modems.insert path { entry with requests := .draining [] epoch } }
  have htakes : service.turn (.drain path epoch .seeking) =
      (some (.drain path epoch (.taken ⟨id, request.code, ticket⟩)),
        { service with board := emptied }) := turn_takes hentry hrequests
  let armed := { emptied with
    calls := (emptied.calls.arm id emptied.fresh).2
    tokens := emptied.tokens + 1 }
  have harms : turn { service with board := emptied }
      (.drain path epoch (.taken ⟨id, request.code, ticket⟩)) =
      (some (.drain path epoch (.sending
        ⟨id, path, .dial request.code, emptied.fresh, ticket, false⟩)),
        { service with board := armed }) := turn_arms hcall
  let sent := replied { service with board := armed } path modem request id ticket
  have hsends : turn { service with board := armed } (.drain path epoch (.sending
      ⟨id, path, .dial request.code, emptied.fresh, ticket, false⟩)) =
      (some (.drain path epoch .seeking), sent) := by
    have hadvance : advance { service with board := armed }
        ⟨id, path, .dial request.code, emptied.fresh, ticket, false⟩ = (none, sent) :=
      advance_dial hanswers hfresh
    simp only [turn, hadvance]
  have hsent : sent.board.entry? path = some { entry with requests := .draining [] epoch } :=
    (Table.get?_insert service.board.modems path path _).trans (if_pos rfl)
  let freed := { entry with requests := .direct }
  refine ⟨{ sent.board with modems := sent.board.modems.insert path freed }, ?_, ?_, ?_⟩
  · simp only [serve, hturns, runJob, htakes, harms, hsends, turn_ends hsent rfl,
      isHeld, Bool.false_eq_true, if_false]
    rfl
  · rw [Switchboard.requests?_put, if_pos rfl]
  · intro other hother
    rw [Switchboard.requests?_put, if_neg hother]
    exact (service.board.requests?_put path other _).trans (if_neg hother)

/-- The request goes with the drain that had nothing to send. -/
theorem settles_of_draining {epoch : UInt64} (hanswers : service.daemon.Answers path modem)
    (hknown : service.board.TokensKnown) (hidle : ∀ job ∈ service.jobs, service.board.Idle job)
    (hdrain : .drain path epoch .seeking ∈ service.jobs)
    (hdraining : service.board.requests? path = some (.draining [] epoch)) :
    service.Settles path modem request ticket := by
  obtain ⟨entry, hentry, hrequests⟩ := Switchboard.requests?_eq_some hdraining
  obtain ⟨first, rest, hjobs, hfirst⟩ := List.eq_append_cons_of_mem hdrain
  have hwaits : entry.requests ≠ .direct := by
    rw [hrequests]
    nofun
  let id := service.board.calls.next
  let waiting := { service.board with
    calls := service.board.calls.reserve.2.add id path none
    modems := service.board.modems.insert path
      { entry with requests := .draining [⟨id, request.code, ticket⟩] epoch } }
  have hsubmit : service.submit path request.code ticket =
      (.ok id, { service with board := waiting }) := by
    simp only [submit, Switchboard.submit_of_waiting hentry hwaits, hrequests]
    rfl
  have hqueued : waiting.requests? path = some (.draining [⟨id, request.code, ticket⟩] epoch) :=
    (service.board.requests?_put path path _).trans (if_pos rfl)
  have helsewhere : ∀ other, path ≠ other →
      waiting.requests? other = service.board.requests? other := fun other hother =>
    (service.board.requests?_put path other _).trans (if_neg hother)
  -- the drains ahead of it come to nothing, as before
  let started : Service Simulator := { service with board := waiting, jobs := [] }
  have hahead : ∀ job ∈ first, started.board.Idle job := fun job hmem =>
    (hidle job (by rw [hjobs]; exact List.mem_append_left _ hmem)).of_other
      (fun hsame => hfirst (hsame ▸ hmem)) hqueued helsewhere
  obtain ⟨modems, hdrains, hidles⟩ := foldl_serve_idle hahead
  let reached : Service Simulator := { started with board := { waiting with modems } }
  have hcall : reached.board.calls.contains id = true := by
    have hadded := CallTable.get?_add service.board.calls.reserve.2 id id path none
    rw [if_pos rfl] at hadded
    exact Option.isSome_iff_exists.2 ⟨_, hadded⟩
  obtain ⟨board, hserved, hdirect, hothers⟩ := @serve_draining reached path ticket id request modem
    epoch hanswers hknown.fresh hcall (hidles.draining hqueued)
  let sent : Service Simulator := { reached with
    daemon := service.daemon.served path modem request
    board
    answered := service.answered ++ [(ticket, .reply (.ok (modem.dial request.dialled).1))] }
  -- and so do those behind it, now that nothing waits any more
  have hbehind : ∀ job ∈ rest, sent.board.Idle job := by
    intro job hmem
    refine (hidle job (by rw [hjobs]; simp [hmem])).of_idles fun other => ?_
    by_cases hother : path = other
    · subst hother
      exact .inr ⟨⟨epoch, hdraining⟩, hdirect⟩
    · have hbetween := hidles other
      rw [helsewhere other hother] at hbetween
      rw [hothers other hother]
      exact hbetween
  obtain ⟨last, hrest, hrestIdles⟩ := foldl_serve_idle hbehind
  refine ⟨id, _, { sent.board with modems := last }, hsubmit, ?_, hrestIdles.direct hdirect⟩
  rw [runJobs_eq]
  change service.jobs.foldl serve started = _
  rw [hjobs, List.foldl_append, hdrains, List.foldl_cons, hserved, hrest]

/-- The supplementary services of the modem are attached, and no request is outstanding. -/
structure Ready (service : Service Simulator) (path : ModemPath) (modem : SimulatedModem) :
    Prop where
  /-- The board has come about by its operations. -/
  reached : ∃ operations, service.board = (∅ : Switchboard).run operations
  answers : service.daemon.Answers path modem
  idle : ∀ job ∈ service.jobs, service.board.Idle job
  proceeds : service.board.requests? path = some .direct ∨
    ∃ epoch, service.board.requests? path = some (.draining [] epoch) ∧
      .drain path epoch .seeking ∈ service.jobs

theorem Ready.settles (hready : service.Ready path modem) :
    service.Settles path modem request ticket := by
  obtain ⟨⟨operations, hboard⟩, hanswers, hidle, hproceeds⟩ := hready
  have hknown : service.board.TokensKnown := hboard ▸ Switchboard.tokensKnown_run operations
  rcases hproceeds with hdirect | ⟨epoch, hdraining, hdrain⟩
  · exact settles_of_direct hanswers hknown hidle hdirect
  · exact settles_of_draining hanswers hknown hidle hdrain hdraining

end Service

end Telephony
