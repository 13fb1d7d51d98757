import Telephony.Proofs.Lifecycle.Restart
import Telephony.Proofs.Operations

/-!
# Drains and their turns

What one turn makes of a drain, and what giving all jobs their turns makes of the service. A drain
that finds nothing to send ends without a trace, so a row of such drains can be left out.
-/

namespace Telephony

/-! ### Drains that have nothing to send -/

namespace Switchboard

variable {board middle after : Switchboard} {path : ModemPath} {epoch : UInt64}

/-- How requests of the modem proceed. -/
def requests? (board : Switchboard) (path : ModemPath) : Option Requests :=
  (board.entry? path).map (·.requests)

/-- The job is a drain that finds nothing to send. -/
def Idle (board : Switchboard) : Job → Prop
  | .drain path epoch .seeking =>
    ∀ queue, board.requests? path = some (.draining queue epoch) → queue = []
  | _ => False

/-- Nothing has changed but that a drain with nothing to send may be over. -/
def Idles (board after : Switchboard) : Prop :=
  ∀ path, after.requests? path = board.requests? path ∨
    (∃ epoch, board.requests? path = some (.draining [] epoch)) ∧
      after.requests? path = some .direct

theorem Idles.refl (board : Switchboard) : board.Idles board := fun _ => .inl rfl

theorem Idles.direct (hidles : board.Idles after) (hdirect : board.requests? path = some .direct) :
    after.requests? path = some .direct := by
  rcases hidles path with hsame | ⟨-, hdone⟩
  · exact hsame.trans hdirect
  · exact hdone

theorem Idles.draining {request : QueuedRequest} {rest : List QueuedRequest}
    (hidles : board.Idles after)
    (hdraining : board.requests? path = some (.draining (request :: rest) epoch)) :
    after.requests? path = some (.draining (request :: rest) epoch) := by
  rcases hidles path with hsame | ⟨⟨other, hother⟩, -⟩
  · exact hsame.trans hdraining
  · rw [hdraining] at hother
    cases hother

theorem Idles.trans (hfirst : board.Idles middle) (hsecond : middle.Idles after) :
    board.Idles after := by
  intro path
  rcases hfirst path with hsame | ⟨hdrained, hdirect⟩
  · rw [← hsame]
    exact hsecond path
  · exact .inr ⟨hdrained, hsecond.direct hdirect⟩

theorem Idle.of_idles {job : Job} (hidle : board.Idle job) (hidles : board.Idles after) :
    after.Idle job := by
  unfold Idle at hidle ⊢
  split at hidle
  · next path epoch =>
    intro queue hdraining
    rcases hidles path with hsame | ⟨-, hdirect⟩
    · exact hidle queue (hsame ▸ hdraining)
    · rw [hdirect] at hdraining
      cases hdraining
  · exact hidle.elim

/-- Only the drain that sends for the modem learns of the requests that now wait there. -/
theorem Idle.of_other {job : Job} {queue : List QueuedRequest} (hidle : board.Idle job)
    (hother : job ≠ .drain path epoch .seeking)
    (hdraining : after.requests? path = some (.draining queue epoch))
    (helsewhere : ∀ other, path ≠ other → after.requests? other = board.requests? other) :
    after.Idle job := by
  unfold Idle at hidle ⊢
  split at hidle
  · next other current =>
    intro waiting hwaiting
    by_cases hpath : path = other
    · subst hpath
      rw [hdraining] at hwaiting
      cases hwaiting
      exact absurd rfl hother
    · exact hidle waiting (helsewhere other hpath ▸ hwaiting)
  · exact hidle.elim

theorem requests?_eq_some {requests : Requests} (hrequests : board.requests? path = some requests) :
    ∃ entry, board.entry? path = some entry ∧ entry.requests = requests :=
  Option.map_eq_some_iff.1 hrequests

theorem requests?_put (board : Switchboard) (path other : ModemPath) (entry : Entry) :
    ({ board with modems := board.modems.insert path entry } : Switchboard).requests? other =
      if path = other then some entry.requests else board.requests? other := by
  unfold requests?
  rw [Switchboard.entry?, Table.get?_insert]
  split <;> rfl

/-- A drain that finds nothing to send is over. -/
theorem nextQueued_of_idle (hidle : board.Idle (.drain path epoch .seeking)) :
    (board.nextQueued path epoch).1 = none ∧ board.Idles (board.nextQueued path epoch).2 := by
  by_cases hdrain : board.drain? path = some epoch
  · obtain ⟨entry, queue, hentry, hdraining⟩ := drain?_eq_some hdrain
    have hrequests : board.requests? path = some (.draining queue epoch) := by
      rw [requests?, hentry, Option.map_some, hdraining]
    obtain rfl := hidle queue hrequests
    rw [nextQueued_of_drained hentry hdraining]
    refine ⟨rfl, fun other => ?_⟩
    rw [requests?_put]
    by_cases hother : path = other
    · subst hother
      exact .inr ⟨⟨epoch, hrequests⟩, if_pos rfl⟩
    · exact .inl (if_neg hother)
  · rw [nextQueued_of_drain?_ne hdrain]
    exact ⟨rfl, .refl board⟩

end Switchboard

namespace Service

variable {δ : Type} [Daemon δ] {service : Service δ} {path : ModemPath} {epoch : UInt64}
  {entry : Entry} {request : QueuedRequest} {rest : List QueuedRequest} {job : Job}

/-! ### The turns of a drain -/

theorem turn_takes (hentry : service.board.entry? path = some entry)
    (hdraining : entry.requests = .draining (request :: rest) epoch) :
    service.turn (.drain path epoch .seeking) = (some (.drain path epoch (.taken request)),
      { service with
        board := { service.board with
          modems := service.board.modems.insert path
            { entry with requests := .draining rest epoch } } }) := by
  simp only [turn, Switchboard.nextQueued_of_draining hentry hdraining, Option.map_some]

theorem turn_arms (hcall : service.board.calls.contains request.id = true) :
    service.turn (.drain path epoch (.taken request)) =
      (some (.drain path epoch (.sending ⟨request.id, path, .dial request.code,
          service.board.fresh, request.ticket, false⟩)),
        { service with
          board := { service.board with
            calls := (service.board.calls.arm request.id service.board.fresh).2
            tokens := service.board.tokens + 1 } }) := by
  have harm : service.board.arm request.id = (some service.board.fresh,
      { service.board with
        calls := (service.board.calls.arm request.id service.board.fresh).2
        tokens := service.board.tokens + 1 }) := if_pos hcall
  simp only [turn, harm]

theorem turn_ends (hentry : service.board.entry? path = some entry)
    (hdrained : entry.requests = .draining [] epoch) :
    service.turn (.drain path epoch .seeking) = (none,
      { service with
        board := { service.board with
          modems := service.board.modems.insert path { entry with requests := .direct } } }) := by
  simp only [turn, Switchboard.nextQueued_of_drained hentry hdrained, Option.map_none]

/-! ### The turns of all jobs -/

/-- What giving a job its turns makes of the service. -/
def serve (service : Service δ) (job : Job) : Service δ :=
  match runJob (service.turnsNeeded job) service job with
  | (some job, service) => service.addJob job
  | (none, service) => service

theorem runJobs_eq (service : Service δ) :
    service.runJobs = service.jobs.foldl serve { service with jobs := [] } := rfl

theorem serve_idle (hidle : service.board.Idle job) :
    ∃ modems, service.serve job = { service with board := { service.board with modems } } ∧
      service.board.Idles { service.board with modems } := by
  unfold Switchboard.Idle at hidle
  split at hidle
  · next path epoch =>
    obtain ⟨hnone, hidles⟩ := Switchboard.nextQueued_of_idle hidle
    obtain ⟨modems, hboard⟩ := service.board.nextQueued_eq path epoch
    rw [hboard] at hidles
    refine ⟨modems, ?_, hidles⟩
    simp only [serve, turnsNeeded, runJob, turn, hnone, hboard, Option.map_none]
  · exact hidle.elim

theorem foldl_serve_idle {jobs : List Job} (hidle : ∀ job ∈ jobs, service.board.Idle job) :
    ∃ modems, jobs.foldl serve service = { service with board := { service.board with modems } } ∧
      service.board.Idles { service.board with modems } := by
  induction jobs generalizing service with
  | nil => exact ⟨service.board.modems, rfl, .refl _⟩
  | cons job rest ih =>
    obtain ⟨modems, hserved, hidles⟩ := serve_idle (hidle job List.mem_cons_self)
    rw [List.foldl_cons, hserved]
    obtain ⟨last, hrest, hrestIdles⟩ := @ih { service with board := { service.board with modems } }
      fun other hmem => (hidle other (List.mem_cons_of_mem job hmem)).of_idles hidles
    exact ⟨last, hrest, hidles.trans hrestIdles⟩

theorem leads_runJob (fuel : Nat) (service : Service δ) (job : Job) :
    service.Leads (runJob fuel service job).2 := by
  induction fuel generalizing service job with
  | zero => exact .of_board rfl
  | succ fuel ih =>
    have hturn := service.leads_turn job
    unfold runJob
    rcases hgoes : service.turn job with ⟨_ | rest, after⟩ <;> rw [hgoes] at hturn
    · exact hturn
    · simp only
      split
      · exact hturn
      · exact hturn.trans (ih after rest)

theorem leads_start (service : Service δ) : service.Leads service.start.2 := by
  unfold start
  split
  · exact .of_board rfl
  · split
    · exact .of_board rfl
    · next modems daemon hconnected =>
      have hconnect : service.Leads { service with daemon } := .of_board rfl
      have hwelcomed : service.Leads (welcome { service with daemon } modems) :=
        welcome_keeps service.Leads
          (fun middle path properties hleads => hleads.trans (middle.leads_process _)) hconnect modems
      exact hwelcomed.trans (leads_flush _)

theorem leads_runJobs (service : Service δ) : service.Leads service.runJobs := by
  have hfold : ∀ (jobs : List Job) (before : Service δ), before.Leads (jobs.foldl serve before) := by
    intro jobs
    induction jobs with
    | nil => exact fun before => .of_board rfl
    | cons job rest ih =>
      intro before
      have hjob := leads_runJob (before.turnsNeeded job) before job
      refine Leads.trans ?_ (ih (before.serve job))
      unfold serve
      split <;> next hran => rw [hran] at hjob; exact hjob
  exact Leads.trans (.of_board rfl) (hfold service.jobs { service with jobs := [] })

end Service

end Telephony
