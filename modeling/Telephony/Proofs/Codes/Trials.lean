import Telephony.Proofs.Codes.Requests
import Telephony.Proofs.Sessions.Openings
import Telephony.Proofs.Sessions.Prompting

/-!
# Trials

Each attempt that a session makes is a trial of its codes. What a session knows of codes it has from
its trials alone: between two of them it counts nothing, and the PIN that it keeps it can only spend.
-/

namespace Telephony

variable {δ : Type}

/-- A code was told to be malformed. -/
def Failure.isMalformed : Failure → Bool
  | invalidInput _ _ => true
  | _ => false

/-! ### What reaches the daemon -/

namespace Service

variable [Daemon δ]

/-- The service has nothing against the request, so the daemon is asked. -/
def reaches (service : Service δ) (request : PinRequest) : Bool :=
  (checkPin request).isOk && (service.board.require request.path .simManager).isOk

theorem handlePin_of_reaches {service : Service δ} {request : PinRequest}
    (hreaches : service.reaches request = true) :
    service.handlePin request = ((Daemon.handlePin request service.daemon).1,
      { service with daemon := (Daemon.handlePin request service.daemon).2 }) := by
  obtain ⟨hcheck, hrequire⟩ := Bool.and_eq_true_iff.1 hreaches
  cases hchecked : checkPin request with
  | error failure =>
    rw [hchecked] at hcheck
    cases hcheck
  | ok =>
    cases hrequired : service.board.require request.path .simManager with
    | error failure =>
      rw [hrequired] at hrequire
      cases hrequire
    | ok => simp only [handlePin_eq, askSim, hchecked, ask, hrequired]

/-- What does not reach the daemon is malformed, or there is no such SIM. -/
theorem handlePin_of_not_reaches {service : Service δ} {request : PinRequest}
    (hreaches : service.reaches request = false) :
    ∃ failure, service.handlePin request = (.error failure, service) ∧
      (failure.isMalformed = true ∨ failure = .modemNotFound request.path ∨
        failure = .capabilityUnavailable request.path .simManager) := by
  by_cases hproper : request.Proper
  · have hchecked := checkPin_of_proper hproper
    cases hrequired : service.board.require request.path .simManager with
    | ok =>
      rw [reaches, hchecked, hrequired] at hreaches
      cases hreaches
    | error failure =>
      refine ⟨failure, by simp only [handlePin_eq, askSim, hchecked, ask, hrequired], .inr ?_⟩
      unfold Switchboard.require at hrequired
      split at hrequired
      · exact .inl (Except.error.inj hrequired).symm
      · split at hrequired
        · cases hrequired
        · exact .inr (Except.error.inj hrequired).symm
  · obtain ⟨reason, hrefused⟩ := handlePin_of_malformed service hproper
    exact ⟨_, hrefused, .inl rfl⟩

/-- A recorded daemon has been asked for exactly what reaches it. -/
theorem record_handlePin_eq (service : Service (Recorded δ)) (request : PinRequest) :
    (service.handlePin request).2.daemon.record = service.daemon.record ++
      if service.reaches request then
        [⟨.pin request, Recorded.failure? (service.handlePin request).1⟩]
      else [] := by
  cases hreaches : service.reaches request with
  | true =>
    rw [handlePin_of_reaches hreaches, Daemon.handlePin_recorded]
    rfl
  | false =>
    obtain ⟨failure, hrefused, -⟩ := handlePin_of_not_reaches hreaches
    rw [hrefused]
    exact (List.append_nil _).symm

end Service

namespace CodeSession

/-- The PIN that opens the SIM once the attempt was accepted. -/
def Attempt.pin : Attempt → String
  | enter _ _ pin _ => pin
  | reset _ _ _ newPin _ | change _ _ newPin _ => newPin

/-- The dialog blames its message on the code that was tried last. -/
def Message.blames : Message → Bool
  | attemptsRemaining _ | wrongCode => true
  | invalidFormat | mismatch => false

end CodeSession

open CodeSession (Attempt Message Question Cause Note)

structure Trial where
  attempt : Attempt
  /-- The daemon was asked. -/
  reached : Bool
  /-- Why the attempt was refused, by the daemon or before it was asked. -/
  refusal : Option Failure
  deriving DecidableEq, Repr

namespace CodeSession

/-! ### Between two trials -/

/-- A session that tries, without asking, the PIN that it has kept. -/
def Spends (session : CodeSession) (attempt : Attempt) : Prop :=
  ∃ path pin cause, attempt = .enter path .pin pin cause ∧ session.cachedCode = some pin

/-- How a session comes to wait for something else when it learns nothing of its codes. It makes an
attempt only if the user has answered or it spends the PIN that it kept, and it blames a code only
after a refusal. -/
structure MovesOn (session after : CodeSession) (answered refused : Prop) : Prop where
  retries : after.retries = session.retries
  kept : ∀ pin, after.cachedCode = some pin → session.cachedCode = some pin
  attempt : ∀ attempt, after.phase = .submitting attempt → answered ∨ session.Spends attempt
  refusal : ∀ attempt failure, after.phase ≠ .settlingRefusal attempt failure
  message : ∀ question attempts message, after.phase = .asking question attempts (some message) →
    message.blames = true → refused

/-- How a session goes on when it learns nothing of its codes. -/
inductive Continues (session after : CodeSession) (answered refused : Prop) : Prop where
  | stays (hretries : after.retries = session.retries)
      (hkept : after.cachedCode = session.cachedCode) (hphase : after.phase = session.phase)
  | moves (hmoves : session.MovesOn after answered refused)

section Continues

variable {session after : CodeSession} {answered refused : Prop}

theorem Continues.refl (session : CodeSession) : session.Continues session answered refused :=
  .stays rfl rfl rfl

namespace MovesOn

/-- The session is in no flow of dialogs. -/
theorem of_rest (hretries : after.retries = session.retries)
    (hkept : after.cachedCode = session.cachedCode) (hrest : after.phase.inFlow = false) :
    session.MovesOn after answered refused := by
  refine ⟨hretries, fun _ hpin => hkept ▸ hpin, fun attempt hphase => ?_,
    fun attempt failure hphase => ?_, fun question attempts message hphase => ?_⟩
  all_goals
    rw [hphase] at hrest
    cases hrest

theorem of_ask (question : Question) (attempts : Option UInt8) {message : Option Message}
    (hmessage : ∀ said, message = some said → said.blames = true → refused) :
    session.MovesOn (session.ask question attempts message) answered refused := by
  refine ⟨rfl, fun _ hpin => hpin, fun attempt hphase => ?_, fun attempt failure hphase => ?_,
    fun asked left said hphase => hmessage said (Phase.asking.inj hphase).2.2⟩
  · cases hphase
  · cases hphase

/-- The session makes the attempt that the user has completed. -/
theorem of_answered {attempt : Attempt} (hretries : after.retries = session.retries)
    (hkept : after.cachedCode = session.cachedCode) (hphase : after.phase = .submitting attempt) :
    session.MovesOn after True refused := by
  refine ⟨hretries, fun _ hpin => hkept ▸ hpin, fun _ _ => .inl trivial,
    fun other failure hother => ?_, fun question attempts message hother => ?_⟩
  all_goals
    rw [hphase] at hother
    cases hother

theorem mono {more : Prop} (hmoves : session.MovesOn after answered refused)
    (hmore : refused → more) : session.MovesOn after answered more :=
  ⟨hmoves.retries, hmoves.kept, hmoves.attempt, hmoves.refusal,
    fun question attempts message hphase hblames =>
      hmore (hmoves.message question attempts message hphase hblames)⟩

/-- What else has changed before is of no account. -/
theorem of_like {other : CodeSession} (hmoves : other.MovesOn after answered refused)
    (hretries : other.retries = session.retries) (hkept : other.cachedCode = session.cachedCode) :
    session.MovesOn after answered refused := by
  refine ⟨hmoves.retries.trans hretries, fun pin hpin => hkept ▸ hmoves.kept pin hpin,
    fun attempt hphase => (hmoves.attempt attempt hphase).imp_right ?_, hmoves.refusal,
    hmoves.message⟩
  rintro ⟨path, pin, cause, hattempt, hpin⟩
  exact ⟨path, pin, cause, hattempt, hkept ▸ hpin⟩

end MovesOn

variable (session) (board : Switchboard)

theorem finish_moves (cause : Cause) :
    session.MovesOn (session.finish cause).1 answered refused := by
  cases cause <;> exact .of_rest rfl rfl rfl

theorem statusChanged_codes (status : Sim.Status) :
    (session.statusChanged status).1.retries = session.retries ∧
      (session.statusChanged status).1.cachedCode = session.cachedCode := by
  unfold statusChanged
  split
  · exact ⟨rfl, rfl⟩
  · cases status <;> simp only [enter, and_self]
    split <;> exact ⟨rfl, rfl⟩

theorem unlock_moves (path : ModemPath) {message : Option Message} (cause : Cause)
    (hmessage : ∀ said, message = some said → said.blames = true → refused) :
    session.MovesOn (session.unlock board path message cause).1 answered refused := by
  cases hsim : board.sim? path with
  | none =>
    simp only [unlock, hsim]
    exact .of_like (finish_moves (session.enter .pinError) cause) rfl rfl
  | some sim =>
    by_cases hcode : sim.status.needsCode = true
    -- the user is asked, or the PIN that was kept is spent and so no longer kept
    · rcases unlock_of_waits message cause session hsim hcode with
        ⟨code, attempts, -, hasked⟩ | ⟨pin, hpin, htried⟩
      · rw [hasked]
        exact .of_ask _ attempts hmessage
      · rw [htried]
        refine ⟨rfl, fun _ hnone => ?_, fun attempt hphase => ?_, fun attempt failure hphase => ?_,
          fun question attempts said hphase => ?_⟩
        · cases hnone
        · exact .inr ⟨path, pin, cause, (Phase.submitting.inj hphase).symm, hpin⟩
        · cases hphase
        · cases hphase
    · by_cases hok : sim.status = .ok
      · simp only [unlock, hsim, hok]
        exact .of_like (finish_moves (session.enter .ok) cause) rfl rfl
      · rw [unlock_of_not_needsCode message cause session hsim (by simpa using hcode) hok]
        obtain ⟨hretries, hkept⟩ :=
          ({ session with lastStatus := .unknown } : CodeSession).statusChanged_codes sim.status
        exact .of_like (finish_moves _ cause) hretries hkept

theorem retry_moves (attempt : Attempt) (failure : Failure) (message : Message) :
    session.MovesOn (session.retry board attempt failure message).1 answered
      (message.blames = true) := by
  have hmessage : ∀ said, some message = some said → said.blames = true → message.blames = true :=
    fun said hsaid hblames => Option.some.inj hsaid ▸ hblames
  cases attempt with
  | enter path code pin cause => exact unlock_moves session board path cause hmessage
  | reset path code puk newPin cause => exact unlock_moves session board path cause hmessage
  | change path current newPin number =>
    simp only [retry]
    split
    · exact unlock_moves session board path _ fun said hsaid => by cases hsaid
    · exact .of_ask _ _ hmessage

theorem dismissed_moves (question : Question) :
    session.MovesOn (session.dismissed question).1 answered refused := by
  have hfinished : ∀ cause,
      session.MovesOn ((session.enter .pinError).finish cause).1 answered refused :=
    fun cause => .of_like (finish_moves (session.enter .pinError) cause) rfl rfl
  cases question with
  | unlock path code cause => exact hfinished cause
  | currentPin path number => exact .of_rest rfl rfl rfl
  | newPin renewal | confirmPin renewal first =>
    cases renewal with
    | unblock path code puk cause => exact hfinished cause
    | replace path current number => exact .of_rest rfl rfl rfl

theorem entered_moves (question : Question) (code : String) :
    session.MovesOn (session.entered question code) True refused := by
  have hsilent : ∀ said, (none : Option Message) = some said → said.blames = true → refused :=
    fun said hsaid => by cases hsaid
  cases question with
  | unlock path kind cause =>
    cases kind with
    | pin | pin2 => exact .of_answered rfl rfl rfl
    | puk | puk2 => exact .of_ask _ none hsilent
  | currentPin path number => exact .of_ask _ none hsilent
  | newPin renewal => exact .of_ask _ none hsilent
  | confirmPin renewal first =>
    by_cases hsame : first = code
    · simp only [entered, hsame, if_true]
      cases renewal <;> exact .of_answered rfl rfl rfl
    · simp only [entered, hsame, if_false]
      refine .of_ask _ none fun said hsaid hblames => ?_
      obtain rfl := Option.some.inj hsaid
      cases hblames

theorem accepted_moves (cause : Cause) :
    session.MovesOn (session.accepted cause).1 answered refused :=
  .of_like (finish_moves (session.enter .ok) cause) rfl rfl

/-! ### Steps that are no trials -/

theorem accepts_codes (path : ModemPath) : (session.accepts path).2.retries = session.retries ∧
    (session.accepts path).2.cachedCode = session.cachedCode := by
  unfold accepts
  cases session.followed <;> exact ⟨rfl, rfl⟩

theorem take_continues (note : Note) :
    session.Continues (session.take board note).1 answered refused := by
  cases note with
  | status path status =>
    obtain ⟨hretries, hkept⟩ := session.accepts_codes path
    have hphase := (session.accepts_spec path).1
    rcases hserved : session.accepts path with ⟨serves, served⟩
    rw [hserved] at hretries hkept hphase
    simp only [take, hserved]
    cases serves with
    | true =>
      obtain ⟨htold, hsaved⟩ := served.statusChanged_codes status
      exact .stays (htold.trans hretries) (hsaved.trans hkept)
        ((served.statusChanged_spec status).1.trans hphase)
    | false => exact .stays hretries hkept hphase
  | codeQuery path status =>
    obtain ⟨hretries, hkept⟩ := session.accepts_codes path
    have hphase := (session.accepts_spec path).1
    rcases hserved : session.accepts path with ⟨serves, served⟩
    rw [hserved] at hretries hkept hphase
    simp only [take, hserved]
    cases serves with
    | true =>
      dsimp only
      split
      · exact .moves (.of_rest hretries hkept rfl)
      · exact .stays hretries hkept hphase
    | false => exact .stays hretries hkept hphase
  | activated =>
    simp only [take]
    split
    · split
      · exact .moves (unlock_moves session board _ _ fun said hsaid => by cases hsaid)
      · exact .refl session
    · exact .refl session
  | changeCode number =>
    simp only [take]
    split
    · exact .moves (.of_ask _ _ fun said hsaid => by cases hsaid)
    · exact .refl session

theorem answer_continues (code : Option String) :
    session.Continues (session.answer code).1 True refused := by
  unfold answer
  split
  · exact .moves (entered_moves session _ _)
  · exact .moves (dismissed_moves session _)
  · exact .refl session

/-- Only after a refusal does a session blame the code as it goes on. -/
theorem settled_continues : session.Continues (session.settled board).1 answered
    (∃ attempt failure, session.phase = .settlingRefusal attempt failure) := by
  unfold settled
  split
  · exact .moves (unlock_moves session board _ _ fun said hsaid => by cases hsaid)
  · next attempt failure hphase =>
    have hmoves : session.MovesOn
        (session.retry board attempt failure (refusalMessage board attempt)).1 answered _ :=
      retry_moves session board attempt failure (refusalMessage board attempt)
    exact .moves (hmoves.mono fun _ => ⟨attempt, failure, hphase⟩)
  · exact .refl session

theorem commandEnded_continues :
    session.Continues session.commandEnded.1 answered refused := by
  unfold commandEnded
  split
  · exact .moves (accepted_moves session _)
  · exact .refl session

/-! ### Trials -/

/-- What a session learns from a trial. -/
inductive Learns (session after : CodeSession) (trial : Trial) : Prop where
  /-- The session keeps the code, and ends its flow or runs the user's command. -/
  | accepted (haccepted : trial.refusal = none) (hretries : after.retries = session.retries)
      (hkept : after.cachedCode = some trial.attempt.pin)
      (hphase : after.phase = .idle ∨ ∃ command cause, after.phase = .runningCommand command cause)
  /-- The session goes on as if it had not tried. -/
  | malformed {failure : Failure} (hrefused : trial.refusal = some failure)
      (hmalformed : failure.isMalformed = true) (hmoves : session.MovesOn after False False)
  /-- The refusal counts, and the session forgets the code that it kept. -/
  | counted {failure : Failure} (hrefused : trial.refusal = some failure)
      (hcounts : failure.isMalformed = false) (hretries : after.retries = session.retries + 1)
      (hforgotten : after.cachedCode = none)
      (hphase : after.phase = .settlingRefusal trial.attempt failure)

theorem unlocked_codes (pin : String) (cause : Cause) :
    (session.unlocked pin cause).1.retries = session.retries ∧
      (session.unlocked pin cause).1.cachedCode = some pin ∧
      ((session.unlocked pin cause).1.phase = .idle ∨
        ∃ command cause', (session.unlocked pin cause).1.phase = .runningCommand command cause') := by
  unfold unlocked
  dsimp only
  split
  · exact ⟨rfl, rfl, .inr ⟨_, _, rfl⟩⟩
  · cases cause <;> exact ⟨rfl, rfl, .inl rfl⟩

theorem attempted_learns {attempt : Attempt} (hphase : session.phase = .submitting attempt)
    (reached : Bool) (result : Except Failure Unit) :
    session.Learns (session.attempted board result).1
      ⟨attempt, reached, Recorded.failure? result⟩ := by
  unfold attempted
  rw [hphase]
  cases result with
  | error failure =>
    cases failure with
    | invalidInput field reason =>
      have hmoves : session.MovesOn
          (session.retry board attempt (.invalidInput field reason) .invalidFormat).1 False _ :=
        retry_moves session board attempt (.invalidInput field reason) .invalidFormat
      exact .malformed rfl rfl (hmoves.mono fun hblames => by cases hblames)
    | _ => exact .counted rfl rfl rfl rfl rfl
  | ok =>
    cases attempt with
    | enter path code pin cause =>
      obtain ⟨hretries, hkept, hended⟩ := session.unlocked_codes pin cause
      exact .accepted rfl hretries hkept hended
    | reset path code puk newPin cause =>
      obtain ⟨hretries, hkept, hended⟩ := session.unlocked_codes newPin cause
      exact .accepted rfl hretries hkept hended
    | change path current newPin number => exact .accepted rfl rfl rfl (.inl rfl)

end Continues

end CodeSession

/-! ### The trials of a run -/

namespace Dialogue

variable [Daemon δ] {dialogue : Dialogue δ}

/-- The trial that is made in a turn. -/
def trial? (dialogue : Dialogue δ) : Turn δ → Option Trial
  | .submit =>
    match dialogue.session.phase with
    | .submitting attempt => some
      { attempt
        reached := dialogue.service.reaches attempt.request
        refusal := Recorded.failure? (dialogue.service.attempt attempt).1 }
    | _ => none
  | _ => none

/-- The trials of a run, the earliest first. -/
def trials : Dialogue δ → List (Turn δ) → List Trial
  | _, [] => []
  | dialogue, turn :: rest => (dialogue.trial? turn).toList ++ (dialogue.step turn).trials rest

theorem trials_append (dialogue : Dialogue δ) (first rest : List (Turn δ)) :
    dialogue.trials (first ++ rest) =
      dialogue.trials first ++ (dialogue.run first).trials rest := by
  induction first generalizing dialogue with
  | nil => rfl
  | cons turn first ih =>
    rw [List.cons_append, trials, trials, ih, List.append_assoc]
    rfl

theorem trials_snoc (dialogue : Dialogue δ) (turns : List (Turn δ)) (turn : Turn δ) :
    dialogue.trials (turns ++ [turn]) =
      dialogue.trials turns ++ ((dialogue.run turns).trial? turn).toList := by
  rw [trials_append, trials, trials, List.append_nil]

/-- A trial is of the attempt that the session waits to have made, and the service says what comes of
it. -/
theorem trial_spec {turn : Turn δ} {trial : Trial} (htrial : dialogue.trial? turn = some trial) :
    trial.reached = dialogue.service.reaches trial.attempt.request ∧
      trial.refusal =
        Recorded.failure? (dialogue.service.handlePin trial.attempt.request).1 := by
  unfold trial? at htrial
  split at htrial
  · split at htrial
    · next attempt hphase =>
      obtain rfl := Option.some.inj htrial
      exact ⟨rfl, by rw [← Service.attempt_eq]⟩
    · cases htrial
  · cases htrial

/-- Only the daemon accepts a code. -/
theorem reached_of_accepted {turn : Turn δ} {trial : Trial}
    (htrial : dialogue.trial? turn = some trial) (haccepted : trial.refusal = none) :
    trial.reached = true := by
  obtain ⟨hreached, hrefusal⟩ := trial_spec htrial
  by_contra hunreached
  obtain ⟨failure, hrefused, -⟩ :=
    Service.handlePin_of_not_reaches (hreached ▸ Bool.not_eq_true _ ▸ hunreached)
  rw [hrefused, haccepted] at hrefusal
  cases hrefusal

/-- In a turn a session learns from a trial, or goes on without one. -/
theorem learns_or_continues (dialogue : Dialogue δ) (turn : Turn δ) :
    (∃ trial, dialogue.trial? turn = some trial ∧
        dialogue.session.Learns (dialogue.step turn).session trial) ∨
      dialogue.trial? turn = none ∧
        dialogue.session.Continues (dialogue.step turn).session (turn.answers = true)
          (∃ attempt failure, dialogue.session.phase = .settlingRefusal attempt failure) := by
  cases turn with
  | submit =>
    cases hphase : dialogue.session.phase with
    | submitting attempt =>
      have htrial : dialogue.trial? .submit = some
          ⟨attempt, dialogue.service.reaches attempt.request,
            Recorded.failure? (dialogue.service.attempt attempt).1⟩ := by
        simp only [trial?, hphase]
      refine .inl ⟨_, htrial, ?_⟩
      rw [step_submit hphase]
      exact CodeSession.attempted_learns dialogue.session dialogue.board hphase _ _
    | _ =>
      refine .inr ⟨by simp only [trial?, hphase], ?_⟩
      simp only [step, hphase]
      exact .refl _
  | next =>
    refine .inr ⟨rfl, ?_⟩
    cases hnext : dialogue.session.next dialogue.board with
    | none =>
      simp only [step, hnext]
      exact .refl _
    | some next =>
      simp only [step, hnext]
      unfold CodeSession.next at hnext
      split at hnext
      · next note notes hidle hnotes =>
        obtain rfl := Option.some.inj hnext
        rcases CodeSession.take_continues { dialogue.session with notes } dialogue.board note with
          ⟨hretries, hkept, hphase⟩ | hmoves
        · exact .stays hretries hkept hphase
        · exact .moves (.of_like hmoves rfl rfl)
      · cases hnext
  | answer code =>
    have hanswered : (Turn.answer code : Turn δ).answers = true := rfl
    refine .inr ⟨rfl, ?_⟩
    simp only [hanswered]
    exact CodeSession.answer_continues dialogue.session code
  | settled =>
    refine .inr ⟨rfl, ?_⟩
    simp only [step]
    split
    · exact CodeSession.settled_continues dialogue.session dialogue.board
    · exact .refl _
  | commandEnded => exact .inr ⟨rfl, CodeSession.commandEnded_continues dialogue.session⟩
  | setActive on =>
    refine .inr ⟨rfl, ?_⟩
    simp only [step, CodeSession.setActive]
    split <;> exact .stays rfl rfl rfl
  | process event | flush | hear | daemon next | changeCode number | checkEmergency digits =>
    exact .inr ⟨rfl, .stays rfl rfl rfl⟩

/-- What holds of a new session that has tried nothing, and is kept by each trial and by whatever is
between two of them, holds of every session and its trials. -/
theorem history_run {Holds : CodeSession → List Trial → Prop} {daemon : δ} {options : CodeOptions}
    {startup : Bool} (hopened : dialogue.Opened daemon options startup)
    (hnew : ∀ session, session.retries = 0 → session.cachedCode = none → session.phase = .idle →
      Holds session [])
    (hlearns : ∀ session after past trial, Holds session past → session.Learns after trial →
      (trial.refusal = none → trial.reached = true) → Holds after (past ++ [trial]))
    (hcontinues : ∀ session after past answered, Holds session past →
      session.Continues after answered
        (∃ attempt failure, session.phase = .settlingRefusal attempt failure) → Holds after past)
    (turns : List (Turn δ)) : Holds (dialogue.run turns).session (dialogue.trials turns) := by
  induction turns using List.reverseRecOn with
  | nil =>
    obtain ⟨board, subscriptions, hsession⟩ := Service.new_of_opened hopened
    change Holds dialogue.session []
    rw [hsession]
    exact hnew _ rfl rfl rfl
  | append_singleton turns turn ih =>
    rw [trials_snoc, run_append]
    change Holds ((dialogue.run turns).step turn).session _
    -- there is at most one trial in a turn, so the history grows by that trial or not at all
    rcases (dialogue.run turns).learns_or_continues turn with
      ⟨trial, htrial, hlearned⟩ | ⟨hnone, hquiet⟩
    · rw [htrial]
      exact hlearns _ _ _ trial ih hlearned (reached_of_accepted htrial)
    · rw [hnone, Option.toList_none, List.append_nil]
      exact hcontinues _ _ _ _ ih hquiet

end Dialogue

end Telephony
