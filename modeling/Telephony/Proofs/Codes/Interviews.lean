import Telephony.Proofs.Codes.Requests
import Telephony.Proofs.Sessions.Openings
import Telephony.Proofs.Sessions.Prompting

/-!
# Interviews

A code session on a recorded daemon, among whoever else asks for something to be done with the codes
of a SIM, and the trace of what has happened: the dialogs, their answers, and the requests that have
reached the daemon.
-/

namespace Telephony

/-- The code that the request puts in the place of another. -/
def PinRequest.replacement? : PinRequest → Option String
  | reset _ _ _ newPin | change _ _ _ newPin => some newPin
  | enter _ _ _ | lock _ _ _ | unlock _ _ _ => none

def Demand.pin? : Demand → Option PinRequest
  | pin request => some request
  | _ => none

namespace CodeSession

/-- A phase that does not rest on what the user answered for a new PIN. -/
def Phase.Plain : Phase → Prop
  | .asking (.newPin _) _ _ | .asking (.confirmPin _ _) _ _ => False
  | .submitting attempt => attempt.request.replacement? = none
  | _ => True

variable {board : Switchboard} {session : CodeSession}

theorem plain_of_idle (hidle : session.phase = .idle) : session.phase.Plain := by
  rw [hidle]
  trivial

theorem finish_plain (session : CodeSession) (cause : Cause) :
    (session.finish cause).1.phase.Plain := plain_of_idle (finish_idle session cause)

theorem unlock_plain (board : Switchboard) (session : CodeSession) (path : ModemPath)
    (message : Option Message) (cause : Cause) :
    (session.unlock board path message cause).1.phase.Plain := by
  unfold unlock
  split
  · exact finish_plain _ cause
  · split
    · split
      · rfl
      · trivial
    · trivial
    · trivial
    · exact finish_plain _ cause
    · exact finish_plain _ cause

theorem retry_plain (board : Switchboard) (session : CodeSession) (attempt : Attempt)
    (failure : Failure) (message : Message) :
    (session.retry board attempt failure message).1.phase.Plain := by
  unfold retry
  split
  · exact unlock_plain board session _ _ _
  · exact unlock_plain board session _ _ _
  · split
    · exact unlock_plain board session _ _ _
    · trivial

theorem accepted_plain (session : CodeSession) (cause : Cause) :
    (session.accepted cause).1.phase.Plain := finish_plain _ cause

theorem unlocked_plain (session : CodeSession) (pin : String) (cause : Cause) :
    (session.unlocked pin cause).1.phase.Plain := by
  unfold unlocked
  dsimp only
  split
  · trivial
  · exact accepted_plain _ cause

theorem attempted_plain {attempt : Attempt} (hphase : session.phase = .submitting attempt)
    (board : Switchboard) (result : Except Failure Unit) :
    (session.attempted board result).1.phase.Plain := by
  unfold attempted
  rw [hphase]
  cases result with
  | error failure =>
    dsimp only
    unfold refused
    split
    · exact retry_plain board session _ _ _
    · trivial
  | ok =>
    cases attempt with
    | enter path code pin cause => exact unlocked_plain session _ _
    | reset path code puk newPin cause => exact unlocked_plain session _ _
    | change path current newPin number => trivial

theorem settled_plain (board : Switchboard) (session : CodeSession) :
    (session.settled board).1.phase.Plain ∨ (session.settled board).1.phase = session.phase := by
  unfold settled
  split
  · exact .inl (unlock_plain board session _ _ _)
  · exact .inl (retry_plain board session _ _ _)
  · exact .inr rfl

theorem commandEnded_plain (session : CodeSession) :
    session.commandEnded.1.phase.Plain ∨ session.commandEnded.1.phase = session.phase := by
  unfold commandEnded
  split
  · exact .inl (accepted_plain session _)
  · exact .inr rfl

theorem plain_of_rest {phase : Phase} (hrest : phase.inFlow = false) : phase.Plain := by
  cases phase with
  | idle | settlingQuery path => trivial
  | _ => cases hrest

theorem take_plain (board : Switchboard) (hidle : session.phase = .idle) (note : Note) :
    (session.take board note).1.phase.Plain := by
  cases note with
  | status path status => exact plain_of_rest (take_of_path board hidle rfl).1
  | codeQuery path status => exact plain_of_rest (take_of_path board hidle rfl).1
  | activated =>
    simp only [take]
    split
    · split
      · exact unlock_plain board session _ none _
      · exact plain_of_idle hidle
    · exact plain_of_idle hidle
  | changeCode number =>
    simp only [take]
    split
    · trivial
    · exact plain_of_idle hidle

end CodeSession

open CodeSession (Dialog Kind Question Renewal Attempt)

variable {δ : Type} [Daemon δ]

/-- A turn that does not answer a dialog makes no use of an answer. -/
theorem Dialogue.plain_of_not_answers (dialogue : Dialogue δ) {turn : Turn δ}
    (hanswers : turn.answers = false) :
    (dialogue.step turn).session.phase.Plain ∨
      (dialogue.step turn).session.phase = dialogue.session.phase := by
  cases turn with
  | answer code => cases hanswers
  | next =>
    cases hnext : dialogue.session.next dialogue.board with
    | none => exact .inr (by simp only [step, hnext])
    | some next =>
      simp only [step, hnext]
      unfold CodeSession.next at hnext
      split at hnext
      · rename_i note notes hidle hnotes
        obtain rfl := Option.some.inj hnext
        have hwithout : ({ dialogue.session with notes } : CodeSession).phase = .idle := hidle
        exact .inl (CodeSession.take_plain dialogue.board hwithout note)
      · cases hnext
  | submit =>
    cases hphase : dialogue.session.phase with
    | submitting attempt =>
      rw [step_submit hphase]
      exact .inl (CodeSession.attempted_plain hphase dialogue.board _)
    | _ => exact .inr (by simp only [step, hphase])
  | settled =>
    simp only [step]
    split
    · exact CodeSession.settled_plain dialogue.board dialogue.session
    · exact .inr rfl
  | commandEnded => exact CodeSession.commandEnded_plain dialogue.session
  | setActive on =>
    refine .inr ?_
    simp only [step, CodeSession.setActive]
    split <;> rfl
  | process event | flush | hear | daemon next | changeCode number | checkEmergency digits =>
    exact .inr rfl

/-! ### Traces -/

/-- What happens between a session, its user, the daemon, and whoever else makes requests. -/
inductive Happening where
  /-- The session opens a dialog. -/
  | shown (dialog : Dialog)
  /-- The dialog that is up is answered, or dismissed. -/
  | answered (code : Option String)
  /-- A request of the session reaches the daemon. -/
  | submitted (request : PinRequest)
  /-- A request made past the session reaches the daemon. -/
  | requested (request : PinRequest)
  deriving DecidableEq

namespace Happening

def ofDialog : Happening → Bool
  | shown _ | answered _ => true
  | submitted _ | requested _ => false

def request? : Happening → Option PinRequest
  | submitted request | requested request => some request
  | shown _ | answered _ => none

/-- What a trace has of dialogs. -/
def dialogs (past : List Happening) : List Happening := past.filter ofDialog

section Dialogs

variable (past : List Happening)

@[simp] theorem dialogs_shown (dialog : Dialog) :
    dialogs (past ++ [shown dialog]) = dialogs past ++ [shown dialog] := List.filter_append ..

@[simp] theorem dialogs_answered (code : Option String) :
    dialogs (past ++ [answered code]) = dialogs past ++ [answered code] := List.filter_append ..

theorem dialogs_append_of_requests {more : List Happening}
    (hrequests : ∀ happening ∈ more, happening.ofDialog = false) :
    dialogs (past ++ more) = dialogs past := by
  have hnone : more.filter ofDialog = [] :=
    List.filter_eq_nil_iff.2 fun happening hmem => by simp [hrequests happening hmem]
  rw [dialogs, List.filter_append, hnone, List.append_nil]
  rfl

end Dialogs

/-- The last two dialogs asked for a new PIN and for the same once more, and both were answered by
that one. -/
def Confirms (newPin : String) (past : List Happening) : Prop :=
  ∃ earlier first second, first.kind = .newPin ∧ second.kind = .confirmPin ∧
    dialogs past =
      earlier ++ [shown first, answered (some newPin), shown second, answered (some newPin)]

end Happening

/-- A dialogue on a recorded daemon, and what has happened. -/
structure Interview (δ : Type) where
  dialogue : Dialogue (Recorded δ)
  past : List Happening

namespace Interview

open Happening (dialogs Confirms)

/-- What may happen next in an interview. -/
inductive Move (δ : Type) where
  | turn (turn : Turn δ)
  | request (request : PinRequest)

/-- The requests that the daemon has got since. -/
def arrivals (before after : Recorded δ) : List PinRequest :=
  (after.record.drop before.record.length).filterMap (·.demand.pin?)

/-- A turn, in which the daemon may change as it likes but its record stays. -/
def recordedTurn (interview : Interview δ) (turn : Turn δ) : Turn (Recorded δ) :=
  turn.map fun daemon => ⟨daemon, interview.dialogue.service.daemon.record⟩

/-- The answer that the dialog which is up gets. -/
def answer? (interview : Interview δ) : Turn δ → Option (Option String)
  | .answer code => interview.dialogue.session.phase.dialog?.map fun _ => code
  | _ => none

def step (interview : Interview δ) : Move δ → Interview δ
  | .turn turn =>
    let recorded := interview.recordedTurn turn
    let dialogue := interview.dialogue.step recorded
    ⟨dialogue, interview.past ++ (interview.answer? turn).toList.map .answered ++
      (arrivals interview.dialogue.service.daemon dialogue.service.daemon).map .submitted ++
      (interview.dialogue.opens recorded).toList.map .shown⟩
  | .request request =>
    let service := (interview.dialogue.service.handlePin request).2
    ⟨{ interview.dialogue with service }, interview.past ++
      (arrivals interview.dialogue.service.daemon service.daemon).map .requested⟩

def run (interview : Interview δ) (moves : List (Move δ)) : Interview δ := moves.foldl step interview

/-! ### What reaches the daemon -/

omit [Daemon δ] in
theorem arrivals_append {before after : Recorded δ} {more : List Asked}
    (hrecord : after.record = before.record ++ more) :
    arrivals before after = more.filterMap (·.demand.pin?) := by
  rw [arrivals, hrecord, List.drop_left]

theorem pins_of_loading {more : List Asked}
    (hloading : ∀ asked ∈ more, asked.demand.IsOfLoading) :
    more.filterMap (·.demand.pin?) = [] := by
  rw [List.filterMap_eq_nil_iff]
  intro asked hmem
  have hdemand := hloading asked hmem
  cases hasked : asked.demand <;> rw [hasked] at hdemand <;> first | rfl | cases hdemand

theorem arrivals_handlePin (service : Service (Recorded δ)) (request : PinRequest) :
    arrivals service.daemon (service.handlePin request).2.daemon = [] ∨
      request.Proper ∧
        arrivals service.daemon (service.handlePin request).2.daemon = [request] := by
  rcases service.record_handlePin request with hsame | ⟨hproper, refusal, hasked⟩
  · refine .inl ?_
    rw [arrivals_append (hsame.trans (List.append_nil _).symm), List.filterMap_nil]
  · exact .inr ⟨hproper, by rw [arrivals_append hasked]; rfl⟩

/-- In a turn only the attempt of the session reaches the daemon, if its codes are proper. -/
theorem record_turn (interview : Interview δ) (turn : Turn δ) :
    ∃ more, (interview.dialogue.step (interview.recordedTurn turn)).service.daemon.record =
        interview.dialogue.service.daemon.record ++ more ∧
      (more.filterMap (·.demand.pin?) = [] ∨
        ∃ attempt, interview.dialogue.session.phase = .submitting attempt ∧
          attempt.request.Proper ∧ more.filterMap (·.demand.pin?) = [attempt.request]) := by
  have hsame : ∀ record : List Asked, record = interview.dialogue.service.daemon.record →
      ∃ more, record = interview.dialogue.service.daemon.record ++ more ∧
        (more.filterMap (·.demand.pin?) = [] ∨
          ∃ attempt, interview.dialogue.session.phase = .submitting attempt ∧
            attempt.request.Proper ∧ more.filterMap (·.demand.pin?) = [attempt.request]) :=
    fun record hrecord => ⟨[], hrecord.trans (List.append_nil _).symm, .inl rfl⟩
  cases turn with
  | submit =>
    cases hphase : interview.dialogue.session.phase with
    | submitting attempt =>
      have hservice : (interview.dialogue.step .submit).service =
          (interview.dialogue.service.handlePin attempt.request).2 := by
        simp only [Dialogue.step, hphase, Service.attempt_eq]
      change ∃ more, (interview.dialogue.step .submit).service.daemon.record = _ ∧ _
      rw [hservice]
      rcases interview.dialogue.service.record_handlePin attempt.request with
        hnone | ⟨hproper, refusal, hasked⟩
      · exact ⟨[], hnone.trans (List.append_nil _).symm, .inl rfl⟩
      · exact ⟨_, hasked, .inr ⟨attempt, rfl, hproper, rfl⟩⟩
    | _ =>
      rw [← hphase]
      refine hsame _ ?_
      simp only [recordedTurn, Turn.map, Dialogue.step, hphase]
  | process event =>
    obtain ⟨more, hmore, hloading⟩ := interview.dialogue.service.loads_process event
    exact ⟨more, hmore, .inl (pins_of_loading hloading)⟩
  | flush => exact hsame _ (congrArg Recorded.record interview.dialogue.service.daemon_flush)
  | next =>
    refine hsame _ ?_
    simp only [recordedTurn, Turn.map, Dialogue.step]
    split <;> rfl
  | settled =>
    refine hsame _ ?_
    simp only [recordedTurn, Turn.map, Dialogue.step]
    split <;> rfl
  | answer code | commandEnded | hear | daemon state | setActive on | changeCode number
  | checkEmergency digits => exact hsame _ rfl

/-! ### What is recorded changes nothing -/

end Interview

namespace Dialogue

omit [Daemon δ] in
/-- The dialogue without the record. -/
def forget (dialogue : Dialogue (Recorded δ)) : Dialogue δ :=
  ⟨dialogue.service.forget, dialogue.session, dialogue.number, dialogue.told⟩

theorem forget_step (dialogue : Dialogue (Recorded δ)) (turn : Turn δ) (record : List Asked) :
    (dialogue.step (turn.map (⟨·, record⟩))).forget = dialogue.forget.step turn := by
  cases turn with
  | next =>
    have hnext : dialogue.forget.session.next dialogue.forget.board =
        dialogue.session.next dialogue.board := rfl
    simp only [Turn.map, step, hnext]
    cases dialogue.session.next dialogue.board <;> rfl
  | submit =>
    have hphase : dialogue.forget.session.phase = dialogue.session.phase := rfl
    simp only [Turn.map, step, hphase]
    cases dialogue.session.phase with
    | submitting attempt =>
      have hservice : dialogue.forget.service = dialogue.service.forget := rfl
      simp only [Service.attempt_eq, hservice, Service.forget_handlePin]
      rfl
    | _ => rfl
  | settled =>
    have htold : dialogue.forget.told = dialogue.told := rfl
    simp only [Turn.map, step, htold]
    cases dialogue.told <;> rfl
  | process event =>
    have hprocess := dialogue.service.forget_process event
    simp only [Turn.map, step, forget, hprocess]
  | flush =>
    have hflush := dialogue.service.forget_flush
    simp only [Turn.map, step, forget, hflush]
  | answer code | commandEnded | hear | daemon state | setActive on | changeCode number
  | checkEmergency digits => rfl

end Dialogue

namespace Interview

/-- A move as the dialogue makes it, on whatever daemon. -/
def perform (dialogue : Dialogue δ) : Move δ → Dialogue δ
  | .turn turn => dialogue.step turn
  | .request request => { dialogue with service := (dialogue.service.handlePin request).2 }

theorem forget_run (interview : Interview δ) (moves : List (Move δ)) :
    (interview.run moves).dialogue.forget = moves.foldl perform interview.dialogue.forget := by
  induction moves generalizing interview with
  | nil => rfl
  | cons move rest ih =>
    rw [run, List.foldl_cons, List.foldl_cons]
    refine (ih _).trans (congrArg (rest.foldl perform) ?_)
    cases move with
    | turn turn => exact interview.dialogue.forget_step turn _
    | request request =>
      have hservice := congrArg Prod.snd (interview.dialogue.service.forget_handlePin request)
      exact congrArg (fun service : Service δ => { interview.dialogue.forget with service })
        hservice.symm

end Interview

end Telephony
