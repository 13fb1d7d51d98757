import Mathlib.Data.List.Induction
import Telephony.Proofs.Sessions.Reopening

/-!
# Dialogs and stages

Others see of a session only its stage, and read from it whether a dialog is up. While a flow of
dialogs is under way the stage is a dialog's, and that of the very dialog that the user is asked.
When the flow has ended the stage is none of these, with one exception: a code was refused, and the
SIM that it was to unlock is attached by then with a status that is not known. The session goes back
to its notes and leaves the stage of the dialog behind.
-/

namespace Telephony

namespace CodeSession

variable {board : Switchboard} {session : CodeSession}

/-- The stage in which the session asks for a code of the kind. It never asks for a PIN2. -/
inductive Kind.ShownAs : Kind → Stage → Prop
  | pin : ShownAs (.unlock .pin) .pin
  | puk : ShownAs (.unlock .puk) .simUnlock
  | puk2 : ShownAs (.unlock .puk2) .simUnlock
  | currentPin : ShownAs .currentPin .pin
  | newPin : ShownAs .newPin .newPin
  | confirmPin : ShownAs .confirmPin .confirmPin

theorem Kind.shownAs_stage {kind : Kind} (hkind : kind ≠ .unlock .pin2) :
    kind.ShownAs kind.stage := by
  cases kind with
  | unlock code =>
    cases code with
    | pin => exact .pin
    | pin2 => exact absurd rfl hkind
    | puk => exact .puk
    | puk2 => exact .puk2
  | currentPin => exact .currentPin
  | newPin => exact .newPin
  | confirmPin => exact .confirmPin

theorem Kind.isPrompting_stage (kind : Kind) : kind.stage.isPrompting = true := by
  cases kind with
  | unlock code => cases code <;> rfl
  | _ => rfl

/-- Whether a flow of dialogs is under way. None is while the session waits for its next note, or
for the service to settle before it answers a query. -/
def Phase.inFlow : Phase → Bool
  | idle | settlingQuery _ => false
  | asking _ _ _ | submitting _ | settlingRefusal _ _ | runningCommand _ _ => true

/-- The stage agrees with what the session waits for. While a flow is under way it is the stage of a
dialog, and if a dialog is up, of that dialog. Once the flow has ended it is the stage of a dialog
only if the SIM was `lost`. -/
structure Agrees (session : CodeSession) (lost : Prop) : Prop where
  asked : ∀ dialog, session.phase.dialog? = some dialog → dialog.kind.ShownAs session.stage
  engaged : session.phase.inFlow = true → session.stage.isPrompting = true
  rested : session.phase.inFlow = false → session.stage.isPrompting = true → lost

namespace Agrees

variable {lost : Prop}

theorem mono {more : Prop} (hagrees : session.Agrees lost) (hmore : lost → more) :
    session.Agrees more :=
  ⟨hagrees.asked, hagrees.engaged, fun hrest hprompting => hmore (hagrees.rested hrest hprompting)⟩

theorem of_rest (hrest : session.phase.inFlow = false)
    (hlost : session.stage.isPrompting = true → lost) : session.Agrees lost := by
  refine ⟨fun dialog hdialog => ?_, fun hflow => ?_, fun _ => hlost⟩
  · cases hphase : session.phase <;> rw [hphase] at hrest hdialog <;> cases hrest <;> cases hdialog
  · rw [hrest] at hflow
    cases hflow

theorem of_engaged (hflow : session.phase.inFlow = true) (hdialog : session.phase.dialog? = none)
    (hprompting : session.stage.isPrompting = true) : session.Agrees lost := by
  refine ⟨fun dialog hsome => ?_, fun _ => hprompting, fun hrest => ?_⟩
  · rw [hdialog] at hsome
    cases hsome
  · rw [hflow] at hrest
    cases hrest

theorem of_ask {question : Question} (attempts : Option UInt8) (message : Option Message)
    (hkind : question.kind ≠ .unlock .pin2) :
    (session.ask question attempts message).Agrees lost := by
  refine ⟨fun dialog hdialog => ?_, fun _ => question.kind.isPrompting_stage, fun hrest => ?_⟩
  · obtain rfl : Dialog.mk question.kind attempts message = dialog := Option.some.inj hdialog
    exact Kind.shownAs_stage hkind
  · cases hrest

/-- A flow ends with what is shown by then. -/
theorem of_finish (cause : Cause) (hlost : session.stage.isPrompting = true → lost) :
    (session.finish cause).1.Agrees lost := by
  have hstage : (session.finish cause).1.stage = session.stage := by cases cause <;> rfl
  refine of_rest ?_ ?_
  · rw [finish_idle]
    rfl
  · rwa [hstage]

end Agrees

variable {lost : Prop}

/-- A status that is taken up ends the stage of a dialog or keeps it. -/
theorem statusChanged_stage (session : CodeSession) (status : Sim.Status) :
    (session.statusChanged status).1.stage = session.stage ∨
      (session.statusChanged status).1.stage.isPrompting = false := by
  unfold statusChanged
  split
  · exact .inl rfl
  · cases status with
    | ok =>
      dsimp only
      split
      · exact .inl rfl
      · exact .inr rfl
    | rejected | noSim | locked => exact .inr rfl
    | unknown | pinRequired | pukRequired | puk2Required => exact .inl rfl

/-! ### Unlocking -/

section Unlock

variable {path : ModemPath} {sim : Sim.State} (message : Option Message) (cause : Cause)

/-- A SIM that neither waits for a code nor is usable ends the flow as its status is told. -/
theorem unlock_of_not_needsCode (session : CodeSession) (hsim : board.sim? path = some sim)
    (hcode : sim.status.needsCode = false) (hok : sim.status ≠ .ok) :
    (session.unlock board path message cause).1 =
      ((({ session with lastStatus := .unknown } : CodeSession).statusChanged sim.status).1.finish
        cause).1 := by
  unfold unlock
  rw [hsim]
  cases hstatus : sim.status with
  | ok => exact absurd hstatus hok
  | pinRequired | pukRequired | puk2Required => simp [hstatus, Sim.Status.needsCode] at hcode
  | unknown | noSim | locked | rejected => simp only [hstatus]

/-- The user is asked for the code that a SIM waits for, unless there is a PIN to try first. -/
theorem unlock_of_waits (session : CodeSession) (hsim : board.sim? path = some sim)
    (hcode : sim.status.needsCode = true) :
    (∃ code attempts, code ≠ .pin2 ∧ (session.unlock board path message cause).1 =
        session.ask (.unlock path code cause) attempts message) ∨
      ∃ pin, session.cachedCode = some pin ∧
        (session.unlock board path message cause).1 =
          ({ session with cachedCode := none }.enter .pin).await
            (.submitting (.enter path .pin pin cause)) := by
  cases hstatus : sim.status with
  | pinRequired =>
    cases hcached : session.cachedCode with
    | none =>
      refine .inl ⟨.pin, sim.retriesLeft .pin, by decide, ?_⟩
      simp only [unlock, hsim, hstatus, hcached]
    | some pin =>
      refine .inr ⟨pin, rfl, ?_⟩
      simp only [unlock, hsim, hstatus, hcached]
  | pukRequired =>
    refine .inl ⟨.puk, sim.retriesLeft .puk, by decide, ?_⟩
    simp only [unlock, hsim, hstatus]
  | puk2Required =>
    refine .inl ⟨.puk2, sim.retriesLeft .puk2, by decide, ?_⟩
    simp only [unlock, hsim, hstatus]
  | ok | unknown | noSim | locked | rejected => simp [hstatus, Sim.Status.needsCode] at hcode

/-- A SIM that waits for a code is asked for it, or gets the one accepted last. -/
theorem unlock_of_needsCode (session : CodeSession) (hsim : board.sim? path = some sim)
    (hcode : sim.status.needsCode = true) :
    (session.unlock board path message cause).1.Agrees lost := by
  rcases unlock_of_waits message cause session hsim hcode with
    ⟨code, attempts, hpin2, hasked⟩ | ⟨pin, -, htried⟩
  · rw [hasked]
    exact .of_ask attempts message (by simpa [Question.kind] using hpin2)
  · rw [htried]
    exact .of_engaged rfl rfl rfl

theorem unlock_agrees (board : Switchboard) (session : CodeSession) (path : ModemPath) :
    (session.unlock board path message cause).1.Agrees
      (session.stage.isPrompting = true ∧ (board.sim? path).map (·.status) = some .unknown) := by
  cases hsim : board.sim? path with
  | none =>
    simp only [unlock, hsim]
    exact .of_finish cause fun hprompting => by cases hprompting
  | some sim =>
    by_cases hcode : sim.status.needsCode = true
    · exact unlock_of_needsCode message cause session hsim hcode
    · by_cases hok : sim.status = .ok
      · simp only [unlock, hsim, hok]
        exact .of_finish cause fun hprompting => by cases hprompting
      · rw [unlock_of_not_needsCode message cause session hsim (by simpa using hcode) hok]
        refine .of_finish cause fun hprompting => ?_
        rw [Option.map_some]
        cases hstatus : sim.status with
        | unknown =>
          -- no news to the session, which keeps the stage that it had
          rw [hstatus] at hprompting
          exact ⟨by simpa [statusChanged] using hprompting, rfl⟩
        | noSim | locked | rejected =>
          rw [hstatus] at hprompting
          cases hprompting
        | ok => exact absurd hstatus hok
        | pinRequired | pukRequired | puk2Required => simp [hstatus, Sim.Status.needsCode] at hcode

/-- A session that finds the status of the SIM unknown gives up, and shows what it showed before. -/
theorem unlock_of_unknown (session : CodeSession)
    (hunknown : (board.sim? path).map (·.status) = some .unknown) :
    (session.unlock board path message cause).1.phase = .idle ∧
      (session.unlock board path message cause).1.stage = session.stage := by
  obtain ⟨sim, hsim, hstatus⟩ := Option.map_eq_some_iff.1 hunknown
  rw [unlock_of_not_needsCode message cause session hsim (by rw [hstatus]; rfl)
    (by rw [hstatus]; decide)]
  refine ⟨finish_idle _ cause, ?_⟩
  rw [hstatus]
  cases cause <;> simp [statusChanged, finish, await]

end Unlock

/-! ### Answers -/

theorem dismissed_agrees (session : CodeSession) (question : Question) :
    (session.dismissed question).1.Agrees lost := by
  have hended : (session.enter .pinError).stage.isPrompting = true → lost := fun hprompting => by
    cases hprompting
  cases question with
  | unlock path code cause => exact .of_finish cause hended
  | currentPin path number => exact .of_rest rfl hended
  | newPin renewal | confirmPin renewal first =>
    cases renewal with
    | unblock path code puk cause => exact .of_finish cause hended
    | replace path current number => exact .of_rest rfl hended

theorem submitRenewal_agrees (session : CodeSession) (renewal : Renewal) (newPin : String) :
    (session.submitRenewal renewal newPin).Agrees lost := by
  cases renewal with
  | unblock path code puk cause =>
    exact .of_engaged rfl rfl (Kind.unlock code).isPrompting_stage
  | replace path current number => exact .of_engaged rfl rfl rfl

/-- An answer leads to the next dialog or to the SIM. -/
theorem entered_agrees (question : Question) (code : String)
    (hprompting : session.stage.isPrompting = true) :
    (session.entered question code).Agrees lost := by
  cases question with
  | unlock path kind cause =>
    cases kind with
    | pin | pin2 => exact .of_engaged rfl rfl hprompting
    | puk | puk2 => exact .of_ask none none (by simp [Question.kind])
  | currentPin path number => exact .of_ask none none (by simp [Question.kind])
  | newPin renewal => exact .of_ask none none (by simp [Question.kind])
  | confirmPin renewal first =>
    by_cases hsame : first = code
    · simp only [entered, hsame, if_true]
      exact submitRenewal_agrees session renewal code
    · simp only [entered, hsame, if_false]
      exact .of_ask none _ (by simp [Question.kind])

theorem answer_agrees (hagrees : session.Agrees lost) (code : Option String) :
    (session.answer code).1.Agrees lost := by
  cases hphase : session.phase with
  | asking question attempts message =>
    have hprompting : session.stage.isPrompting = true := hagrees.engaged (by rw [hphase]; rfl)
    simp only [answer, hphase]
    cases code with
    | none => exact dismissed_agrees session question
    | some code => exact entered_agrees question code hprompting
  | _ => simpa only [answer, hphase] using hagrees

/-! ### Attempts -/

/-- Whether the attempt is to unlock the SIM, which a change of the PIN is not. -/
def Attempt.unlocks : Attempt → Bool
  | enter _ _ _ _ | reset _ _ _ _ _ => true
  | change _ _ _ _ => false

/-- The SIM that the attempt was to unlock is attached, and its status is not known. -/
def Attempt.Lost (board : Switchboard) (attempt : Attempt) : Prop :=
  attempt.unlocks = true ∧ (board.sim? attempt.path).map (·.status) = some .unknown

section Attempt

variable {attempt : Attempt} (failure : Failure) (message : Message)

theorem retry_agrees (board : Switchboard) (session : CodeSession) (attempt : Attempt) :
    (session.retry board attempt failure message).1.Agrees (attempt.Lost board) := by
  cases attempt with
  | enter path code pin cause =>
    exact (unlock_agrees (some message) cause board session path).mono fun hlost => ⟨rfl, hlost.2⟩
  | reset path code puk newPin cause =>
    exact (unlock_agrees (some message) cause board session path).mono fun hlost => ⟨rfl, hlost.2⟩
  | change path current newPin number =>
    -- a change goes on to unlock the SIM only once that waits for a code
    by_cases hneeds : (board.sim? path).any (·.status.needsCode) = true
    · obtain ⟨sim, hsim, hcode⟩ := (Option.any_eq_true _ _).1 hneeds
      simp only [retry, hneeds, if_true]
      exact unlock_of_needsCode none _ session hsim hcode
    · simp only [retry, hneeds]
      exact .of_ask _ (some message) (by simp [Question.kind])

theorem retry_of_lost (session : CodeSession) (hlost : attempt.Lost board) :
    (session.retry board attempt failure message).1.phase = .idle ∧
      (session.retry board attempt failure message).1.stage = session.stage := by
  obtain ⟨hunlocks, hunknown⟩ := hlost
  cases attempt with
  | enter path code pin cause => exact unlock_of_unknown (some message) cause session hunknown
  | reset path code puk newPin cause =>
    exact unlock_of_unknown (some message) cause session hunknown
  | change path current newPin number => cases hunlocks

theorem refused_agrees (board : Switchboard) (attempt : Attempt)
    (hprompting : session.stage.isPrompting = true) :
    (session.refused board attempt failure).1.Agrees
      ((∃ site reason, failure = .invalidInput site reason) ∧ attempt.Lost board) := by
  cases failure with
  | invalidInput site reason =>
    exact (retry_agrees _ .invalidFormat board session attempt).mono fun hlost =>
      ⟨⟨site, reason, rfl⟩, hlost⟩
  | _ => exact .of_engaged rfl rfl hprompting

theorem unlocked_agrees (pin : String) (cause : Cause)
    (hprompting : session.stage.isPrompting = true) :
    (session.unlocked pin cause).1.Agrees lost := by
  cases hcommand : session.correctCommand with
  | some command =>
    simp only [unlocked, hcommand]
    exact .of_engaged rfl rfl hprompting
  | none =>
    simp only [unlocked, hcommand]
    exact .of_finish cause fun hstage => by cases hstage

theorem attempted_agrees (hagrees : session.Agrees lost) (board : Switchboard)
    (result : Except Failure Unit) :
    (session.attempted board result).1.Agrees (lost ∨ ∃ attempt site reason,
      session.phase = .submitting attempt ∧ result = .error (.invalidInput site reason) ∧
      attempt.Lost board) := by
  cases hphase : session.phase with
  | submitting attempt =>
    have hprompting : session.stage.isPrompting = true := hagrees.engaged (by rw [hphase]; rfl)
    cases result with
    | error failure =>
      simp only [attempted, hphase]
      refine (refused_agrees failure board attempt hprompting).mono ?_
      rintro ⟨⟨site, reason, rfl⟩, hlost⟩
      exact .inr ⟨attempt, site, reason, rfl, rfl, hlost⟩
    | ok =>
      cases attempt with
      | enter path code pin cause =>
        simp only [attempted, hphase]
        exact unlocked_agrees pin cause hprompting
      | reset path code puk newPin cause =>
        simp only [attempted, hphase]
        exact unlocked_agrees newPin cause hprompting
      | change path current newPin number =>
        simp only [attempted, hphase]
        exact .of_rest rfl fun hstage => by cases hstage
  | _ => simpa only [attempted, hphase] using hagrees.mono .inl

end Attempt

/-! ### Going on -/

theorem settled_agrees (hagrees : session.Agrees lost) (board : Switchboard) :
    (session.settled board).1.Agrees (lost ∨ ∃ attempt failure,
      session.phase = .settlingRefusal attempt failure ∧ attempt.Lost board) := by
  cases hphase : session.phase with
  | settlingQuery path =>
    simp only [settled, hphase]
    refine (unlock_agrees none .query board session path).mono fun hlost => .inl ?_
    exact hagrees.rested (by rw [hphase]; rfl) hlost.1
  | settlingRefusal attempt failure =>
    simp only [settled, hphase]
    refine (retry_agrees failure _ board session attempt).mono fun hlost => .inr ?_
    exact ⟨attempt, failure, rfl, hlost⟩
  | _ => simpa only [settled, hphase] using hagrees.mono .inl

theorem commandEnded_agrees (hagrees : session.Agrees lost) :
    session.commandEnded.1.Agrees lost := by
  cases hphase : session.phase with
  | runningCommand command cause =>
    simp only [commandEnded, hphase]
    exact .of_finish cause fun hstage => by cases hstage
  | _ => simpa only [commandEnded, hphase] using hagrees

theorem accepts_spec (session : CodeSession) (path : ModemPath) :
    (session.accepts path).2.phase = session.phase ∧
      (session.accepts path).2.stage = session.stage := by
  unfold accepts
  cases session.followed <;> exact ⟨rfl, rfl⟩

/-- A note of a SIM starts no flow at once. -/
theorem take_of_path (board : Switchboard) (hidle : session.phase = .idle) {note : Note}
    (hpath : note.path?.isSome) :
    (session.take board note).1.phase.inFlow = false ∧
      ((session.take board note).1.stage = session.stage ∨
        (session.take board note).1.stage.isPrompting = false) := by
  cases note with
  | status path status =>
    obtain ⟨hphase, hstage⟩ := session.accepts_spec path
    rcases haccepts : session.accepts path with ⟨serves, served⟩
    rw [haccepts, hidle] at hphase
    rw [haccepts] at hstage
    simp only [take, haccepts]
    cases serves with
    | true =>
      dsimp only
      rw [(statusChanged_spec served status).1, hphase, ← hstage]
      exact ⟨rfl, statusChanged_stage served status⟩
    | false => exact ⟨by rw [hphase]; rfl, .inl hstage⟩
  | codeQuery path status =>
    obtain ⟨hphase, hstage⟩ := session.accepts_spec path
    rcases haccepts : session.accepts path with ⟨serves, served⟩
    rw [haccepts, hidle] at hphase
    rw [haccepts] at hstage
    simp only [take, haccepts]
    cases serves with
    | true =>
      dsimp only
      split
      · exact ⟨rfl, .inl hstage⟩
      · exact ⟨by rw [hphase]; rfl, .inl hstage⟩
    | false => exact ⟨by rw [hphase]; rfl, .inl hstage⟩
  | changeCode number => cases hpath
  | activated => cases hpath

theorem take_agrees (hagrees : session.Agrees lost) (hidle : session.phase = .idle)
    (board : Switchboard) (note : Note) : (session.take board note).1.Agrees lost := by
  have hshown : session.stage.isPrompting = true → lost := hagrees.rested (by rw [hidle]; rfl)
  have hofPath : note.path?.isSome → (session.take board note).1.Agrees lost := by
    intro hpath
    obtain ⟨hrest, hstage⟩ := take_of_path board hidle hpath
    refine .of_rest hrest fun hprompting => ?_
    rcases hstage with hsame | hended
    · exact hshown (hsame ▸ hprompting)
    · rw [hended] at hprompting
      cases hprompting
  cases note with
  | status path status => exact hofPath rfl
  | codeQuery path status => exact hofPath rfl
  | activated =>
    simp only [take]
    split
    · split
      · exact (unlock_agrees none .query board session _).mono fun hlost => hshown hlost.1
      · exact hagrees
    · exact hagrees
  | changeCode number =>
    simp only [take]
    split
    · exact .of_ask _ none (by simp [Question.kind])
    · exact hagrees

end CodeSession

/-! ### Turns -/

namespace Service

variable {δ : Type}

theorem board_askSim (service : Service δ) (path : ModemPath) (check : Except Failure Unit)
    (operation : δ → Except Failure Unit × δ) :
    (service.askSim path check operation).2.board = service.board := by
  unfold askSim ask
  split
  · rfl
  · split <;> rfl

/-- An attempt changes the daemon alone. -/
theorem board_attempt [Daemon δ] (service : Service δ) (attempt : CodeSession.Attempt) :
    (service.attempt attempt).2.board = service.board := by
  cases attempt <;> exact board_askSim service _ _ _

end Service

namespace Dialogue

variable {δ : Type} [Daemon δ] {dialogue : Dialogue δ} {lost : Prop}

/-- The turn leaves the stage of a dialog behind: a code was refused, at once if it is malformed and
else before the service settled, and the SIM that it was to unlock has no known status. -/
def Strands (dialogue : Dialogue δ) : Turn δ → Prop
  | .submit => ∃ attempt site reason, dialogue.session.phase = .submitting attempt ∧
      (dialogue.service.attempt attempt).1 = .error (.invalidInput site reason) ∧
      attempt.Lost dialogue.board
  | .settled => dialogue.told = true ∧ ∃ attempt failure,
      dialogue.session.phase = .settlingRefusal attempt failure ∧ attempt.Lost dialogue.board
  | _ => False

theorem step_submit {attempt : CodeSession.Attempt}
    (hphase : dialogue.session.phase = .submitting attempt) :
    (dialogue.step .submit).session =
      (dialogue.session.attempted dialogue.board (dialogue.service.attempt attempt).1).1 := by
  have hboard : (dialogue.service.attempt attempt).2.board = dialogue.board :=
    dialogue.service.board_attempt attempt
  rcases hattempt : dialogue.service.attempt attempt with ⟨result, service⟩
  rw [hattempt] at hboard
  simp only [step, hphase, hattempt]
  rw [← hboard]

theorem agrees_next (hagrees : dialogue.session.Agrees lost) :
    (dialogue.step .next).session.Agrees lost := by
  cases hnext : dialogue.session.next dialogue.board with
  | none => simpa only [step, hnext] using hagrees
  | some next =>
    simp only [step, hnext]
    unfold CodeSession.next at hnext
    split at hnext
    · rename_i note notes hidle hnotes
      obtain rfl := Option.some.inj hnext
      have hwithout : ({ dialogue.session with notes } : CodeSession).Agrees lost :=
        ⟨hagrees.asked, hagrees.engaged, hagrees.rested⟩
      exact CodeSession.take_agrees hwithout hidle dialogue.board note
    · cases hnext

/-- What a session shows agrees with what it waits for, until a turn leaves the stage of a dialog
behind. -/
theorem agrees_step (hagrees : dialogue.session.Agrees lost) (turn : Turn δ) :
    (dialogue.step turn).session.Agrees (lost ∨ dialogue.Strands turn) := by
  have hsame : dialogue.session.Agrees (lost ∨ dialogue.Strands turn) := hagrees.mono .inl
  cases turn with
  | next => exact (agrees_next hagrees).mono .inl
  | answer code => exact (CodeSession.answer_agrees hagrees code).mono .inl
  | submit =>
    cases hphase : dialogue.session.phase with
    | submitting attempt =>
      rw [step_submit hphase]
      refine (CodeSession.attempted_agrees hagrees dialogue.board _).mono (Or.imp_right ?_)
      rintro ⟨other, site, reason, hother, hrefused, hlost⟩
      obtain rfl : attempt = other := by
        rw [hphase] at hother
        cases hother
        rfl
      exact ⟨attempt, site, reason, hphase, hrefused, hlost⟩
    | _ => simpa only [step, hphase] using hsame
  | settled =>
    by_cases htold : dialogue.told = true
    · simp only [step, htold, if_true]
      refine (CodeSession.settled_agrees hagrees dialogue.board).mono (Or.imp_right ?_)
      exact fun hstranded => ⟨htold, hstranded⟩
    · simp only [step]
      rwa [if_neg htold]
  | commandEnded => exact (CodeSession.commandEnded_agrees hagrees).mono .inl
  | setActive on =>
    simp only [step, CodeSession.setActive]
    split <;> exact ⟨hsame.asked, hsame.engaged, hsame.rested⟩
  | process event => exact hsame
  | flush => exact hsame
  | daemon next => exact hsame
  | hear => exact ⟨hsame.asked, hsame.engaged, hsame.rested⟩
  | changeCode number => exact ⟨hsame.asked, hsame.engaged, hsame.rested⟩
  | checkEmergency digits => exact ⟨hsame.asked, hsame.engaged, hsame.rested⟩

/-- A turn that leaves the stage of a dialog behind ends the flow. -/
theorem idle_of_strands (hagrees : dialogue.session.Agrees lost) {turn : Turn δ}
    (hstrands : dialogue.Strands turn) :
    (dialogue.step turn).session.phase = .idle ∧
      (dialogue.step turn).session.stage.isPrompting = true := by
  cases turn with
  | submit =>
    obtain ⟨attempt, site, reason, hphase, hrefused, hlost⟩ := hstrands
    have hsession : (dialogue.step .submit).session = (dialogue.session.retry dialogue.board attempt
        (.invalidInput site reason) .invalidFormat).1 := by
      rw [step_submit hphase, hrefused]
      simp only [CodeSession.attempted, hphase]
      rfl
    obtain ⟨hidle, hstage⟩ := CodeSession.retry_of_lost (.invalidInput site reason) .invalidFormat
      dialogue.session hlost
    rw [hsession, hidle, hstage]
    exact ⟨rfl, hagrees.engaged (by rw [hphase]; rfl)⟩
  | settled =>
    obtain ⟨htold, attempt, failure, hphase, hlost⟩ := hstrands
    have hsession : (dialogue.step .settled).session = (dialogue.session.retry dialogue.board attempt
        failure (CodeSession.refusalMessage dialogue.board attempt)).1 := by
      simp only [step, htold, if_true, CodeSession.settled, hphase]
    obtain ⟨hidle, hstage⟩ := CodeSession.retry_of_lost failure
      (CodeSession.refusalMessage dialogue.board attempt) dialogue.session hlost
    rw [hsession, hidle, hstage]
    exact ⟨rfl, hagrees.engaged (by rw [hphase]; rfl)⟩
  | _ => exact hstrands.elim

theorem agrees_run (hagrees : dialogue.session.Agrees False) (turns : List (Turn δ)) :
    (dialogue.run turns).session.Agrees
      (∃ first turn, first ++ [turn] <+: turns ∧ (dialogue.run first).Strands turn) := by
  induction turns using List.reverseRecOn with
  | nil => exact hagrees.mono False.elim
  | append_singleton turns turn ih =>
    -- the last turn is split off, since whether a turn strands the session rests on those before
    rw [run_append]
    refine (agrees_step ih turn).mono ?_
    rintro (⟨first, other, hprefix, hstrands⟩ | hstrands)
    · exact ⟨first, other, hprefix.trans (List.prefix_append turns [turn]), hstrands⟩
    · exact ⟨turns, turn, List.prefix_rfl, hstrands⟩

theorem agrees_of_opened {service after : Service δ} {number : Nat} {options : CodeOptions}
    {startup : Bool} {session : CodeSession}
    (hopened : service.openSession number options startup = (.ok session, after)) :
    session.Agrees False := by
  unfold Service.openSession at hopened
  split at hopened
  · cases hopened
  · split at hopened
    · cases hopened
    · obtain rfl := Except.ok.inj (Prod.mk.inj hopened).1
      refine .of_rest rfl fun hprompting => ?_
      cases startup <;> cases hprompting

/-- Whatever happens, the stage of a session is that of the dialog that is up. It is never that of a
dialog while the session takes up its notes, exactly when no turn has left one behind. -/
theorem run_shows_dialogs {service : Service δ} {options : CodeOptions} {startup : Bool}
    (hopened : service.openSession dialogue.number options startup =
      (.ok dialogue.session, dialogue.service)) (turns : List (Turn δ)) :
    (∀ dialog, (dialogue.run turns).session.phase.dialog? = some dialog →
        dialog.kind.ShownAs (dialogue.run turns).session.stage) ∧
      ((∀ first, first <+: turns → (dialogue.run first).session.phase = .idle →
          (dialogue.run first).session.stage.isPrompting = false) ↔
        ∀ first turn, first ++ [turn] <+: turns → ¬ (dialogue.run first).Strands turn) := by
  have hagrees := agrees_run (agrees_of_opened hopened)
  refine ⟨(hagrees turns).asked, fun hclear first turn hprefix hstrands => ?_,
    fun hfree first hfirst hidle => ?_⟩
  · obtain ⟨hidle, hprompting⟩ := idle_of_strands (hagrees first) hstrands
    have hstep : dialogue.run (first ++ [turn]) = (dialogue.run first).step turn := run_append ..
    have hended := hclear _ hprefix (hstep ▸ hidle)
    rw [hstep, hprompting] at hended
    cases hended
  · by_contra hprompting
    obtain ⟨before, turn, hbefore, hstrands⟩ :=
      (hagrees first).rested (by rw [hidle]; rfl) (by simpa using hprompting)
    exact hfree before turn (hbefore.trans hfirst) hstrands

/-- The SIM goes and comes back, and then the code that it waits for cannot be read. -/
def garbled (sim : Simulator) : Simulator :=
  let result := do
    let gone ← sim.setInterfaces ⟨"/m"⟩ []
    let back ← gone.setInterfaces ⟨"/m"⟩ [.simManager]
    back.update ⟨"/m"⟩ .simManager "PinRequired" (.bool true)
  match result with
  | .ok sim => sim
  | .error _ => sim

/-- That happens while the session asks for the PIN, and the answer is no PIN. -/
def untilMalformed : List (Turn Simulator) :=
  let garbled := untilAsked ++ [.daemon (garbled (lastChance.run untilAsked).service.daemon)]
  garbled ++ (lastChance.run garbled).settling ++ [.answer (some "12")]

theorem run_shows_dialogs_malformed :
    ¬ ∀ first, first <+: untilMalformed ++ [.submit] →
      (lastChance.run first).session.phase = .idle →
      (lastChance.run first).session.stage.isPrompting = false := by
  have hphase : (lastChance.run untilMalformed).session.phase =
      .submitting (.enter ⟨"/m"⟩ .pin "12" .query) := by decide +kernel
  have hunknown : ((lastChance.run untilMalformed).board.sim? ⟨"/m"⟩).map (·.status) =
      some .unknown := by decide +kernel
  have hopened : (Service.stopped lastAttempt).openSession lastChance.number ⟨none, [], none⟩ false =
      (.ok lastChance.session, lastChance.service) := rfl
  intro hclear
  exact (run_shows_dialogs hopened _).2.1 hclear untilMalformed .submit List.prefix_rfl
    ⟨_, _, _, hphase, rfl, rfl, hunknown⟩

/-- Then the SIM becomes usable, and the session takes up all that it hears of it. -/
def untilUsable : List (Turn Simulator) :=
  let stranded := untilMalformed ++ [.submit, .next, .next]
  let usable : Simulator :=
    match (lastChance.run stranded).service.daemon.setPinRequired ⟨"/m"⟩ "none" with
    | .ok sim => sim
    | .error _ => .empty
  let settling := (lastChance.run (stranded ++ [.daemon usable])).settling
  stranded ++ [.daemon usable] ++ settling ++ [.next, .next]

theorem not_always_cleared :
    ¬ ∀ (dialogue : Dialogue Simulator) (daemon : Simulator) (options : CodeOptions)
        (startup : Bool) (turns : List (Turn Simulator)),
      dialogue.Opened daemon options startup →
      (∀ dialog, (dialogue.run turns).session.phase.dialog? = some dialog →
          dialog.kind.ShownAs (dialogue.run turns).session.stage) ∧
        ((dialogue.run turns).session.phase = .idle → (dialogue.run turns).pending = [] →
          (dialogue.run turns).session.stage.isPrompting = false) := by
  intro halways
  have hstage : (lastChance.run untilUsable).session.stage = .pin := by decide +kernel
  have hended := (halways lastChance lastAttempt ⟨none, [], none⟩ false untilUsable rfl).2
    (by decide +kernel) (by decide +kernel)
  rw [hstage] at hended
  cases hended

end Dialogue

end Telephony
