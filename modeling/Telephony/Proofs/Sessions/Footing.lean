import Telephony.Proofs.Sessions.Dismissal

/-!
# The footing of a session

A session is set up for a modem and with emergency numbers, it comes to serve a modem, and it has
notes to take up. None of this changes in its flows of dialogs. Only when it takes up a note it may
come to serve the modem of that note, and then it serves it for good.
-/

namespace Telephony

variable {δ : Type}

namespace CodeSession

/-- Only where the session stands, and what it knows of codes and of the status of the SIM, may have
changed. It does not go back to starting up. -/
structure Keeps (session after : CodeSession) : Prop where
  notes : after.notes = session.notes
  followed : after.followed = session.followed
  assigned : after.assigned = session.assigned
  numbers : after.emergencyNumbers = session.emergencyNumbers
  emergency : after.emergency = session.emergency
  startup : after.stage = .startup → session.stage = .startup

namespace Keeps

variable {first second third : CodeSession}

theorem refl (session : CodeSession) : session.Keeps session := ⟨rfl, rfl, rfl, rfl, rfl, id⟩

theorem trans (hfirst : first.Keeps second) (hsecond : second.Keeps third) : first.Keeps third where
  notes := hsecond.notes.trans hfirst.notes
  followed := hsecond.followed.trans hfirst.followed
  assigned := hsecond.assigned.trans hfirst.assigned
  numbers := hsecond.numbers.trans hfirst.numbers
  emergency := hsecond.emergency.trans hfirst.emergency
  startup := hfirst.startup ∘ hsecond.startup

/-- The session has come to another stage. -/
theorem enter (session : CodeSession) (stage : Stage) (hstage : stage ≠ .startup) :
    session.Keeps (session.enter stage) :=
  ⟨rfl, rfl, rfl, rfl, rfl, fun hstartup => absurd hstartup hstage⟩

theorem await (session : CodeSession) (phase : Phase) : session.Keeps (session.await phase) :=
  ⟨rfl, rfl, rfl, rfl, rfl, id⟩

theorem ask (session : CodeSession) (question : Question) (attempts : Option UInt8)
    (message : Option Message) : session.Keeps (session.ask question attempts message) := by
  have hstage : question.kind.stage ≠ .startup := by
    cases question with
    | unlock path code cause => cases code <;> nofun
    | _ => nofun
  exact (enter session _ hstage).trans (await _ _)

end Keeps

variable (session : CodeSession) (board : Switchboard)

theorem statusChanged_keeps (status : Sim.Status) :
    session.Keeps (session.statusChanged status).1 := by
  unfold statusChanged
  split
  · exact .refl session
  · have hknown : session.Keeps { session with lastStatus := status } :=
      ⟨rfl, rfl, rfl, rfl, rfl, id⟩
    cases status with
    | ok =>
      dsimp only
      split
      · exact hknown
      · exact hknown.trans (.enter _ .ok nofun)
    | rejected | noSim | locked => exact hknown.trans (.enter _ .simError nofun)
    | unknown | pinRequired | pukRequired | puk2Required => exact hknown

/-! ### Flows -/

theorem finish_keeps (cause : Cause) : session.Keeps (session.finish cause).1 := by
  cases cause <;> exact .await session .idle

theorem unlock_keeps (path : ModemPath) (message : Option Message) (cause : Cause) :
    session.Keeps (session.unlock board path message cause).1 := by
  unfold unlock
  split
  · exact (Keeps.enter session .pinError nofun).trans (finish_keeps _ cause)
  · split
    · split
      · exact ⟨rfl, rfl, rfl, rfl, rfl, nofun⟩
      · exact .ask session _ _ message
    · exact .ask session _ _ message
    · exact .ask session _ _ message
    · exact (Keeps.enter session .ok nofun).trans (finish_keeps _ cause)
    · have hforgotten : session.Keeps { session with lastStatus := .unknown } :=
        ⟨rfl, rfl, rfl, rfl, rfl, id⟩
      exact (hforgotten.trans (statusChanged_keeps _ _)).trans (finish_keeps _ cause)

theorem dismissed_keeps (question : Question) : session.Keeps (session.dismissed question).1 := by
  have hended : session.Keeps (session.enter .pinError) := .enter session .pinError nofun
  cases question with
  | unlock path code cause => exact hended.trans (finish_keeps _ cause)
  | currentPin path number => exact hended.trans (.await _ .idle)
  | newPin renewal | confirmPin renewal first =>
    cases renewal with
    | unblock path code puk cause => exact hended.trans (finish_keeps _ cause)
    | replace path current number => exact hended.trans (.await _ .idle)

theorem entered_keeps (question : Question) (code : String) :
    session.Keeps (session.entered question code) := by
  cases question with
  | unlock path kind cause =>
    cases kind with
    | pin | pin2 => exact .await session _
    | puk | puk2 => exact .ask session _ none none
  | currentPin path number => exact .ask session _ none none
  | newPin renewal => exact .ask session _ none none
  | confirmPin renewal first =>
    by_cases hsame : first = code
    · simp only [entered, hsame, if_true]
      cases renewal with
      | unblock path code puk cause =>
        have hstage : (Kind.unlock code).stage ≠ .startup := by cases code <;> nofun
        exact (Keeps.enter session _ hstage).trans (.await _ _)
      | replace path current number => exact (Keeps.enter session .pin nofun).trans (.await _ _)
    · simp only [entered, hsame, if_false]
      exact .ask session _ none _

theorem accepted_keeps (cause : Cause) : session.Keeps (session.accepted cause).1 :=
  (Keeps.enter session .ok nofun).trans (finish_keeps _ cause)

theorem unlocked_keeps (pin : String) (cause : Cause) :
    session.Keeps (session.unlocked pin cause).1 := by
  have hknown : session.Keeps { session with cachedCode := some pin } :=
    ⟨rfl, rfl, rfl, rfl, rfl, id⟩
  unfold unlocked
  dsimp only
  split
  · exact hknown.trans (.await _ _)
  · exact hknown.trans (accepted_keeps _ cause)

theorem retry_keeps (attempt : Attempt) (failure : Failure) (message : Message) :
    session.Keeps (session.retry board attempt failure message).1 := by
  unfold retry
  split
  · exact unlock_keeps session board _ _ _
  · exact unlock_keeps session board _ _ _
  · split
    · exact unlock_keeps session board _ none _
    · exact .ask session _ _ _

/-! ### Steps -/

theorem answer_keeps (code : Option String) : session.Keeps (session.answer code).1 := by
  unfold answer
  split
  · exact entered_keeps session _ _
  · exact dismissed_keeps session _
  · exact .refl session

theorem attempted_keeps (result : Except Failure Unit) :
    session.Keeps (session.attempted board result).1 := by
  unfold attempted
  split
  · unfold refused
    split
    · exact retry_keeps session board _ _ _
    · exact ⟨rfl, rfl, rfl, rfl, rfl, id⟩
  · exact unlocked_keeps session _ _
  · exact unlocked_keeps session _ _
  · exact ⟨rfl, rfl, rfl, rfl, rfl, nofun⟩
  · exact .refl session

theorem settled_keeps : session.Keeps (session.settled board).1 := by
  unfold settled
  split
  · exact unlock_keeps session board _ none .query
  · exact retry_keeps session board _ _ _
  · exact .refl session

theorem commandEnded_keeps : session.Keeps session.commandEnded.1 := by
  unfold commandEnded
  split
  · exact accepted_keeps session _
  · exact .refl session

/-- Whether a note of a modem is for the session, which from then on serves a modem. -/
theorem accepts_eq (path : ModemPath) : session.accepts path =
    (decide ((session.followed <|> some path) = some path),
      { session with followed := session.followed <|> some path }) := by
  unfold accepts
  cases hfollowed : session.followed with
  | none => simp
  | some served =>
    refine Prod.ext (by simp) ?_
    · change session = { session with followed := some served }
      rw [← hfollowed]

/-- Taking up a note, a session comes to serve the modem of the note if it served none. -/
theorem take_keeps (note : Note) :
    ({ session with followed := session.followed <|> note.path? } : CodeSession).Keeps
      (session.take board note).1 := by
  cases note with
  | status path status =>
    simp only [take, accepts_eq, Note.path?]
    split
    · next hserved =>
      obtain ⟨-, rfl⟩ := Prod.mk.inj hserved
      exact statusChanged_keeps _ status
    · next hserved =>
      obtain ⟨-, rfl⟩ := Prod.mk.inj hserved
      exact .refl _
  | codeQuery path status =>
    simp only [take, accepts_eq, Note.path?]
    split
    · next hserved =>
      obtain ⟨-, rfl⟩ := Prod.mk.inj hserved
      split
      · exact .await _ _
      · exact .refl _
    · next hserved =>
      obtain ⟨-, rfl⟩ := Prod.mk.inj hserved
      exact .refl _
  | activated =>
    have hsame : ({ session with followed := session.followed <|> none } : CodeSession) = session := by
      cases hfollowed : session.followed <;> rw [← hfollowed] <;> simp
    simp only [take, Note.path?, hsame]
    split
    · split
      · exact unlock_keeps session board _ none .query
      · exact .refl session
    · exact .refl session
  | changeCode number =>
    have hsame : ({ session with followed := session.followed <|> none } : CodeSession) = session := by
      cases hfollowed : session.followed <;> rw [← hfollowed] <;> simp
    simp only [take, Note.path?, hsame]
    split
    · exact .ask session _ _ none
    · exact .refl session

end CodeSession

namespace Dialogue

variable [Daemon δ] (dialogue : Dialogue δ)

/-- Whether or not it takes up a note, a session keeps its footing. -/
theorem keeps_next : (dialogue.step .next).session = dialogue.session ∨
    ∃ note notes, dialogue.session.phase = .idle ∧ dialogue.session.notes = note :: notes ∧
      ({ dialogue.session with
        notes
        followed := dialogue.session.followed <|> note.path? } : CodeSession).Keeps
          (dialogue.step .next).session := by
  cases hphase : dialogue.session.phase with
  | idle =>
    cases hnotes : dialogue.session.notes with
    | nil => exact .inl (by simp [step, CodeSession.next, hphase, hnotes])
    | cons note notes =>
      refine .inr ⟨note, notes, rfl, rfl, ?_⟩
      rw [step_next hphase hnotes]
      exact CodeSession.take_keeps { dialogue.session with notes } dialogue.board note
  | _ => exact .inl (by simp [step, CodeSession.next, hphase])

theorem keeps_submit : dialogue.session.Keeps (dialogue.step .submit).session := by
  simp only [step]
  split
  · exact CodeSession.attempted_keeps dialogue.session _ _
  · exact .refl _

theorem keeps_settled : dialogue.session.Keeps (dialogue.step .settled).session := by
  simp only [step]
  split
  · exact CodeSession.settled_keeps dialogue.session dialogue.board
  · exact .refl _

/-- What a session was set up for and with stays, and the modem that it serves. -/
theorem setUp_step (turn : Turn δ) :
    (dialogue.step turn).session.assigned = dialogue.session.assigned ∧
      (dialogue.step turn).session.emergencyNumbers = dialogue.session.emergencyNumbers ∧
      ∀ path, dialogue.session.followed = some path →
        (dialogue.step turn).session.followed = some path := by
  have hkept : dialogue.session.Keeps (dialogue.step turn).session →
      (dialogue.step turn).session.assigned = dialogue.session.assigned ∧
      (dialogue.step turn).session.emergencyNumbers = dialogue.session.emergencyNumbers ∧
      ∀ path, dialogue.session.followed = some path →
        (dialogue.step turn).session.followed = some path := fun hkeeps =>
    ⟨hkeeps.assigned, hkeeps.numbers, fun path hfollowed => hkeeps.followed.trans hfollowed⟩
  cases turn with
  | next =>
    rcases dialogue.keeps_next with hsame | ⟨note, notes, -, -, hkeeps⟩
    · exact hkept (hsame ▸ .refl _)
    · refine ⟨hkeeps.assigned, hkeeps.numbers, fun path hfollowed => hkeeps.followed.trans ?_⟩
      rw [hfollowed]
      rfl
  | answer code => exact hkept (CodeSession.answer_keeps dialogue.session code)
  | submit => exact hkept dialogue.keeps_submit
  | settled => exact hkept dialogue.keeps_settled
  | commandEnded => exact hkept (CodeSession.commandEnded_keeps dialogue.session)
  | setActive on =>
    simp only [step, CodeSession.setActive]
    split <;> exact ⟨rfl, rfl, fun _ => id⟩
  | process event | flush | hear | daemon next | changeCode number | checkEmergency digits =>
    exact ⟨rfl, rfl, fun _ => id⟩

end Dialogue

end Telephony
