import Telephony.Proofs.Sessions.Dialogue

/-!
# Openings of dialogs

A dialog that is up stays as it is until it is answered, so what a turn opens is the dialog that is up
after it, unless that one was up before.
-/

namespace Telephony

open CodeSession (Dialog)

variable {δ ε : Type}

namespace Turn

def answers : Turn δ → Bool
  | answer _ => true
  | _ => false

/-- The same turn with another kind of daemon. -/
def map (f : δ → ε) : Turn δ → Turn ε
  | .next => .next
  | .answer code => .answer code
  | .submit => .submit
  | .settled => .settled
  | .commandEnded => .commandEnded
  | .process event => .process event
  | .flush => .flush
  | .hear => .hear
  | .daemon state => .daemon (f state)
  | .setActive on => .setActive on
  | .changeCode number => .changeCode number
  | .checkEmergency digits => .checkEmergency digits

end Turn

namespace Dialogue

variable [Daemon δ] {dialogue : Dialogue δ}

def opens (dialogue : Dialogue δ) (turn : Turn δ) : Option Dialog :=
  if dialogue.session.phase.dialog?.isSome ∧ turn.answers = false then none
  else (dialogue.step turn).session.phase.dialog?

/-- The session waits for the same thing after the turn. -/
theorem opens_of_phase {turn : Turn δ} (hanswers : turn.answers = false)
    (hsame : (dialogue.step turn).session.phase = dialogue.session.phase) :
    dialogue.opens turn = none := by
  rw [opens, hsame]
  cases hdialog : dialogue.session.phase.dialog? with
  | some dialog => simp [hanswers]
  | none => simp

/-- Only an answer ends a dialog. -/
theorem phase_of_asking {dialog : Dialog} (hdialog : dialogue.session.phase.dialog? = some dialog)
    {turn : Turn δ} (hanswers : turn.answers = false) :
    (dialogue.step turn).session.phase = dialogue.session.phase := by
  obtain ⟨question, attempts, message, hphase⟩ : ∃ question attempts message,
      dialogue.session.phase = .asking question attempts message := by
    cases hphase : dialogue.session.phase with
    | asking question attempts message => exact ⟨question, attempts, message, rfl⟩
    | _ =>
      rw [hphase] at hdialog
      cases hdialog
  cases turn with
  | answer code => cases hanswers
  | next => simp [step, CodeSession.next, hphase]
  | submit => simp [step, hphase]
  | settled =>
    simp only [step, CodeSession.settled, hphase]
    split
    · exact hphase
    · exact hphase
  | commandEnded => simp [step, CodeSession.commandEnded, hphase]
  | setActive on =>
    simp only [step, CodeSession.setActive]
    split <;> rfl
  | process event | flush | hear | daemon next | changeCode number | checkEmergency digits => rfl

end Dialogue

namespace Service

variable [Daemon δ] {service after : Service δ} {number : Nat} {options : CodeOptions}
  {startup : Bool} {session : CodeSession}

theorem new_of_opened
    (hopened : service.openSession number options startup = (.ok session, after)) :
    ∃ board subscriptions, session = .new board options startup subscriptions := by
  unfold openSession at hopened
  split at hopened
  · cases hopened
  · split at hopened
    · cases hopened
    · exact ⟨_, _, (Except.ok.inj (Prod.mk.inj hopened).1).symm⟩

/-- A session that has just been opened waits for its first note. -/
theorem idle_of_opened
    (hopened : service.openSession number options startup = (.ok session, after)) :
    session.phase = .idle := by
  obtain ⟨board, subscriptions, rfl⟩ := new_of_opened hopened
  rfl

end Service

end Telephony
