import Telephony.Proofs.Sessions.Dismissal
import Telephony.Proofs.Sessions.Openings

/-!
# Prompting switched off and on

Only from outside is prompting switched off or on. A session is told once each time that prompting
comes on again; whatever it does by itself leaves the switch as it is, and tells it nothing of that
kind.
-/

namespace Telephony

open CodeSession (Note Question Message Cause Attempt)

namespace CodeSession

/-- The switch is as it was, and there is no new word that it was turned on. -/
def Spares (session after : CodeSession) : Prop :=
  after.active = session.active ∧ (.activated ∈ after.notes → .activated ∈ session.notes)

namespace Spares

variable {first second third : CodeSession}

theorem refl (session : CodeSession) : session.Spares session := ⟨rfl, id⟩

theorem trans (hfirst : first.Spares second) (hsecond : second.Spares third) :
    first.Spares third :=
  ⟨hsecond.1.trans hfirst.1, hfirst.2 ∘ hsecond.2⟩

end Spares

variable (session : CodeSession) (board : Switchboard)

theorem finish_spares (cause : Cause) : session.Spares (session.finish cause).1 := by
  cases cause <;> exact ⟨rfl, id⟩

theorem statusChanged_spares (status : Sim.Status) :
    session.Spares (session.statusChanged status).1 := by
  obtain ⟨-, hnotes, -, hactive⟩ := statusChanged_spec session status
  exact ⟨hactive, fun hmem => hnotes ▸ hmem⟩

theorem accepts_spares (path : ModemPath) : session.Spares (session.accepts path).2 := by
  unfold accepts
  cases session.followed <;> exact ⟨rfl, id⟩

/-! ### Flows -/

theorem unlock_spares (path : ModemPath) (message : Option Message) (cause : Cause) :
    session.Spares (session.unlock board path message cause).1 := by
  unfold unlock
  split
  · exact finish_spares (session.enter .pinError) cause
  · split
    · split <;> exact ⟨rfl, id⟩
    · exact ⟨rfl, id⟩
    · exact ⟨rfl, id⟩
    · exact finish_spares (session.enter .ok) cause
    · exact (statusChanged_spares { session with lastStatus := .unknown } _).trans
        (finish_spares _ cause)

theorem dismissed_spares (question : Question) :
    session.Spares (session.dismissed question).1 := by
  have hfinished := finish_spares (session.enter .pinError)
  cases question with
  | unlock path code cause => exact hfinished cause
  | currentPin path number => exact ⟨rfl, id⟩
  | newPin renewal | confirmPin renewal first =>
    cases renewal with
    | unblock path code puk cause => exact hfinished cause
    | replace path current number => exact ⟨rfl, id⟩

theorem entered_spares (question : Question) (code : String) :
    session.Spares (session.entered question code) := by
  cases question with
  | unlock path kind cause => cases kind <;> exact ⟨rfl, id⟩
  | currentPin path number => exact ⟨rfl, id⟩
  | newPin renewal => exact ⟨rfl, id⟩
  | confirmPin renewal first =>
    by_cases hsame : first = code
    · simp only [entered, hsame, if_true]
      cases renewal <;> exact ⟨rfl, id⟩
    · simp only [entered, hsame, if_false]
      exact ⟨rfl, id⟩

theorem accepted_spares (cause : Cause) : session.Spares (session.accepted cause).1 :=
  finish_spares (session.enter .ok) cause

theorem unlocked_spares (pin : String) (cause : Cause) :
    session.Spares (session.unlocked pin cause).1 := by
  unfold unlocked
  dsimp only
  split
  · exact ⟨rfl, id⟩
  · exact accepted_spares { session with cachedCode := some pin } cause

theorem retry_spares (attempt : Attempt) (failure : Failure) (message : Message) :
    session.Spares (session.retry board attempt failure message).1 := by
  cases attempt with
  | enter path code pin cause => exact unlock_spares session board path (some message) cause
  | reset path code puk newPin cause => exact unlock_spares session board path (some message) cause
  | change path current newPin number =>
    unfold retry
    dsimp only
    split
    · exact unlock_spares session board path none _
    · exact ⟨rfl, id⟩

/-! ### Steps -/

theorem take_spares (note : Note) : session.Spares (session.take board note).1 := by
  cases note with
  | status path status =>
    have haccepts := session.accepts_spares path
    rcases hserved : session.accepts path with ⟨serves, served⟩
    rw [hserved] at haccepts
    simp only [take, hserved]
    cases serves with
    | true => exact haccepts.trans (statusChanged_spares served status)
    | false => exact haccepts
  | codeQuery path status =>
    have haccepts := session.accepts_spares path
    rcases hserved : session.accepts path with ⟨serves, served⟩
    rw [hserved] at haccepts
    simp only [take, hserved]
    cases serves with
    | true =>
      dsimp only
      split
      · exact haccepts.trans ⟨rfl, id⟩
      · exact haccepts
    | false => exact haccepts
  | activated =>
    simp only [take]
    split
    · split
      · exact unlock_spares session board _ none .query
      · exact .refl session
    · exact .refl session
  | changeCode number =>
    simp only [take]
    split <;> exact ⟨rfl, id⟩

theorem answer_spares (code : Option String) : session.Spares (session.answer code).1 := by
  unfold answer
  split
  · exact entered_spares session _ _
  · exact dismissed_spares session _
  · exact .refl session

theorem attempted_spares (result : Except Failure Unit) :
    session.Spares (session.attempted board result).1 := by
  unfold attempted
  split
  · unfold refused
    split
    · exact retry_spares session board _ _ _
    · exact ⟨rfl, id⟩
  · exact unlocked_spares session _ _
  · exact unlocked_spares session _ _
  · exact ⟨rfl, id⟩
  · exact .refl session

theorem settled_spares : session.Spares (session.settled board).1 := by
  unfold settled
  split
  · exact unlock_spares session board _ none .query
  · exact retry_spares session board _ _ _
  · exact .refl session

theorem commandEnded_spares : session.Spares session.commandEnded.1 := by
  unfold commandEnded
  split
  · exact accepted_spares session _
  · exact .refl session

/-- At first a session is told of its SIM alone. -/
theorem activated_not_mem_firstNotes (modem : Option ModemPath) :
    .activated ∉ firstNotes board modem := by
  unfold firstNotes
  split
  · exact List.not_mem_nil
  · split <;> simp

variable {session}

/-- The session is told that prompting came on only when it was off. -/
theorem activated_of_setActive {on : Bool} (hmem : .activated ∈ (session.setActive on).notes) :
    .activated ∈ session.notes ∨ on = true ∧ session.active = false := by
  unfold setActive at hmem
  dsimp only at hmem
  split at hmem
  · next hswitched => exact .inr (by simpa using hswitched)
  · exact .inl hmem

theorem active_setActive (on : Bool) : (session.setActive on).active = on := by
  unfold setActive
  dsimp only
  split <;> rfl

end CodeSession

namespace Dialogue

variable {δ : Type} [Daemon δ] {dialogue : Dialogue δ}

/-- Every turn but those of the switch leaves it alone. -/
theorem spares_step {turn : Turn δ} (hother : ∀ on, turn ≠ .setActive on) :
    dialogue.session.Spares (dialogue.step turn).session := by
  cases turn with
  | next =>
    cases hnext : dialogue.session.next dialogue.board with
    | none =>
      simp only [step, hnext]
      exact .refl _
    | some next =>
      simp only [step, hnext]
      unfold CodeSession.next at hnext
      split at hnext
      · next note notes hidle hnotes =>
        obtain rfl := Option.some.inj hnext
        have htaken := CodeSession.take_spares { dialogue.session with notes } dialogue.board note
        refine ⟨htaken.1, fun hmem => ?_⟩
        rw [hnotes]
        exact .tail _ (htaken.2 hmem)
      · cases hnext
  | answer code => exact CodeSession.answer_spares dialogue.session code
  | submit =>
    simp only [step]
    split
    · exact CodeSession.attempted_spares dialogue.session _ _
    · exact .refl _
  | settled =>
    simp only [step]
    split
    · exact CodeSession.settled_spares dialogue.session dialogue.board
    · exact .refl _
  | commandEnded => exact CodeSession.commandEnded_spares dialogue.session
  | hear =>
    refine ⟨rfl, fun hmem => ?_⟩
    rcases List.mem_append.1 hmem with hold | hnew
    · exact hold
    · obtain ⟨hearing, -, hnote⟩ := List.mem_filterMap.1 hnew
      exact absurd rfl (noteFor_ne hnote).1
  | changeCode number =>
    refine ⟨rfl, fun hmem => ?_⟩
    rcases List.mem_append.1 hmem with hold | hnew
    · exact hold
    · cases List.mem_singleton.1 hnew
  | setActive on => exact absurd rfl (hother on)
  | process event | flush | daemon next | checkEmergency digits => exact ⟨rfl, id⟩

/-- Prompting that is off and was on has been switched off. -/
theorem switched_off_of_run {turns : List (Turn δ)} (hon : dialogue.session.active = true)
    (hoff : (dialogue.run turns).session.active = false) : .setActive false ∈ turns := by
  induction turns generalizing dialogue with
  | nil =>
    change dialogue.session.active = false at hoff
    rw [hon] at hoff
    cases hoff
  | cons turn rest ih =>
    cases hstep : (dialogue.step turn).session.active with
    | true => exact .tail _ (ih hstep hoff)
    | false =>
      -- this turn has done it
      by_cases hother : ∀ on, turn ≠ .setActive on
      · rw [(spares_step hother).1, hon] at hstep
        cases hstep
      · obtain ⟨on, hturn⟩ := not_forall_not.1 hother
        subst hturn
        obtain rfl : on = false := (CodeSession.active_setActive on).symm.trans hstep
        exact List.mem_cons_self

/-- A session that has come to know that prompting came on learnt it as that was off. -/
theorem switched_on_of_run {turns : List (Turn δ)} (hnone : .activated ∉ dialogue.session.notes)
    (hmem : .activated ∈ (dialogue.run turns).session.notes) :
    ∃ first rest, turns = first ++ .setActive true :: rest ∧
      (dialogue.run first).session.active = false := by
  induction turns generalizing dialogue with
  | nil => exact absurd hmem hnone
  | cons turn rest ih =>
    by_cases hstep : .activated ∈ (dialogue.step turn).session.notes
    · by_cases hother : ∀ on, turn ≠ .setActive on
      · exact absurd ((spares_step hother).2 hstep) hnone
      · obtain ⟨on, hturn⟩ := not_forall_not.1 hother
        subst hturn
        obtain ⟨rfl, hoff⟩ := (CodeSession.activated_of_setActive hstep).resolve_left hnone
        exact ⟨[], rest, rfl, hoff⟩
    · obtain ⟨first, later, hrest, hoff⟩ := ih hstep hmem
      exact ⟨turn :: first, later, by rw [hrest, List.cons_append], hoff⟩

/-- Prompting is off as the session still knows that it came on: it has been switched off, on and
off again. -/
theorem switched_of_activated {daemon : δ} {options : CodeOptions} {startup : Bool}
    (hopened : dialogue.Opened daemon options startup) {turns : List (Turn δ)}
    (hmem : .activated ∈ (dialogue.run turns).session.notes)
    (hoff : (dialogue.run turns).session.active = false) :
    [.setActive false, .setActive true, .setActive false].Sublist turns := by
  obtain ⟨board, subscriptions, hnew⟩ := Service.new_of_opened hopened
  have hon : dialogue.session.active = true := by rw [hnew]; rfl
  have hnone : .activated ∉ dialogue.session.notes := by
    rw [hnew]
    exact CodeSession.activated_not_mem_firstNotes board _
  obtain ⟨first, rest, rfl, hbefore⟩ := switched_on_of_run hnone hmem
  have hfirst : .setActive false ∈ first := switched_off_of_run hon hbefore
  have hrest : .setActive false ∈ rest := by
    have hthen : ((dialogue.run first).step (.setActive true)).session.active = true :=
      CodeSession.active_setActive true
    rw [run_append] at hoff
    exact switched_off_of_run hthen hoff
  exact (List.singleton_sublist.2 hfirst).append
    ((List.singleton_sublist.2 hrest).cons_cons (.setActive true))

end Dialogue

end Telephony
