import Telephony.Proofs.Sessions.Prompting
import Telephony.Proofs.Sessions.Switching

/-!
# Muted sessions

A session whose prompting is switched off drops the queries that it comes to. It does not drop what
it was told when prompting was switched on, although prompting may be off again by the time that the
session comes to it. If the SIM waits for a code then, the user is asked for it.
-/

namespace Telephony

open CodeSession (Note Message Cause)

namespace CodeSession

variable {board : Switchboard} {session : CodeSession} {path : ModemPath}
  (message : Option Message) (cause : Cause)

theorem unlock_asks (huncached : session.cachedCode = none)
    (hwaits : (board.sim? path).any (·.status.needsCode) = true) :
    (session.unlock board path message cause).1.phase.dialog?.isSome = true := by
  obtain ⟨sim, hsim, hcode⟩ := (Option.any_eq_true _ _).1 hwaits
  rcases unlock_of_waits message cause session hsim hcode with
    ⟨code, attempts, -, hasked⟩ | ⟨pin, hcached, -⟩
  · rw [hasked]
    rfl
  · rw [huncached] at hcached
    cases hcached

end CodeSession

namespace Service

/-- A bus without modems takes no PIN. -/
theorem attempt_of_empty {service : Service Simulator} (hempty : service.daemon = .empty)
    (path : ModemPath) (code : SecurityCode) (pin : String) (cause : Cause) :
    ∃ failure, service.attempt (.enter path code pin cause) = (.error failure, service) := by
  simp only [attempt, enterPin, askSim]
  cases checkCode code pin with
  | error failure => exact ⟨failure, rfl⟩
  | ok =>
    simp only [ask]
    cases service.board.require path .simManager with
    | error failure => exact ⟨failure, rfl⟩
    | ok =>
      have henter : Daemon.enterPin path code pin Simulator.empty =
          (.error (.modemNotFound path), Simulator.empty) := rfl
      refine ⟨.modemNotFound path, ?_⟩
      rw [hempty, henter]
      exact Prod.ext rfl (congrArg (fun daemon => { service with daemon }) hempty.symm)

end Service

namespace Dialogue

section Handling

variable {δ : Type} [Daemon δ] {dialogue : Dialogue δ}

/-- Prompting is switched off as the session comes to the note. -/
structure Muted (dialogue : Dialogue δ) (note : Note) : Prop where
  idle : dialogue.session.phase = .idle
  off : dialogue.session.active = false
  first : dialogue.session.notes.head? = some note

/-- Prompting was switched on before, and the SIM that the session serves waits for a code. -/
def Insists (dialogue : Dialogue δ) (note : Note) : Prop :=
  note = .activated ∧
    (dialogue.session.followed.bind dialogue.board.sim?).any (·.status.needsCode) = true

instance (dialogue : Dialogue δ) (note : Note) : Decidable (dialogue.Insists note) :=
  inferInstanceAs (Decidable (_ ∧ _))

/-- The session has not gone back to its notes before any of the turns. -/
def Busy (dialogue : Dialogue δ) : List (Turn δ) → Prop
  | [] => True
  | turn :: rest => dialogue.session.phase ≠ .idle ∧ (dialogue.step turn).Busy rest

/-- A dialog may come up before the session goes back to its notes. -/
def MayAsk (dialogue : Dialogue δ) : Prop :=
  ∃ turns, dialogue.Busy turns ∧ (dialogue.run turns).session.phase.dialog?.isSome = true

namespace MayAsk

theorem of_asking (hasking : dialogue.session.phase.dialog?.isSome = true) : dialogue.MayAsk :=
  ⟨[], trivial, hasking⟩

theorem of_step (turn : Turn δ) (hbusy : dialogue.session.phase ≠ .idle)
    (hasks : (dialogue.step turn).MayAsk) : dialogue.MayAsk := by
  obtain ⟨turns, hturns, hasked⟩ := hasks
  exact ⟨turn :: turns, ⟨hbusy, hturns⟩, hasked⟩

end MayAsk

/-- In a run, a note insists only after prompting has been switched off, on and off again. -/
theorem switched_of_insists {daemon : δ} {options : CodeOptions} {startup : Bool} {note : Note}
    (hopened : dialogue.Opened daemon options startup) {turns : List (Turn δ)}
    (hmuted : (dialogue.run turns).Muted note) (hinsists : (dialogue.run turns).Insists note) :
    [.setActive false, .setActive true, .setActive false].Sublist turns := by
  have hmem : .activated ∈ (dialogue.run turns).session.notes :=
    hinsists.1 ▸ List.mem_of_mem_head? hmuted.first
  exact switched_of_activated hopened hmem hmuted.off

/-- A session that is muted drops the note, unless that insists. -/
theorem idle_of_not_insists {note : Note} (hmuted : dialogue.Muted note)
    (hnote : ∀ number, note ≠ .changeCode number) (hinsists : ¬ dialogue.Insists note) :
    (dialogue.step .next).session.phase = .idle := by
  obtain ⟨notes, hnotes⟩ := List.head?_eq_some_iff.1 hmuted.first
  rw [step_next hmuted.idle hnotes]
  let session : CodeSession := { dialogue.session with notes }
  have hdropped : ¬ CodeSession.Heeds session.active session.followed note →
      (session.take dialogue.board note).1.phase = .idle := fun hheeds =>
    (CodeSession.take_of_not_heeds dialogue.board session hheeds).1.trans hmuted.idle
  cases note with
  | status path status => exact hdropped id
  | codeQuery path status =>
    refine hdropped fun hheeds => ?_
    have hon : dialogue.session.active = true := hheeds.1
    rw [hmuted.off] at hon
    cases hon
  | changeCode number => exact absurd rfl (hnote number)
  | activated =>
    cases hfollowed : dialogue.session.followed with
    | none => exact hdropped fun hheeds => hheeds hfollowed
    | some path =>
      -- the SIM is looked at, and needs nothing
      have hidle : (dialogue.board.sim? path).any (·.status.needsCode) ≠ true := fun hwaits =>
        hinsists ⟨rfl, by rwa [hfollowed]⟩
      change (session.take dialogue.board .activated).1.phase = .idle
      simp only [CodeSession.take, session, hfollowed, if_neg hidle]
      exact hmuted.idle

/-- After a refusal the SIM still waits, and there is no code left to try. -/
theorem mayAsk_of_settlingRefusal {path : ModemPath} {code : SecurityCode} {pin : String}
    {cause : Cause} {failure : Failure}
    (hphase : dialogue.session.phase = .settlingRefusal (.enter path code pin cause) failure)
    (huncached : dialogue.session.cachedCode = none)
    (hwaits : (dialogue.board.sim? path).any (·.status.needsCode) = true) :
    dialogue.MayAsk := by
  have hbusy : dialogue.session.phase ≠ .idle := by
    rw [hphase]
    nofun
  refine .of_step .flush hbusy (.of_step .settled hbusy (.of_asking ?_))
  let board := (dialogue.step .flush).board
  have hstill : (board.sim? path).any (·.status.needsCode) = true := by
    change (dialogue.service.flush.board.sim? path).any (·.status.needsCode) = true
    rw [Service.board_flush, Switchboard.sim?_flush]
    exact hwaits
  have hsettled : ((dialogue.step .flush).step .settled).session =
      (dialogue.session.unlock board path
        (some (CodeSession.refusalMessage board (.enter path code pin cause))) cause).1 := by
    change (dialogue.session.settled board).1 = _
    simp [CodeSession.settled, hphase, CodeSession.retry]
  rw [hsettled]
  exact CodeSession.unlock_asks _ cause huncached hstill

end Handling

variable {dialogue : Dialogue Simulator} {path : ModemPath} {note : Note}

/-- The modem goes before the PIN reaches it, and the session has not heard of that yet. -/
theorem mayAsk_of_submitting {pin : String} {cause : Cause}
    (hphase : dialogue.session.phase = .submitting (.enter path .pin pin cause))
    (huncached : dialogue.session.cachedCode = none)
    (hwaits : (dialogue.board.sim? path).any (·.status.needsCode) = true) :
    dialogue.MayAsk := by
  have hbusy : dialogue.session.phase ≠ .idle := by
    rw [hphase]
    nofun
  refine .of_step (.daemon .empty) hbusy (.of_step .submit hbusy ?_)
  let gone := dialogue.step (.daemon .empty)
  have hempty : gone.service.daemon = .empty := rfl
  obtain ⟨failure, hattempt⟩ := Service.attempt_of_empty hempty path .pin pin cause
  have hrefused : gone.step .submit = { gone with
      session := (dialogue.session.refused dialogue.board (.enter path .pin pin cause) failure).1
      told := false } := by
    have hsubmitting : gone.session.phase = .submitting (.enter path .pin pin cause) := hphase
    simp only [step, hsubmitting, hattempt, CodeSession.attempted]
    rfl
  change (gone.step .submit).MayAsk
  rw [hrefused]
  cases failure with
  | invalidInput site reason =>
    exact .of_asking (CodeSession.unlock_asks _ cause huncached hwaits)
  | _ => exact mayAsk_of_settlingRefusal rfl rfl hwaits

theorem mayAsk_of_insists (hmuted : dialogue.Muted note) (hinsists : dialogue.Insists note) :
    (dialogue.step .next).MayAsk := by
  obtain ⟨rfl, hneeds⟩ := hinsists
  obtain ⟨path, hfollowed, hwaits⟩ : ∃ path, dialogue.session.followed = some path ∧
      (dialogue.board.sim? path).any (·.status.needsCode) = true := by
    cases hfollowed : dialogue.session.followed with
    | none =>
      rw [hfollowed] at hneeds
      cases hneeds
    | some path => exact ⟨path, rfl, by rwa [hfollowed] at hneeds⟩
  obtain ⟨notes, hnotes⟩ := List.head?_eq_some_iff.1 hmuted.first
  have htaken : { dialogue.session with notes }.take dialogue.board .activated =
      { dialogue.session with notes }.unlock dialogue.board path none .query := by
    simp [CodeSession.take, hfollowed, hwaits]
  rw [step_next hmuted.idle hnotes, htaken]
  obtain ⟨sim, hsim, hcode⟩ := (Option.any_eq_true _ _).1 hwaits
  rcases CodeSession.unlock_of_waits none .query { dialogue.session with notes } hsim hcode with
    ⟨code, attempts, -, hasked⟩ | ⟨pin, -, htried⟩
  · refine .of_asking ?_
    rw [hasked]
    rfl
  · rw [htried]
    exact mayAsk_of_submitting rfl rfl hwaits

/-- A session that comes to a note while it is muted opens no dialog until it goes back to its
notes, whatever happens meanwhile, exactly when the note does not insist. A wish to change the PIN
is served in any case. -/
theorem opens_nothing_iff_not_insists (hmuted : dialogue.Muted note)
    (hnote : ∀ number, note ≠ .changeCode number) :
    (∀ turns, (dialogue.step .next).Busy turns →
        ((dialogue.step .next).run turns).session.phase.dialog? = none) ↔
      ¬ dialogue.Insists note := by
  constructor
  · intro hsilent hinsists
    obtain ⟨turns, hbusy, hasked⟩ := mayAsk_of_insists hmuted hinsists
    rw [hsilent turns hbusy] at hasked
    cases hasked
  · intro hinsists turns hbusy
    have hidle := idle_of_not_insists hmuted hnote hinsists
    cases turns with
    | nil =>
      change (dialogue.step .next).session.phase.dialog? = none
      rw [hidle]
      rfl
    | cons turn rest => exact absurd hidle hbusy.1

/-- While the user is asked for the PIN, prompting is switched off, on and off again, and then the
dialog is dismissed. -/
def untilMuted : List (Turn Simulator) :=
  untilAsked ++ [.setActive false, .setActive true, .setActive false, .answer none]

theorem opens_nothing_iff_not_insists_last_attempt :
    (∀ turns, ((lastChance.run [.next, .setActive false]).step .next).Busy turns →
        (((lastChance.run [.next, .setActive false]).step .next).run
          turns).session.phase.dialog? = none) ∧
      ¬ ∀ turns, ((lastChance.run untilMuted).step .next).Busy turns →
        (((lastChance.run untilMuted).step .next).run turns).session.phase.dialog? = none := by
  have hquery : (lastChance.run [.next, .setActive false]).Muted
      (.codeQuery ⟨"/m"⟩ .pinRequired) := ⟨rfl, rfl, by decide +kernel⟩
  have hactivated : (lastChance.run untilMuted).Muted .activated :=
    ⟨by decide +kernel, by decide +kernel, by decide +kernel⟩
  refine ⟨(opens_nothing_iff_not_insists hquery nofun).2 (by decide +kernel), fun hsilent => ?_⟩
  exact (opens_nothing_iff_not_insists hactivated nofun).1 hsilent (by decide +kernel)

/-- A session that was switched on once asks for the PIN although it is muted again. -/
theorem not_always_muted :
    ¬ ∀ (dialogue : Dialogue Simulator) (daemon : Simulator) (options : CodeOptions)
        (startup : Bool) (before after : List (Turn Simulator)) (note : Note),
      dialogue.Opened daemon options startup →
      (dialogue.run before).Muted note →
      (note = .activated ∨ ∃ path status, note = .codeQuery path status) →
      ((dialogue.run before).step .next).Busy after →
      (((dialogue.run before).step .next).run after).session.phase.dialog? = none := by
  intro halways
  have hmuted : (lastChance.run untilMuted).Muted .activated :=
    ⟨by decide +kernel, by decide +kernel, by decide +kernel⟩
  have hasked : ((lastChance.run untilMuted).step .next).session.phase.dialog? =
      some ⟨.unlock .pin, some 1, none⟩ := by decide +kernel
  have hsilent := halways lastChance lastAttempt ⟨none, [], none⟩ false untilMuted [] .activated rfl
    hmuted (.inl rfl) trivial
  change ((lastChance.run untilMuted).step .next).session.phase.dialog? = none at hsilent
  rw [hasked] at hsilent
  cases hsilent

end Dialogue

end Telephony
