import Telephony.Proofs.Sessions.Dismissal
import Telephony.Proofs.Sessions.LockedSims

/-!
# Dialogs that come back

A stale note can bring a dialog back with no new cause to ask. The session takes up its notes until
it comes to the stale one, and finds a SIM that waits for a code by then, which the bus may have put
there without the session being told.
-/

namespace Telephony

open CodeSession (Note Question Message Cause Renewal Attempt)

namespace Dialogue

/-- A dialog that asks for the code of a SIM may come up without new cause. -/
def Reopens {δ : Type} [Daemon δ] (dialogue : Dialogue δ) : Prop :=
  ∃ turns, dialogue.Untriggered turns ∧ (dialogue.run turns).AsksToUnlock

namespace Reopens

variable {δ : Type} [Daemon δ] {dialogue : Dialogue δ}

theorem of_asks (hasks : dialogue.AsksToUnlock) : dialogue.Reopens := ⟨[], trivial, hasks⟩

theorem of_step (turn : Turn δ) (huntriggered : ¬ dialogue.Triggers turn)
    (hreopens : (dialogue.step turn).Reopens) : dialogue.Reopens := by
  obtain ⟨turns, hturns, hasks⟩ := hreopens
  exact ⟨turn :: turns, ⟨huntriggered, hturns⟩, hasks⟩

theorem of_events (events : List Event)
    (hreopens : ({ dialogue with service := events.foldl Service.process dialogue.service } :
      Dialogue δ).Reopens) : dialogue.Reopens := by
  induction events generalizing dialogue with
  | nil => exact hreopens
  | cons event rest ih => exact .of_step (.process event) id (ih hreopens)

end Reopens

variable {dialogue : Dialogue Simulator} {path : ModemPath}

/-! ### The bus locks a SIM -/

/-- The service knows the modem alone, and its SIM waits for a code. -/
structure Locked (dialogue : Dialogue Simulator) (path : ModemPath) : Prop where
  only : dialogue.board.defaultModem = some path
  waits : ∃ sim, dialogue.board.sim? path = some sim ∧ sim.status = .puk2Required

/-- It is enough that the dialog comes back once the bus has locked a SIM, of which nothing has been
told since the service settled. -/
theorem Reopens.of_locked (path : ModemPath)
    (hlocked : ∀ service,
      ({ dialogue with service, told := true } : Dialogue Simulator).Locked path →
      ({ dialogue with service, told := true } : Dialogue Simulator).Reopens) :
    dialogue.Reopens := by
  obtain ⟨hsound, hmodem, hempty⟩ := dialogue.service.departed_spec path
  let departed := (departures dialogue.board).foldl Service.process
    { dialogue.service with daemon := lockedBus path }
  refine .of_step (.daemon (lockedBus path)) id (.of_events (departures dialogue.board) ?_)
  change ({ dialogue with service := departed } : Dialogue Simulator).Reopens
  -- the service settles while there is no SIM that could wait
  refine .of_step .flush ?_ (.of_step (.process (lockedArrival path)) id ?_)
  · rintro ⟨other, -, sim, hsim, -⟩
    have hnone : departed.board.entry? other = none := Option.map_eq_none_iff.1 (hempty other)
    change (departed.board.entry? other).bind (·.sim) = some sim at hsim
    rw [hnone] at hsim
    cases hsim
  · have hdaemon : departed.flush.daemon = departed.daemon := departed.daemon_flush
    have hnone : ∀ other, departed.flush.holding? other .modem = none := fun other =>
      (departed.holding?_flush other .modem).trans (hempty other)
    obtain ⟨honly, hwaits⟩ :=
      Service.locked_of_arrival (hdaemon ▸ hsound) hnone (hdaemon ▸ hmodem)
    exact hlocked _ ⟨honly, hwaits⟩

/-- Unlocking a SIM that waits puts up the dialog. -/
theorem Locked.asksToUnlock (hlocked : dialogue.Locked path) (session : CodeSession)
    (message : Option Message) (cause : Cause) :
    ({ dialogue with session := (session.unlock dialogue.board path message cause).1 } :
      Dialogue Simulator).AsksToUnlock := by
  obtain ⟨sim, hsim, hstatus⟩ := hlocked.waits
  refine ⟨path, .puk2, cause, sim.retriesLeft .puk2, message, ?_⟩
  simp [CodeSession.unlock, hsim, hstatus, CodeSession.ask, CodeSession.await]

theorem Locked.needsCode (hlocked : dialogue.Locked path) :
    (dialogue.board.sim? path).any (·.status.needsCode) = true := by
  obtain ⟨sim, hsim, hstatus⟩ := hlocked.waits
  rw [hsim, Option.any_some, hstatus]
  rfl

/-! ### The session acts on a note -/

section Heeded

variable {note : Note} {notes : List Note}

/-- After the session has settled for a query, the SIM begins to wait before it goes on. -/
theorem reopens_of_codeQuery (hidle : dialogue.session.phase = .idle) {status : Sim.Status}
    (hnotes : dialogue.session.notes = .codeQuery path status :: notes)
    (hheeds : CodeSession.Heeds dialogue.session.active dialogue.session.followed
      (.codeQuery path status)) : dialogue.Reopens := by
  obtain ⟨hactive, hserves⟩ := hheeds
  let taken := ({ dialogue.session with notes }.take dialogue.board (.codeQuery path status)).1
  have hphase : taken.phase = .settlingQuery path := by
    cases hfollowed : dialogue.session.followed with
    | none => simp [taken, CodeSession.take, CodeSession.accepts, hfollowed, hactive,
        CodeSession.await]
    | some served =>
      have hserved : served = path := by simpa [hfollowed] using hserves
      simp [taken, CodeSession.take, CodeSession.accepts, hfollowed, hserved, hactive,
        CodeSession.await]
  refine .of_step .next id ?_
  rw [step_next hidle hnotes]
  change ({ dialogue with session := taken, told := false } : Dialogue Simulator).Reopens
  refine .of_locked path fun service hlocked => .of_step .settled id (.of_asks ?_)
  have hsettled : (taken.settled service.board).1 =
      (taken.unlock service.board path none .query).1 := by
    simp [CodeSession.settled, hphase]
  change Dialogue.AsksToUnlock
    { dialogue with service, session := (taken.settled service.board).1, told := true }
  rw [hsettled]
  exact hlocked.asksToUnlock taken none .query

theorem reopens_of_activated (hlocked : dialogue.Locked path)
    (hidle : dialogue.session.phase = .idle)
    (hnotes : dialogue.session.notes = .activated :: notes)
    (hfollowed : dialogue.session.followed = some path) : dialogue.Reopens := by
  refine .of_step .next id (.of_asks ?_)
  have htaken : { dialogue.session with notes }.take dialogue.board .activated =
      { dialogue.session with notes }.unlock dialogue.board path none .query := by
    simp [CodeSession.take, hfollowed, hlocked.needsCode]
  rw [step_next hidle hnotes, htaken]
  exact hlocked.asksToUnlock _ none .query

/-- An empty PIN is refused, and then the session sees that the SIM waits for a code. -/
theorem reopens_of_changeCode (hlocked : dialogue.Locked path)
    (hidle : dialogue.session.phase = .idle) {number : Nat}
    (hnotes : dialogue.session.notes = .changeCode number :: notes)
    (hserves : dialogue.session.followed = none ∨ dialogue.session.followed = some path) :
    dialogue.Reopens := by
  have hmodem : (dialogue.session.followed <|> dialogue.board.defaultModem) = some path := by
    rcases hserves with hnone | hsome
    · rw [hnone, hlocked.only]
      rfl
    · rw [hsome]
      rfl
  have htaken : ({ dialogue.session with notes }.take dialogue.board (.changeCode number)).1 =
      { dialogue.session with notes }.askCurrent dialogue.board path number none := by
    simp [CodeSession.take, hmodem]
  refine .of_step .next id (.of_step (.answer (some "")) id (.of_step (.answer (some "")) id
    (.of_step (.answer (some "")) id (.of_step .submit id (.of_asks ?_)))))
  rw [step_next hidle hnotes, htaken]
  let asked := { dialogue.session with notes }.askCurrent dialogue.board path number none
  let answered := (((asked.answer (some "")).1.answer (some "")).1.answer (some "")).1
  have hphase : answered.phase = .submitting (.change path "" "" number) := rfl
  obtain ⟨site, reason, hrefused⟩ : ∃ site reason,
      dialogue.service.attempt (.change path "" "" number) =
        (.error (.invalidInput site reason), dialogue.service) := ⟨_, _, rfl⟩
  have hattempted : (answered.attempted dialogue.board (.error (.invalidInput site reason))).1 =
      (answered.unlock dialogue.board path none
        (.change number (.invalidInput site reason))).1 := by
    simp [CodeSession.attempted, hphase, CodeSession.refused, CodeSession.retry, hlocked.needsCode]
  have hsubmitted : ({ dialogue with session := answered } : Dialogue Simulator).step .submit =
      { dialogue with
        session := (answered.attempted dialogue.board (.error (.invalidInput site reason))).1
        told := false } := by
    simp only [step, hphase, hrefused]
    rfl
  change Dialogue.AsksToUnlock (({ dialogue with session := answered } : Dialogue _).step .submit)
  rw [hsubmitted, hattempted]
  exact hlocked.asksToUnlock answered none _

end Heeded

/-- An idle session that comes to a note that it acts on may put up the dialog. -/
theorem reopens_of_heeds (hidle : dialogue.session.phase = .idle) {note : Note} {notes : List Note}
    (hnotes : dialogue.session.notes = note :: notes)
    (hheeds : CodeSession.Heeds dialogue.session.active dialogue.session.followed note) :
    dialogue.Reopens := by
  cases note with
  | status path status => exact hheeds.elim
  | codeQuery path status =>
    exact reopens_of_codeQuery hidle hnotes hheeds
  | activated =>
    obtain ⟨path, hfollowed⟩ := Option.ne_none_iff_exists'.1 hheeds
    exact .of_locked path fun service hlocked =>
      reopens_of_activated hlocked hidle hnotes hfollowed
  | changeCode number =>
    cases hfollowed : dialogue.session.followed with
    | none =>
      exact .of_locked ⟨""⟩ fun service hlocked =>
        reopens_of_changeCode hlocked hidle hnotes (.inl hfollowed)
    | some path =>
      exact .of_locked path fun service hlocked =>
        reopens_of_changeCode hlocked hidle hnotes (.inr hfollowed)

/-- The notes before the one that stirs the session are taken up without a dialog. -/
theorem reopens_of_stirs (hidle : dialogue.session.phase = .idle)
    (hstirs : CodeSession.Stirs dialogue.session.active dialogue.session.followed
      dialogue.session.notes) : dialogue.Reopens := by
  obtain ⟨notes, hnotes⟩ : ∃ notes, dialogue.session.notes = notes := ⟨_, rfl⟩
  rw [hnotes] at hstirs
  induction notes generalizing dialogue with
  | nil => exact hstirs.elim
  | cons note rest ih =>
    by_cases hheeds : CodeSession.Heeds dialogue.session.active dialogue.session.followed note
    · exact reopens_of_heeds hidle hnotes hheeds
    · obtain ⟨hphase, hleft, hfollowed, hactive⟩ := CodeSession.take_of_not_heeds dialogue.board
        { dialogue.session with notes := rest } hheeds
      refine .of_step .next id ?_
      rw [step_next hidle hnotes]
      refine ih (hphase.trans hidle) ?_ hleft
      rw [hfollowed, hactive]
      exact hstirs.resolve_left hheeds

theorem reopens_of_stale (hidle : dialogue.session.phase = .idle) (hstale : dialogue.Stale) :
    dialogue.Reopens :=
  .of_step .hear id (reopens_of_stirs hidle hstale)

/-! ### Dismissed for good -/

/-- A dialog that was dismissed stays dismissed until there is new cause to ask, whatever happens
meanwhile, exactly when no note that the session will act on was left as it was dismissed. -/
theorem stays_dismissed_iff_not_stale {question : Question} {attempts : Option UInt8}
    {message : Option Message}
    (hasking : dialogue.session.phase = .asking question attempts message) :
    (∀ turns, (dialogue.step (.answer none)).Untriggered turns →
        ¬ ((dialogue.step (.answer none)).run turns).AsksToUnlock) ↔
      ¬ (dialogue.step (.answer none)).Stale := by
  have hidle : (dialogue.step (.answer none)).session.phase = .idle := by
    simp only [step, CodeSession.answer, hasking]
    exact CodeSession.dismissed_idle dialogue.session question
  constructor
  · intro hstays hstale
    obtain ⟨turns, huntriggered, hasks⟩ := reopens_of_stale hidle hstale
    exact hstays turns huntriggered hasks
  · intro hfresh turns huntriggered
    have hrest : (dialogue.step (.answer none)).AtRest := ⟨hidle, hfresh⟩
    exact (atRest_run hrest huntriggered).not_asksToUnlock

/-- A SIM that is locked and lets one attempt at its PIN. -/
def lastAttempt : Simulator :=
  match (Simulator.empty.addModem ⟨"/m"⟩ [.simManager]).lockSim ⟨"/m"⟩ "1234" 1 with
  | .ok sim => sim
  | .error _ => .empty

/-- A session that is opened on a bus with that SIM. -/
def lastChance : Dialogue Simulator :=
  let (result, service) := (Service.stopped lastAttempt).openSession 0 ⟨none, [], none⟩ false
  match result with
  | .ok session => ⟨service, session, 0, false⟩
  | .error _ => ⟨service, .new service.board ⟨none, [], none⟩ false [], 0, false⟩

/-- The session asks for the PIN. -/
def untilAsked : List (Turn Simulator) := [.next, .next, .flush, .settled]

/-- A wrong PIN is entered, and the session asks for the PUK. -/
def untilRefused : List (Turn Simulator) :=
  let entered := untilAsked ++ [.answer (some "0000"), .submit]
  entered ++ (lastChance.run entered).settling

theorem stays_dismissed_iff_not_stale_last_attempt :
    (∀ turns, ((lastChance.run untilAsked).step (.answer none)).Untriggered turns →
        ¬ (((lastChance.run untilAsked).step (.answer none)).run turns).AsksToUnlock) ∧
      ¬ ∀ turns, ((lastChance.run untilRefused).step (.answer none)).Untriggered turns →
        ¬ (((lastChance.run untilRefused).step (.answer none)).run turns).AsksToUnlock := by
  have hasked : (lastChance.run untilAsked).session.phase =
      .asking (.unlock ⟨"/m"⟩ .pin .query) (some 1) none := by decide +kernel
  have hrefused : (lastChance.run untilRefused).session.phase =
      .asking (.unlock ⟨"/m"⟩ .puk .query) (some 10) (some .wrongCode) := by decide +kernel
  refine ⟨(stays_dismissed_iff_not_stale hasked).2 (by decide +kernel), fun hstays => ?_⟩
  exact (stays_dismissed_iff_not_stale hrefused).1 hstays (by decide +kernel)

/-- The wrong PIN left a query for the PUK, which asks again after the dialog was dismissed. -/
theorem not_always_dismissed :
    ¬ ∀ (dialogue : Dialogue Simulator) (daemon : Simulator) (options : CodeOptions)
        (startup : Bool) (before after : List (Turn Simulator)) (question : Question)
        (attempts : Option UInt8) (message : Option Message),
      dialogue.Opened daemon options startup →
      (dialogue.run before).session.phase = .asking question attempts message →
      ((dialogue.run before).step (.answer none)).Untriggered after →
      ¬ (((dialogue.run before).step (.answer none)).run after).AsksToUnlock := by
  intro halways
  refine halways lastChance lastAttempt ⟨none, [], none⟩ false untilRefused untilAsked
    (.unlock ⟨"/m"⟩ .puk .query) (some 10) (some .wrongCode) rfl (by decide +kernel)
    (by decide +kernel) ⟨⟨"/m"⟩, .puk, .query, some 10, none, ?_⟩
  decide +kernel

end Dialogue

end Telephony
