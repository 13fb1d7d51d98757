import Telephony.Proofs.Sessions.Dialogue

/-!
# Dismissed dialogs

After the user has dismissed a dialog the session is idle, and only a note can bring it out of that.
A note is new cause to ask if it comes of a SIM that begins to wait for a code, of prompting that is
switched on, or of a wish to change the PIN. A note that was left before the dialog was dismissed is
taken up all the same. Unless there is such a stale note, the dialog stays dismissed.
-/

namespace Telephony

namespace CodeSession

/-- Whether an idle session that serves the modem `followed` acts on a note. One that serves none
will serve the modem of the note. -/
def Heeds (active : Bool) (followed : Option ModemPath) : Note → Prop
  | .status _ _ => False
  | .codeQuery path _ => active = true ∧ (followed <|> some path) = some path
  | .activated => followed ≠ none
  | .changeCode _ => True

/-- One of the notes, taken up in order, makes the session act. -/
def Stirs (active : Bool) : Option ModemPath → List Note → Prop
  | _, [] => False
  | followed, note :: rest =>
    Heeds active followed note ∨ Stirs active (followed <|> note.path?) rest

instance (active : Bool) (followed : Option ModemPath) (note : Note) :
    Decidable (Heeds active followed note) :=
  match note with
  | .status _ _ => inferInstanceAs (Decidable False)
  | .codeQuery path _ =>
    inferInstanceAs (Decidable (active = true ∧ (followed <|> some path) = some path))
  | .activated => inferInstanceAs (Decidable (followed ≠ none))
  | .changeCode _ => inferInstanceAs (Decidable True)

instance decidableStirs (active : Bool) : (followed : Option ModemPath) → (notes : List Note) →
    Decidable (Stirs active followed notes)
  | _, [] => inferInstanceAs (Decidable False)
  | followed, note :: rest =>
    letI := decidableStirs active (followed <|> note.path?) rest
    inferInstanceAs (Decidable (Heeds active followed note ∨ Stirs active _ rest))

variable {active : Bool} {followed : Option ModemPath}

theorem follows_cons (note : Note) (rest : List Note) :
    follows followed (note :: rest) = follows (followed <|> note.path?) rest := by
  cases followed <;> cases hpath : note.path? <;> simp [follows, hpath]

theorem follows_append (notes more : List Note) :
    follows followed (notes ++ more) = follows (follows followed notes) more := by
  induction notes generalizing followed with
  | nil => cases followed <;> rfl
  | cons note rest ih => rw [List.cons_append, follows_cons, ih, follows_cons]

theorem follows_of_followed {path : ModemPath} (notes : List Note) :
    follows (some path) notes = some path := rfl

theorem stirs_append (notes more : List Note) :
    Stirs active followed (notes ++ more) ↔
      Stirs active followed notes ∨ Stirs active (follows followed notes) more := by
  induction notes generalizing followed with
  | nil => cases followed <;> simp [Stirs, follows]
  | cons note rest ih => rw [List.cons_append, Stirs, ih, Stirs, follows_cons, or_assoc]

/-- A session that is switched off acts on fewer notes. -/
theorem Stirs.of_inactive {notes : List Note} (hstirs : Stirs false followed notes) :
    Stirs active followed notes := by
  induction notes generalizing followed with
  | nil => exact hstirs
  | cons note rest ih =>
    refine Or.imp (fun hheeds => ?_) ih hstirs
    cases note with
    | codeQuery path status => exact absurd hheeds.1 Bool.false_ne_true
    | _ => exact hheeds

/-- News of SIMs stir a session only by a code query of the modem that it serves then. -/
theorem exists_codeQuery_of_stirs {notes : List Note} (hstirs : Stirs active followed notes)
    (hnews : ∀ note ∈ notes, note ≠ .activated ∧ ∀ number, note ≠ .changeCode number) :
    ∃ path status, .codeQuery path status ∈ notes ∧ follows followed notes = some path := by
  induction notes generalizing followed with
  | nil => exact hstirs.elim
  | cons note rest ih =>
    rcases hstirs with hheeds | hrest
    · cases note with
      | status path status => exact hheeds.elim
      | codeQuery path status =>
        refine ⟨path, status, List.mem_cons_self, ?_⟩
        rw [follows_cons]
        change follows (followed <|> some path) rest = some path
        rw [hheeds.2, follows_of_followed]
      | activated => exact absurd rfl (hnews _ List.mem_cons_self).1
      | changeCode number => exact absurd rfl ((hnews _ List.mem_cons_self).2 number)
    · obtain ⟨path, status, hmem, hfollows⟩ := ih hrest fun note hnote => hnews note (.tail _ hnote)
      exact ⟨path, status, .tail _ hmem, by rw [follows_cons, hfollows]⟩

/-! ### Steps of an idle session -/

/-- Taking up a status keeps all that decides what the session does next. -/
theorem statusChanged_spec (session : CodeSession) (status : Sim.Status) :
    (session.statusChanged status).1.phase = session.phase ∧
      (session.statusChanged status).1.notes = session.notes ∧
      (session.statusChanged status).1.followed = session.followed ∧
      (session.statusChanged status).1.active = session.active := by
  unfold statusChanged
  split
  · exact ⟨rfl, rfl, rfl, rfl⟩
  · cases status <;> simp only [enter, and_self]
    split <;> exact ⟨rfl, rfl, rfl, rfl⟩

/-- A note that the session does not act on may tell it at most whom to serve. -/
theorem take_of_not_heeds (board : Switchboard) (session : CodeSession) {note : Note}
    (hheeds : ¬ Heeds session.active session.followed note) :
    (session.take board note).1.phase = session.phase ∧
      (session.take board note).1.notes = session.notes ∧
      (session.take board note).1.followed = (session.followed <|> note.path?) ∧
      (session.take board note).1.active = session.active := by
  cases note with
  | status path status =>
    cases hfollowed : session.followed with
    | none =>
      have htake : session.take board (.status path status) =
          ({ session with followed := some path }).statusChanged status := by
        simp [take, accepts, hfollowed]
      rw [htake]
      exact statusChanged_spec { session with followed := some path } status
    | some served =>
      by_cases hserved : served = path
      · have htake : session.take board (.status path status) = session.statusChanged status := by
          simp [take, accepts, hfollowed, hserved]
        rw [htake]
        obtain ⟨hphase, hnotes, hsame, hactive⟩ := statusChanged_spec session status
        exact ⟨hphase, hnotes, hsame.trans hfollowed, hactive⟩
      · simp [take, accepts, hfollowed, hserved]
  | codeQuery path status =>
    cases hfollowed : session.followed with
    | none =>
      have hactive : session.active = false := by
        by_contra hactive
        exact hheeds ⟨by simpa using hactive, by rw [hfollowed]; rfl⟩
      simp [take, accepts, hfollowed, hactive, Note.path?]
    | some served =>
      by_cases hserved : served = path
      · have hactive : session.active = false := by
          by_contra hactive
          exact hheeds ⟨by simpa using hactive, by rw [hfollowed, hserved]; rfl⟩
        simp [take, accepts, hfollowed, hactive, hserved]
      · simp [take, accepts, hfollowed, hserved]
  | activated =>
    have hfollowed : session.followed = none := Classical.not_not.1 hheeds
    simp [take, hfollowed, Note.path?]
  | changeCode number => exact absurd trivial hheeds

theorem finish_idle (session : CodeSession) (cause : Cause) :
    (session.finish cause).1.phase = .idle := by
  cases cause <;> rfl

theorem dismissed_idle (session : CodeSession) (question : Question) :
    (session.dismissed question).1.phase = .idle := by
  cases question with
  | unlock path code cause => exact finish_idle _ cause
  | currentPin path number => rfl
  | newPin renewal => cases renewal <;> first | exact finish_idle _ _ | rfl
  | confirmPin renewal first => cases renewal <;> first | exact finish_idle _ _ | rfl

end CodeSession

open CodeSession (Note Question Message)

variable {δ : Type}

theorem noteFor_eq_codeQuery {number : Nat} {hearing : Hearing} {path : ModemPath}
    {status : Sim.Status} (hnote : noteFor number hearing = some (.codeQuery path status)) :
    hearing.path = path ∧ hearing.news = .codeQuery status := by
  unfold noteFor at hnote
  split at hnote
  · cases hnews : hearing.news <;> simp_all [CodeSession.noteOf]
  · cases hnote

/-- The notes of news are those of SIMs. -/
theorem noteFor_ne {number : Nat} {hearing : Hearing} {note : Note}
    (hnote : noteFor number hearing = some note) :
    note ≠ .activated ∧ ∀ change, note ≠ .changeCode change := by
  unfold noteFor at hnote
  split at hnote
  · cases hnews : hearing.news <;> simp_all [CodeSession.noteOf] <;> subst hnote <;> simp
  · cases hnote

namespace Dialogue

/-- A note waits that the session will act on. -/
def Stale (dialogue : Dialogue δ) : Prop :=
  CodeSession.Stirs dialogue.session.active dialogue.session.followed dialogue.pending

instance (dialogue : Dialogue δ) : Decidable dialogue.Stale :=
  inferInstanceAs (Decidable (CodeSession.Stirs _ _ _))

/-- A dialog is up that asks for the code a SIM waits for. -/
def AsksToUnlock (dialogue : Dialogue δ) : Prop :=
  ∃ path code cause attempts message,
    dialogue.session.phase = .asking (.unlock path code cause) attempts message

/-- The session waits for a note, and none that it will act on is there. -/
structure AtRest (dialogue : Dialogue δ) : Prop where
  idle : dialogue.session.phase = .idle
  fresh : ¬ dialogue.Stale

theorem AtRest.not_asksToUnlock {dialogue : Dialogue δ} (hrest : dialogue.AtRest) :
    ¬ dialogue.AsksToUnlock := by
  rintro ⟨path, code, cause, attempts, message, hasking⟩
  rw [hrest.idle] at hasking
  cases hasking

/-- News that hold no code query of the modem served leave a session at rest. -/
theorem AtRest.of_news {dialogue after : Dialogue δ} {news : List Hearing} (hrest : dialogue.AtRest)
    (hsession : after.session = dialogue.session) (hnumber : after.number = dialogue.number)
    (hheard : after.service.heard = dialogue.service.heard ++ news)
    (hnews : ∀ hearing ∈ news, ∀ status, hearing.news = .codeQuery status →
      after.modem? ≠ some hearing.path) : after.AtRest := by
  have hpending : after.pending =
      dialogue.pending ++ news.filterMap (noteFor dialogue.number) := by
    unfold pending
    rw [hsession, hnumber, hheard, List.filterMap_append, List.append_assoc]
  refine ⟨hsession ▸ hrest.idle, fun hstale => ?_⟩
  unfold Stale at hstale
  rw [hsession, hpending, CodeSession.stirs_append] at hstale
  rcases hstale with hold | hnew
  · exact hrest.fresh hold
  · obtain ⟨path, status, hnote, hfollows⟩ := CodeSession.exists_codeQuery_of_stirs hnew
      fun note hnote => by
        obtain ⟨hearing, -, hmade⟩ := List.mem_filterMap.1 hnote
        exact noteFor_ne hmade
    obtain ⟨hearing, hmem, hmade⟩ := List.mem_filterMap.1 hnote
    obtain ⟨rfl, hquery⟩ := noteFor_eq_codeQuery hmade
    refine hnews hearing hmem status hquery ?_
    unfold modem?
    rw [hsession, hpending, CodeSession.follows_append]
    exact hfollows

variable [Daemon δ]

/-- New cause to ask: the SIM that the session serves begins to wait for a code at a flush,
prompting is switched on, or the PIN is to be changed. -/
def Triggers (dialogue : Dialogue δ) : Turn δ → Prop
  | .flush => ∃ path, (dialogue.step .flush).modem? = some path ∧ dialogue.board.BeginsToWait path
  | .setActive on => on = true ∧ dialogue.session.active = false
  | .changeCode _ => True
  | _ => False

instance (dialogue : Dialogue δ) : (turn : Turn δ) → Decidable (dialogue.Triggers turn)
  | .flush =>
    decidable_of_iff ((dialogue.step .flush).modem?.any fun path => dialogue.board.BeginsToWait path)
      (by simp [Triggers, Option.any_eq_true])
  | .setActive on => inferInstanceAs (Decidable (on = true ∧ dialogue.session.active = false))
  | .changeCode _ => inferInstanceAs (Decidable True)
  | .next | .answer _ | .submit | .settled | .commandEnded | .process _ | .hear | .daemon _
  | .checkEmergency _ => inferInstanceAs (Decidable False)

/-- There is no new cause to ask in any of the turns. -/
def Untriggered (dialogue : Dialogue δ) : List (Turn δ) → Prop
  | [] => True
  | turn :: rest => ¬ dialogue.Triggers turn ∧ (dialogue.step turn).Untriggered rest

instance decidableUntriggered : (dialogue : Dialogue δ) → (turns : List (Turn δ)) →
    Decidable (dialogue.Untriggered turns)
  | _, [] => inferInstanceAs (Decidable True)
  | dialogue, turn :: rest =>
    letI := decidableUntriggered (dialogue.step turn) rest
    inferInstanceAs (Decidable (¬ dialogue.Triggers turn ∧ _))

theorem atRest_next {dialogue : Dialogue δ} (hrest : dialogue.AtRest) :
    (dialogue.step .next).AtRest := by
  cases hnotes : dialogue.session.notes with
  | nil =>
    have hnext : dialogue.session.next dialogue.board = none := by
      simp [CodeSession.next, hrest.idle, hnotes]
    simpa only [step, hnext] using hrest
  | cons note notes =>
    have hpending : dialogue.pending =
        note :: (notes ++ dialogue.service.heard.filterMap (noteFor dialogue.number)) := by
      rw [pending, hnotes, List.cons_append]
    have hfresh := hrest.fresh
    unfold Stale at hfresh
    rw [hpending, CodeSession.Stirs, not_or] at hfresh
    obtain ⟨hphase, hleft, hfollowed, hactive⟩ := CodeSession.take_of_not_heeds dialogue.board
      { dialogue.session with notes } hfresh.1
    rw [step_next hrest.idle hnotes]
    refine ⟨hphase.trans hrest.idle, ?_⟩
    unfold Stale pending
    rw [hleft, hfollowed, hactive]
    exact hfresh.2

theorem atRest_flush {dialogue : Dialogue δ} (hrest : dialogue.AtRest)
    (huntriggered : ¬ dialogue.Triggers .flush) : (dialogue.step .flush).AtRest := by
  obtain ⟨news, hheard, hmade⟩ := dialogue.service.heard_flush
  refine hrest.of_news rfl rfl hheard ?_
  intro hearing hmem status hquery hmodem
  obtain ⟨delivery, hdelivery, hpath, hnews⟩ := hmade hearing hmem
  refine huntriggered ⟨hearing.path, hmodem, ?_⟩
  rw [hpath]
  exact Switchboard.beginsToWait_of_flush hdelivery (hnews.symm.trans hquery)

theorem atRest_setActive {dialogue : Dialogue δ} (hrest : dialogue.AtRest) {on : Bool}
    (huntriggered : ¬ dialogue.Triggers (.setActive on)) :
    (dialogue.step (.setActive on)).AtRest := by
  have hsession : dialogue.session.setActive on = { dialogue.session with active := on } := by
    have hon : (on && !dialogue.session.active) = false := by
      by_contra hboth
      have hswitched : on = true ∧ dialogue.session.active = false := by simpa using hboth
      exact huntriggered hswitched
    simp [CodeSession.setActive, hon]
  simp only [step, hsession]
  refine ⟨hrest.idle, fun hstale => hrest.fresh ?_⟩
  unfold Stale at hstale ⊢
  cases on with
  | false => exact CodeSession.Stirs.of_inactive hstale
  | true =>
    have hactive : dialogue.session.active = true := by
      by_contra hoff
      exact huntriggered ⟨rfl, by simpa using hoff⟩
    rw [hactive]
    exact hstale

/-- A session at rest stays at rest until there is new cause to ask. -/
theorem atRest_step {dialogue : Dialogue δ} (hrest : dialogue.AtRest) {turn : Turn δ}
    (huntriggered : ¬ dialogue.Triggers turn) : (dialogue.step turn).AtRest := by
  -- whatever is not a note finds nobody waiting for it
  have hsame : ∀ session, session = dialogue.session →
      ({ dialogue with session } : Dialogue δ).AtRest := by
    rintro session rfl
    exact hrest
  cases turn with
  | next => exact atRest_next hrest
  | answer code => exact hsame _ (by simp [CodeSession.answer, hrest.idle])
  | submit => simpa only [step, hrest.idle] using hrest
  | settled =>
    simp only [step]
    split
    · exact hsame _ (by simp [CodeSession.settled, hrest.idle])
    · exact hrest
  | commandEnded => exact hsame _ (by simp [CodeSession.commandEnded, hrest.idle])
  | process event =>
    obtain ⟨news, hheard, hplain⟩ := dialogue.service.toldPlain_process event
    exact hrest.of_news rfl rfl hheard fun hearing hmem status hquery =>
      absurd hquery (hplain hearing hmem status)
  | flush => exact atRest_flush hrest huntriggered
  | hear =>
    have hpending : (dialogue.step .hear).pending = dialogue.pending := List.append_nil _
    refine ⟨hrest.idle, fun hstale => hrest.fresh ?_⟩
    unfold Stale at hstale ⊢
    rw [hpending] at hstale
    exact hstale
  | daemon next => exact ⟨hrest.idle, hrest.fresh⟩
  | setActive on => exact atRest_setActive hrest huntriggered
  | changeCode number => exact absurd trivial huntriggered
  | checkEmergency digits => exact ⟨hrest.idle, hrest.fresh⟩

theorem atRest_run {dialogue : Dialogue δ} (hrest : dialogue.AtRest) {turns : List (Turn δ)}
    (huntriggered : dialogue.Untriggered turns) : (dialogue.run turns).AtRest := by
  induction turns generalizing dialogue with
  | nil => exact hrest
  | cons turn rest ih => exact ih (atRest_step hrest huntriggered.1) huntriggered.2

end Dialogue

end Telephony
