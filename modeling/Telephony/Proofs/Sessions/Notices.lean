import Telephony.Proofs.Sessions.Bulletins
import Telephony.Proofs.Sessions.Flows
import Telephony.Proofs.Sessions.Footing

/-!
# Notices of a session

A session gives a notice when it takes up a status that is an error, and when a flow of dialogs finds
the SIM with such a status and gives up. There is at most one notice for each time that the error is
entered, as long as the flows give up in time. One that does not, because older statuses wait for the
session or because it has given the notice already, causes one notice too many.
-/

namespace Telephony

open Sim (Status)
open CodeSession (Notice Note Output Attempt Message Cause Question Phase)

variable {δ : Type}

/-- The status for which a flow gives up when it looks at the SIM. -/
def Switchboard.unusable? (board : Switchboard) (path : ModemPath) : Option Status :=
  ((board.sim? path).map (·.status)).filter fun status => !status.needsCode && status ≠ .ok

/-- A SIM that waits for a code does not end the flow. -/
theorem Switchboard.unusable?_of_waits {board : Switchboard} {path : ModemPath}
    (hwaits : (board.sim? path).any (·.status.needsCode) = true) :
    board.unusable? path = none := by
  obtain ⟨sim, hsim, hcode⟩ := (Option.any_eq_true _ _).1 hwaits
  simp [unusable?, hsim, hcode]

/-- An attempt tells the listeners nothing. -/
theorem Service.heard_attempt [Daemon δ] (service : Service δ) (attempt : Attempt) :
    (service.attempt attempt).2.heard = service.heard := by
  rw [Service.attempt_eq]
  cases hreaches : service.reaches attempt.request with
  | true =>
    rw [handlePin_of_reaches hreaches]
  | false =>
    obtain ⟨failure, hrefused, -⟩ := handlePin_of_not_reaches hreaches
    rw [hrefused]

namespace CodeSession

/-- The notice of an error. -/
def Output.error? : Output → Option Notice
  | .notice .simRejected => some .simRejected
  | .notice .noSim => some .noSim
  | .notice .simLocked => some .simLocked
  | .notice .codeAccepted | .notice .codeChanged | .changed _ _ => none

/-- The status that the note tells of the SIM of a modem. -/
def Note.statusOf? (path : ModemPath) : Note → Option Status
  | .status other told => if other = path then some told else none
  | .codeQuery _ _ | .changeCode _ | .activated => none

/-- The status with which a flow gives up after the attempt was refused. -/
def Attempt.spoiled? (board : Switchboard) (attempt : Attempt) : Option Status :=
  if attempt.unlocks then board.unusable? attempt.path else none

/-- As the session goes on it has found the SIM with a status, or not, and gives the notice of that.
While the device starts up it may withhold the notice. -/
structure Remarks (session : CodeSession) (found : Option Status)
    (went : CodeSession × List Output) : Prop where
  last : went.1.lastStatus = found.getD session.lastStatus
  withheld : (went.2.filterMap Output.error?).Sublist (found.bind Status.notice?).toList
  given : session.stage ≠ .startup →
    went.2.filterMap Output.error? = (found.bind Status.notice?).toList

variable {session : CodeSession} {found : Option Status} {went : CodeSession × List Output}

theorem Remarks.silent (hlast : went.1.lastStatus = session.lastStatus)
    (hsaid : went.2.filterMap Output.error? = []) : session.Remarks none went :=
  ⟨hlast, by rw [hsaid]; exact List.Sublist.refl _, fun _ => hsaid⟩

/-- What else has changed before is of no account. -/
theorem Remarks.of_like {other : CodeSession} (hremarks : other.Remarks found went) (hlast : other.lastStatus = session.lastStatus)
    (hstage : other.stage = session.stage) : session.Remarks found went :=
  ⟨hlast ▸ hremarks.last, hremarks.withheld, fun hstarted => hremarks.given (hstage ▸ hstarted)⟩

/-- A flow that ends adds nothing to what was said before. -/
theorem Remarks.finish (hremarks : session.Remarks found went) (cause : Cause) :
    session.Remarks found ((went.1.finish cause).1, went.2 ++ (went.1.finish cause).2) := by
  obtain ⟨hlast, hwithheld, hgiven⟩ := hremarks
  have hsaid : (went.1.finish cause).1.lastStatus = went.1.lastStatus ∧
      (went.2 ++ (went.1.finish cause).2).filterMap Output.error? =
        went.2.filterMap Output.error? := by
    rw [List.filterMap_append]
    cases cause <;> exact ⟨rfl, List.append_nil _⟩
  exact ⟨hsaid.1.trans hlast, hsaid.2 ▸ hwithheld, fun hstarted => hsaid.2.trans (hgiven hstarted)⟩

variable (session) (board : Switchboard)

theorem statusChanged_remarks (status : Status) :
    session.Remarks (if session.lastStatus = status then none else some status)
      (session.statusChanged status) := by
  unfold statusChanged
  by_cases hlast : session.lastStatus = status
  · rw [if_pos hlast, if_pos hlast]
    exact .silent rfl rfl
  · rw [if_neg hlast, if_neg hlast]
    cases status with
    | ok =>
      dsimp only
      split <;> exact ⟨rfl, List.Sublist.refl _, fun _ => rfl⟩
    | unknown | pinRequired | pukRequired | puk2Required | rejected =>
      exact ⟨rfl, List.Sublist.refl _, fun _ => rfl⟩
    | noSim | locked =>
      dsimp only
      split
      · next hstartup => exact ⟨rfl, List.nil_sublist _, fun hstarted => absurd hstartup hstarted⟩
      · exact ⟨rfl, List.Sublist.refl _, fun _ => rfl⟩

/-- A flow that gives up tells the status that it found, whatever was seen before. -/
theorem forgotten_remarks (status : Status) : session.Remarks (some status)
    (({ session with lastStatus := .unknown } : CodeSession).statusChanged status) := by
  by_cases hunknown : status = .unknown
  · subst hunknown
    exact ⟨rfl, List.Sublist.refl _, fun _ => rfl⟩
  · have hremarks := ({ session with lastStatus := .unknown } : CodeSession).statusChanged_remarks
      status
    rw [if_neg (Ne.symm hunknown)] at hremarks
    exact ⟨hremarks.last, hremarks.withheld, hremarks.given⟩

theorem unlock_remarks (path : ModemPath) (message : Option Message) (cause : Cause) :
    session.Remarks (board.unusable? path) (session.unlock board path message cause) := by
  cases hsim : board.sim? path with
  | none =>
    have hnone : board.unusable? path = none := by simp [Switchboard.unusable?, hsim]
    simp only [unlock, hsim, hnone]
    cases cause <;> exact .silent rfl rfl
  | some sim =>
    cases hstatus : sim.status with
    | pinRequired | pukRequired | puk2Required | ok =>
      have hnone : board.unusable? path = none := by
        simp [Switchboard.unusable?, hsim, hstatus, Status.needsCode]
      simp only [unlock, hsim, hstatus, hnone]
      first
        | exact .silent rfl rfl
        | split <;> exact .silent rfl rfl
        | cases cause <;> exact .silent rfl rfl
    | unknown | noSim | locked | rejected =>
      have hfound : board.unusable? path = some sim.status := by
        simp [Switchboard.unusable?, hsim, hstatus, Status.needsCode]
      simp only [unlock, hsim, hstatus, hfound]
      exact (forgotten_remarks session _).finish cause

theorem retry_remarks (attempt : Attempt) (failure : Failure) (message : Message) :
    session.Remarks (attempt.spoiled? board) (session.retry board attempt failure message) := by
  cases attempt with
  | enter path code pin cause => exact unlock_remarks session board path _ cause
  | reset path code puk newPin cause => exact unlock_remarks session board path _ cause
  | change path current newPin number =>
    simp only [retry]
    change session.Remarks none _
    split
    · next hwaits =>
      rw [← Switchboard.unusable?_of_waits hwaits]
      exact unlock_remarks session board path none _
    · exact .silent rfl rfl

theorem answer_remarks (code : Option String) : session.Remarks none (session.answer code) := by
  unfold answer
  split
  · next question attempts message code hphase =>
    refine .silent ?_ rfl
    cases question with
    | unlock path kind cause => cases kind <;> rfl
    | currentPin path number | newPin renewal => rfl
    | confirmPin renewal first =>
      simp only [entered]
      split
      · cases renewal <;> rfl
      · rfl
  · next question attempts message hphase =>
    cases question with
    | unlock path kind cause => cases cause <;> exact .silent rfl rfl
    | currentPin path number => exact .silent rfl rfl
    | newPin renewal | confirmPin renewal first =>
      cases renewal with
      | unblock path code puk cause => cases cause <;> exact .silent rfl rfl
      | replace path current number => exact .silent rfl rfl
  · exact .silent rfl rfl

theorem accepted_remarks (cause : Cause) : session.Remarks none (session.accepted cause) := by
  cases cause <;> exact .silent rfl rfl

theorem unlocked_remarks (pin : String) (cause : Cause) :
    session.Remarks none (session.unlocked pin cause) := by
  unfold unlocked
  dsimp only
  split
  · exact .silent rfl rfl
  · exact .of_like (accepted_remarks _ cause) rfl rfl

theorem commandEnded_remarks : session.Remarks none session.commandEnded := by
  unfold commandEnded
  split
  · exact accepted_remarks session _
  · exact .silent rfl rfl

theorem attempted_remarks {attempt : Attempt} (hphase : session.phase = .submitting attempt)
    (result : Except Failure Unit) :
    session.Remarks
      (match result with
        | .error (.invalidInput _ _) => attempt.spoiled? board
        | _ => none)
      (session.attempted board result) := by
  simp only [attempted, hphase]
  cases result with
  | error failure =>
    cases failure with
    | invalidInput field reason => exact retry_remarks session board attempt _ _
    | _ => exact .silent rfl rfl
  | ok =>
    cases attempt with
    | enter path code pin cause => exact unlocked_remarks session pin cause
    | reset path code puk newPin cause => exact unlocked_remarks session newPin cause
    | change path current newPin number => exact .silent rfl rfl

theorem take_served {path : ModemPath} (status : Status)
    (hserved : (session.followed <|> some path) = some path) :
    session.Remarks (if session.lastStatus = status then none else some status)
      (session.take board (.status path status)) := by
  simp only [take, accepts_eq, decide_eq_true hserved]
  have hremarks := statusChanged_remarks
    { session with followed := session.followed <|> some path } status
  exact hremarks.of_like rfl rfl

theorem take_unserved {path : ModemPath} (status : Status)
    (hunserved : (session.followed <|> some path) ≠ some path) :
    session.Remarks none (session.take board (.status path status)) := by
  simp only [take, accepts_eq, decide_eq_false hunserved]
  exact .silent rfl rfl

theorem take_silent {note : Note} (hother : ∀ path status, note ≠ .status path status) :
    session.Remarks none (session.take board note) := by
  cases note with
  | status path status => exact absurd rfl (hother path status)
  | codeQuery path status =>
    simp only [take, accepts_eq]
    split
    · next served hserved =>
      obtain ⟨-, rfl⟩ := Prod.mk.inj hserved
      split <;> exact .silent rfl rfl
    · next served hserved =>
      obtain ⟨-, rfl⟩ := Prod.mk.inj hserved
      exact .silent rfl rfl
  | activated =>
    simp only [take]
    split
    · next path hfollowed =>
      split
      · next hwaits =>
        rw [← Switchboard.unusable?_of_waits hwaits]
        exact unlock_remarks session board path none .query
      · exact .silent rfl rfl
    · exact .silent rfl rfl
  | changeCode number =>
    simp only [take]
    split <;> exact .silent rfl rfl

end CodeSession

namespace Dialogue

variable [Daemon δ] {dialogue : Dialogue δ} {turn : Turn δ} {turns : List (Turn δ)}
  {path : ModemPath}

/-- What the session says in a turn. -/
def outputs (dialogue : Dialogue δ) : Turn δ → List Output
  | .next => ((dialogue.session.next dialogue.board).map (·.2)).getD []
  | .answer code => (dialogue.session.answer code).2
  | .submit =>
    match dialogue.session.phase with
    | .submitting attempt =>
      (dialogue.session.attempted dialogue.board (dialogue.service.attempt attempt).1).2
    | _ => []
  | .settled => if dialogue.told then (dialogue.session.settled dialogue.board).2 else []
  | .commandEnded => dialogue.session.commandEnded.2
  | _ => []

/-- The notices of errors that the session gives. -/
def notices (dialogue : Dialogue δ) (turns : List (Turn δ)) : List Notice :=
  dialogue.along (fun dialogue turn => (dialogue.outputs turn).filterMap Output.error?) turns

/-- The status with which a flow gives up in a turn. -/
def givesUp? (dialogue : Dialogue δ) : Turn δ → Option Status
  | .submit =>
    match dialogue.session.phase with
    | .submitting attempt =>
      match (dialogue.service.attempt attempt).1 with
      | .error (.invalidInput _ _) => attempt.spoiled? dialogue.board
      | _ => none
    | _ => none
  | .settled =>
    match dialogue.told, dialogue.session.phase with
    | true, .settlingQuery path => dialogue.board.unusable? path
    | true, .settlingRefusal attempt _ => attempt.spoiled? dialogue.board
    | _, _ => none
  | _ => none

/-- The statuses of the SIM of a modem that notes tell, in order. -/
def statuses (path : ModemPath) (notes : List Note) : List Status :=
  notes.filterMap (Note.statusOf? path)

/-- The statuses that the service tells the session in a turn. -/
def tells (path : ModemPath) (dialogue : Dialogue δ) (turn : Turn δ) : List Status :=
  statuses path (((dialogue.step turn).service.heard.drop
    dialogue.service.heard.length).filterMap (noteFor dialogue.number))

/-- What the session has been told of the SIM of a modem and the notices that it has given, if what
had been told before the run is counted as well. -/
def bulletin (dialogue : Dialogue δ) (path : ModemPath) (turns : List (Turn δ)) : Bulletin where
  told := statuses path dialogue.pending ++ dialogue.along (tells path) turns
  waiting := statuses path (dialogue.run turns).pending
  last := (dialogue.run turns).session.lastStatus
  given := dialogue.notices turns

/-! ### What waits for the session -/

/-- The session takes up nothing, and hears of nothing. What it asks for itself comes after its other
notes, and what the service tells after the other news. -/
structure Grows (dialogue after : Dialogue δ) : Prop where
  followed : after.session.followed = dialogue.session.followed
  number : after.number = dialogue.number
  notes : ∃ posted, after.session.notes = dialogue.session.notes ++ posted ∧
    ∀ note ∈ posted, note = .activated ∨ ∃ number, note = .changeCode number
  heard : ∃ news, after.service.heard = dialogue.service.heard ++ news

omit [Daemon δ] in
theorem Grows.of_keeps {after : Dialogue δ} (hkeeps : dialogue.session.Keeps after.session)
    (hnumber : after.number = dialogue.number)
    (hheard : after.service.heard = dialogue.service.heard) : dialogue.Grows after :=
  ⟨hkeeps.followed, hnumber, ⟨[], by rw [hkeeps.notes, List.append_nil], nofun⟩, [],
    by rw [hheard, List.append_nil]⟩

theorem grows_step (hnext : turn ≠ .next) (hhear : turn ≠ .hear) :
    dialogue.Grows (dialogue.step turn) := by
  cases turn with
  | next => exact absurd rfl hnext
  | hear => exact absurd rfl hhear
  | answer code => exact .of_keeps (CodeSession.answer_keeps dialogue.session code) rfl rfl
  | commandEnded => exact .of_keeps (CodeSession.commandEnded_keeps dialogue.session) rfl rfl
  | submit =>
    refine .of_keeps dialogue.keeps_submit ?_ ?_ <;> simp only [step] <;> split <;> try rfl
    exact dialogue.service.heard_attempt _
  | settled =>
    refine .of_keeps dialogue.keeps_settled ?_ ?_ <;> simp only [step] <;> split <;> rfl
  | process event =>
    obtain ⟨news, hheard, -⟩ := dialogue.service.toldPlain_process event
    exact ⟨rfl, rfl, ⟨[], (List.append_nil _).symm, by simp⟩, news, hheard⟩
  | flush =>
    obtain ⟨news, hheard, -⟩ := dialogue.service.heard_flush
    exact ⟨rfl, rfl, ⟨[], (List.append_nil _).symm, by simp⟩, news, hheard⟩
  | daemon next | checkEmergency digits =>
    exact ⟨rfl, rfl, ⟨[], (List.append_nil _).symm, by simp⟩, [], (List.append_nil _).symm⟩
  | changeCode number =>
    exact ⟨rfl, rfl, ⟨[.changeCode number], rfl, by simp⟩, [], (List.append_nil _).symm⟩
  | setActive on =>
    refine ⟨?_, rfl, ?_, [], (List.append_nil _).symm⟩ <;> simp only [step, CodeSession.setActive] <;>
      split
    · rfl
    · rfl
    · exact ⟨[.activated], rfl, by simp⟩
    · exact ⟨[], (List.append_nil _).symm, by simp⟩

/-- What the session asks for itself tells nothing of a SIM. -/
theorem statuses_of_posted (path : ModemPath) {posted : List Note}
    (hposted : ∀ note ∈ posted, note = .activated ∨ ∃ number, note = .changeCode number) :
    statuses path posted = [] ∧ ∀ note ∈ posted, note.path? = none := by
  refine ⟨List.filterMap_eq_nil_iff.2 fun note hmem => ?_, fun note hmem => ?_⟩ <;>
    rcases hposted note hmem with rfl | ⟨number, rfl⟩ <;> rfl

theorem statuses_append (first rest : List Note) :
    statuses path (first ++ rest) = statuses path first ++ statuses path rest :=
  List.filterMap_append

omit [Daemon δ] in
theorem Grows.statuses_pending {after : Dialogue δ} (hgrows : dialogue.Grows after)
    (path : ModemPath) :
    statuses path after.pending = statuses path dialogue.pending ++
      statuses path ((after.service.heard.drop dialogue.service.heard.length).filterMap
        (noteFor dialogue.number)) := by
  obtain ⟨-, hnumber, ⟨posted, hnotes, hposted⟩, news, hheard⟩ := hgrows
  rw [pending, pending, hnumber, hnotes, hheard, List.drop_left, List.filterMap_append,
    statuses_append, statuses_append, statuses_append, statuses_append,
    (statuses_of_posted path hposted).1, List.append_nil, List.append_assoc]

theorem follows_of_posted {posted : List Note} (hposted : ∀ note ∈ posted, note.path? = none)
    (followed : Option ModemPath) : CodeSession.follows followed posted = followed := by
  rw [CodeSession.follows, List.findSome?_eq_none_iff.2 hposted]
  cases followed <;> rfl

theorem service_next (dialogue : Dialogue δ) :
    (dialogue.step .next).service = dialogue.service ∧
      (dialogue.step .next).number = dialogue.number := by
  simp only [step]
  split <;> exact ⟨rfl, rfl⟩

/-- The modem that a session will serve is the one that it serves for good. -/
theorem modem?_step (hmodem : dialogue.modem? = some path) (turn : Turn δ) :
    (dialogue.step turn).modem? = some path := by
  by_cases hnext : turn = .next
  · subst hnext
    obtain ⟨hservice, hnumber⟩ := dialogue.service_next
    rcases dialogue.keeps_next with hsame | ⟨note, notes, -, hnotes, hkeeps⟩
    · rw [modem?, pending, hsame, hservice, hnumber]
      exact hmodem
    · rw [modem?, pending, hkeeps.followed, hkeeps.notes, hservice, hnumber,
        ← CodeSession.follows_cons]
      rw [modem?, pending, hnotes] at hmodem
      exact hmodem
  · by_cases hhear : turn = .hear
    · subst hhear
      have hpending : (dialogue.step .hear).pending = dialogue.pending := List.append_nil _
      rw [modem?, hpending]
      exact hmodem
    · obtain ⟨hfollowed, hnumber, ⟨posted, hnotes, hposted⟩, news, hheard⟩ :=
        dialogue.grows_step hnext hhear
      rw [modem?, pending, CodeSession.follows_append] at hmodem
      rw [modem?, pending, hfollowed, hnumber, hnotes, hheard, List.filterMap_append,
        CodeSession.follows_append, CodeSession.follows_append, CodeSession.follows_append,
        follows_of_posted (statuses_of_posted path hposted).2, hmodem]
      rfl

theorem modem?_run (hmodem : dialogue.modem? = some path) (turns : List (Turn δ)) :
    (dialogue.run turns).modem? = some path := by
  induction turns generalizing dialogue with
  | nil => exact hmodem
  | cons turn rest ih => exact ih (modem?_step hmodem turn)

/-! ### What a turn does to the bulletin -/

/-- In a turn the session is told statuses, or takes up one, or gives up because of one. -/
inductive Stride (dialogue : Dialogue δ) (path : ModemPath) (turn : Turn δ) : Prop where
  | tells (hwaiting : statuses path (dialogue.step turn).pending =
        statuses path dialogue.pending ++ dialogue.tells path turn)
      (hgives : dialogue.givesUp? turn = none)
      (hremarks : dialogue.session.Remarks none ((dialogue.step turn).session, dialogue.outputs turn))
  | takes {status : Status} {rest : List Status} (htells : dialogue.tells path turn = [])
      (hwaiting : statuses path dialogue.pending = status :: rest)
      (hrest : statuses path (dialogue.step turn).pending = rest)
      (hgives : dialogue.givesUp? turn = none)
      (hremarks : dialogue.session.Remarks
        (if dialogue.session.lastStatus = status then none else some status)
        ((dialogue.step turn).session, dialogue.outputs turn))
  | givesUp {found : Status} (htells : dialogue.tells path turn = [])
      (hwaiting : statuses path (dialogue.step turn).pending = statuses path dialogue.pending)
      (hgives : dialogue.givesUp? turn = some found)
      (hremarks : dialogue.session.Remarks (some found)
        ((dialogue.step turn).session, dialogue.outputs turn))

omit [Daemon δ] in
/-- A note of the modem that the session serves is for the session, and no other is. -/
theorem accepts_of_served {note : Note} {notes : List Note} {other : ModemPath}
    (hnotes : dialogue.session.notes = note :: notes) (hpath : note.path? = some other)
    (hserved : ∀ modem, dialogue.modem? = some modem → modem = path) :
    (dialogue.session.followed <|> some other) = some other ↔ other = path := by
  have hmodem : dialogue.modem? = (dialogue.session.followed <|> some other) := by
    rw [modem?, pending, hnotes, List.cons_append, CodeSession.follows_cons, hpath]
    cases dialogue.session.followed <;> rfl
  cases hfollowed : dialogue.session.followed with
  | none =>
    rw [hfollowed] at hmodem
    exact iff_of_true rfl (hserved other hmodem)
  | some followed =>
    rw [hfollowed] at hmodem
    obtain rfl := hserved followed hmodem
    exact ⟨fun hsame => (Option.some.inj hsame).symm, fun hsame => by rw [hsame]; rfl⟩

theorem stride_next (hserved : ∀ modem, dialogue.modem? = some modem → modem = path) :
    dialogue.Stride path .next := by
  obtain ⟨hservice, hnumber⟩ := dialogue.service_next
  have htells : dialogue.tells path .next = [] := by
    rw [tells, hservice, List.drop_length]
    rfl
  cases hnext : dialogue.session.next dialogue.board with
  | none =>
    have hstep : dialogue.step .next = dialogue := by simp only [step, hnext]
    refine .tells ?_ rfl ?_
    · rw [hstep, htells, List.append_nil]
    · rw [hstep]
      exact .silent rfl (by rw [outputs, hnext]; rfl)
  | some taken =>
    unfold CodeSession.next at hnext
    split at hnext
    · next note notes hidle hnotes =>
      let session : CodeSession := { dialogue.session with notes }
      have hstep : (dialogue.step .next).session = (session.take dialogue.board note).1 := by
        rw [step_next hidle hnotes]
      have houtputs : dialogue.outputs .next = (session.take dialogue.board note).2 := by
        simp [outputs, CodeSession.next, hidle, hnotes, session]
      have hrest : (dialogue.step .next).pending =
          notes ++ dialogue.service.heard.filterMap (noteFor dialogue.number) := by
        rw [pending, hservice, hnumber, hstep, (CodeSession.take_keeps session _ note).notes]
      have hpending : dialogue.pending = note :: (dialogue.step .next).pending := by
        rw [hrest, pending, hnotes, List.cons_append]
      have hsilent : note.statusOf? path = none →
          dialogue.session.Remarks none (session.take dialogue.board note) →
          dialogue.Stride path .next := by
        intro hnone hremarks
        refine .tells ?_ rfl (by rw [hstep, houtputs]; exact hremarks)
        rw [htells, List.append_nil, hpending, statuses, statuses, List.filterMap_cons_none hnone]
      cases note with
      | status other status =>
        have haccepts := accepts_of_served hnotes rfl hserved
        by_cases hother : other = path
        · have hwaiting : statuses path dialogue.pending =
              status :: statuses path (dialogue.step .next).pending := by
            have hstatus : (Note.status other status).statusOf? path = some status := if_pos hother
            rw [hpending, statuses, List.filterMap_cons_some hstatus]
            rfl
          refine .takes htells hwaiting rfl rfl ?_
          rw [hstep, houtputs]
          exact (session.take_served dialogue.board status (haccepts.2 hother)).of_like rfl rfl
        · exact hsilent (if_neg hother)
            ((session.take_unserved dialogue.board status (mt haccepts.1 hother)).of_like rfl rfl)
      | codeQuery other status | changeCode number | activated =>
        exact hsilent rfl (.of_like (CodeSession.take_silent session _ (by simp)) rfl rfl)
    · cases hnext

theorem Stride.of_remarks (hwaiting : statuses path (dialogue.step turn).pending =
      statuses path dialogue.pending ++ dialogue.tells path turn)
    (hsilent : dialogue.givesUp? turn = none ∨
      (dialogue.step turn).service.heard = dialogue.service.heard)
    (hremarks : dialogue.session.Remarks (dialogue.givesUp? turn)
      ((dialogue.step turn).session, dialogue.outputs turn)) : dialogue.Stride path turn := by
  cases hgives : dialogue.givesUp? turn with
  | none => exact .tells hwaiting hgives (hgives ▸ hremarks)
  | some found =>
    rw [hgives] at hsilent
    have htells : dialogue.tells path turn = [] := by
      rw [Dialogue.tells, hsilent.resolve_left nofun, List.drop_length]
      rfl
    exact .givesUp htells (by rw [hwaiting, htells, List.append_nil]) hgives (hgives ▸ hremarks)

theorem remarks_submit : dialogue.session.Remarks (dialogue.givesUp? .submit)
    ((dialogue.step .submit).session, dialogue.outputs .submit) := by
  cases hphase : dialogue.session.phase with
  | submitting attempt =>
    have hremarks := CodeSession.attempted_remarks dialogue.session dialogue.board hphase
      (dialogue.service.attempt attempt).1
    rw [step_submit hphase]
    simp only [givesUp?, outputs, hphase]
    exact hremarks
  | _ =>
    simp only [givesUp?, outputs, step, hphase]
    exact .silent rfl rfl

theorem remarks_settled : dialogue.session.Remarks (dialogue.givesUp? .settled)
    ((dialogue.step .settled).session, dialogue.outputs .settled) := by
  cases htold : dialogue.told with
  | false =>
    simp only [givesUp?, outputs, step, htold, Bool.false_eq_true, if_false]
    exact .silent rfl rfl
  | true =>
    simp only [givesUp?, outputs, step, htold, if_true, CodeSession.settled]
    cases hphase : dialogue.session.phase with
    | settlingQuery path =>
      exact CodeSession.unlock_remarks dialogue.session dialogue.board path none .query
    | settlingRefusal attempt failure =>
      exact CodeSession.retry_remarks dialogue.session dialogue.board attempt failure _
    | _ => exact .silent rfl rfl

theorem stride (hserved : ∀ modem, dialogue.modem? = some modem → modem = path) (turn : Turn δ) :
    dialogue.Stride path turn := by
  by_cases hnext : turn = .next
  · exact hnext ▸ stride_next hserved
  by_cases hhear : turn = .hear
  · subst hhear
    refine .tells ?_ rfl (.silent rfl rfl)
    have hpending : (dialogue.step .hear).pending = dialogue.pending := List.append_nil _
    have htells : dialogue.tells path .hear = [] := by simp [tells, step, statuses]
    rw [hpending, htells, List.append_nil]
  have hwaiting := (dialogue.grows_step hnext hhear).statuses_pending path
  cases turn with
  | next => exact absurd rfl hnext
  | hear => exact absurd rfl hhear
  | answer code =>
    exact .of_remarks hwaiting (.inl rfl) (CodeSession.answer_remarks dialogue.session code)
  | commandEnded =>
    exact .of_remarks hwaiting (.inl rfl) (CodeSession.commandEnded_remarks dialogue.session)
  | process event | flush | daemon next | changeCode number | checkEmergency digits =>
    exact .of_remarks hwaiting (.inl rfl) (.silent rfl rfl)
  | setActive on =>
    refine .of_remarks hwaiting (.inl rfl) (.silent ?_ rfl)
    simp only [step, CodeSession.setActive]
    split <;> rfl
  | submit =>
    refine .of_remarks hwaiting (.inr ?_) remarks_submit
    simp only [step]
    split
    · exact dialogue.service.heard_attempt _
    · rfl
  | settled =>
    refine .of_remarks hwaiting (.inr ?_) remarks_settled
    simp only [step]
    split <;> rfl

/-! ### The notices of a run -/

theorem bulletin_snoc (dialogue : Dialogue δ) (path : ModemPath) (turns : List (Turn δ))
    (turn : Turn δ) : dialogue.bulletin path (turns ++ [turn]) =
      { told := (dialogue.bulletin path turns).told ++ (dialogue.run turns).tells path turn
        waiting := statuses path ((dialogue.run turns).step turn).pending
        last := ((dialogue.run turns).step turn).session.lastStatus
        given := dialogue.notices turns ++
          ((dialogue.run turns).outputs turn).filterMap Output.error? } := by
  simp only [bulletin, notices, along_snoc, run_append, List.append_assoc]
  rfl

/-- If none of the notices `given` had been withheld, the bulletin would be even. -/
structure Accounts (dialogue : Dialogue δ) (path : ModemPath) (turns : List (Turn δ))
    (given : List Notice) : Prop where
  even : ({ dialogue.bulletin path turns with given } : Bulletin).Even
  withheld : (dialogue.notices turns).Sublist given

theorem Accounts.covered {given : List Notice} (haccounts : dialogue.Accounts path turns given) :
    (dialogue.bulletin path turns).Covered := by
  intro status notice hnotice
  refine le_trans (Nat.add_le_add_right ?_ _) (haccounts.even.covered status notice hnotice)
  exact haccounts.withheld.count_le notice

/-- As long as flows give up in time the notices that are due are those that are given, but for those
that are withheld while the device starts up. -/
theorem accounts_snoc {given : List Notice} (haccounts : dialogue.Accounts path turns given)
    (hserved : ∀ modem, (dialogue.run turns).modem? = some modem → modem = path)
    (htimely : ∀ found, (dialogue.run turns).givesUp? turn = some found →
      (dialogue.bulletin path turns).Timely found) :
    ∃ more, dialogue.Accounts path (turns ++ [turn]) (given ++ more) ∧
      ((dialogue.run turns).session.stage ≠ .startup →
        ((dialogue.run turns).outputs turn).filterMap Output.error? = more) := by
  have hsublist : ∀ {more}, (((dialogue.run turns).outputs turn).filterMap Output.error?).Sublist more →
      (dialogue.notices (turns ++ [turn])).Sublist (given ++ more) := by
    intro more hmore
    rw [notices, along_snoc]
    exact haccounts.withheld.append hmore
  cases stride hserved turn with
  | tells hwaiting hgives hremarks =>
    refine ⟨[], ⟨?_, hsublist hremarks.withheld⟩, hremarks.given⟩
    have heven := haccounts.even.tell ((dialogue.run turns).tells path turn)
    have hlast : ((dialogue.run turns).step turn).session.lastStatus =
        (dialogue.run turns).session.lastStatus := hremarks.last
    rw [bulletin_snoc, hwaiting, hlast, List.append_nil]
    exact heven
  | @takes status rest htells hwaiting hrest hgives hremarks =>
    have hmore : ((if (dialogue.run turns).session.lastStatus = status then none
        else some status).bind Status.notice?).toList =
          if (dialogue.run turns).session.lastStatus = status then [] else status.notice?.toList := by
      split <;> rfl
    have hlast : ((dialogue.run turns).step turn).session.lastStatus = status := by
      refine hremarks.last.trans ?_
      split
      · next hseen => exact hseen
      · rfl
    refine ⟨_, ⟨?_, hsublist (hmore ▸ hremarks.withheld)⟩, hmore ▸ hremarks.given⟩
    have heven := haccounts.even.take hwaiting
    rw [bulletin_snoc, hrest, hlast, htells, List.append_nil]
    exact heven
  | givesUp htells hwaiting hgives hremarks =>
    refine ⟨_, ⟨?_, hsublist hremarks.withheld⟩, hremarks.given⟩
    have heven := haccounts.even.giveUp (htimely _ hgives)
    have hlast := hremarks.last
    rw [bulletin_snoc, hwaiting, hlast, htells, List.append_nil]
    exact heven

/-- Nothing is withheld once the device has started up. -/
theorem bulletin_of_givesUp {found : Status}
    (hserved : ∀ modem, (dialogue.run turns).modem? = some modem → modem = path)
    (hstarted : (dialogue.run turns).session.stage ≠ .startup)
    (hgives : (dialogue.run turns).givesUp? turn = some found) :
    dialogue.bulletin path (turns ++ [turn]) = (dialogue.bulletin path turns).giveUp found := by
  cases stride hserved turn with
  | tells hwaiting hnone hremarks | takes htells hwaiting hrest hnone hremarks =>
    rw [hgives] at hnone
    cases hnone
  | givesUp htells hwaiting hfound hremarks =>
    obtain rfl := Option.some.inj (hfound.symm.trans hgives)
    have hlast := hremarks.last
    rw [bulletin_snoc, htells, hwaiting, hlast, hremarks.given hstarted, List.append_nil]
    rfl

/-- Each flow of the run that gives up does so in time. -/
def InTime (dialogue : Dialogue δ) (path : ModemPath) (turns : List (Turn δ)) : Prop :=
  ∀ first turn, first ++ [turn] <+: turns → ∀ found,
    (dialogue.run first).givesUp? turn = some found → (dialogue.bulletin path first).Timely found

theorem inTime_iff : dialogue.InTime path turns ↔ ∀ count < turns.length,
    ((turns[count]?).bind (dialogue.run (turns.take count)).givesUp?).all
      (fun found => (dialogue.bulletin path (turns.take count)).Timely found) = true := by
  constructor
  · intro hintime count hcount
    rw [Option.all_eq_true]
    intro found hfound
    obtain ⟨turn, hturn, hgives⟩ := Option.bind_eq_some_iff.1 hfound
    refine decide_eq_true (hintime (turns.take count) turn ?_ found hgives)
    have hnext : turns.take (count + 1) = turns.take count ++ [turn] := by
      rw [List.take_add_one, hturn]
      rfl
    exact hnext ▸ List.take_prefix _ _
  · rintro hall first turn ⟨rest, rfl⟩ found hgives
    have htimely := hall first.length (by simp)
    simp [hgives] at htimely
    exact htimely

instance (dialogue : Dialogue δ) (path : ModemPath) (turns : List (Turn δ)) :
    Decidable (dialogue.InTime path turns) :=
  decidable_of_iff _ inTime_iff.symm

theorem inTime_snoc : dialogue.InTime path (turns ++ [turn]) ↔ dialogue.InTime path turns ∧
    ∀ found, (dialogue.run turns).givesUp? turn = some found →
      (dialogue.bulletin path turns).Timely found := by
  constructor
  · intro hintime
    exact ⟨fun first turn hbegins => hintime first turn (hbegins.trans (List.prefix_append _ _)),
      hintime turns turn (List.prefix_refl _)⟩
  · rintro ⟨hintime, hlast⟩ first other hbegins
    rcases List.prefix_concat_iff.1 hbegins with hwhole | hbefore
    · obtain ⟨rfl, hturn⟩ := List.append_inj' hwhole rfl
      obtain rfl : other = turn := by simpa using hturn
      exact hlast
    · exact hintime first other hbefore

theorem started_step (hstarted : dialogue.session.stage ≠ .startup) (turn : Turn δ) :
    (dialogue.step turn).session.stage ≠ .startup := by
  cases turn with
  | next =>
    rcases dialogue.keeps_next with hsame | ⟨note, notes, -, -, hkeeps⟩
    · rwa [hsame]
    · exact mt hkeeps.startup hstarted
  | answer code => exact mt (CodeSession.answer_keeps dialogue.session code).startup hstarted
  | submit => exact mt dialogue.keeps_submit.startup hstarted
  | settled => exact mt dialogue.keeps_settled.startup hstarted
  | commandEnded =>
    exact mt (CodeSession.commandEnded_keeps dialogue.session).startup hstarted
  | setActive on =>
    simp only [step, CodeSession.setActive]
    split <;> exact hstarted
  | process event | flush | hear | daemon next | changeCode number | checkEmergency digits =>
    exact hstarted

theorem started_run (hstarted : dialogue.session.stage ≠ .startup) (turns : List (Turn δ)) :
    (dialogue.run turns).session.stage ≠ .startup := by
  induction turns generalizing dialogue with
  | nil => exact hstarted
  | cons turn rest ih => exact ih (started_step hstarted turn)

section Opened

variable {service : Service δ} {options : CodeOptions} {startup : Bool}
  (hopened : service.openSession dialogue.number options startup =
    (.ok dialogue.session, dialogue.service))

include hopened

theorem started_of_opened (hstarted : startup = false) : dialogue.session.stage ≠ .startup := by
  obtain ⟨board, subscriptions, hsession⟩ := Service.new_of_opened hopened
  rw [hsession, hstarted]
  nofun

theorem accounts_run (hserved : ∀ modem, (dialogue.run turns).modem? = some modem → modem = path)
    (hintime : dialogue.InTime path turns) :
    ∃ given, dialogue.Accounts path turns given ∧
      (startup = false → dialogue.notices turns = given) := by
  obtain ⟨board, subscriptions, hsession⟩ := Service.new_of_opened hopened
  induction turns using List.reverseRecOn with
  | nil =>
    refine ⟨[], ⟨?_, List.Sublist.refl _⟩, fun _ => rfl⟩
    have hlast : dialogue.session.lastStatus = .unknown := by rw [hsession]; rfl
    have hnil : dialogue.bulletin path [] =
        ⟨statuses path dialogue.pending, statuses path dialogue.pending, .unknown, []⟩ := by
      simp [bulletin, notices, along, run, hlast]
    rw [hnil]
    exact Bulletin.even_opened _
  | append_singleton turns turn ih =>
    rw [inTime_snoc] at hintime
    have hbefore : ∀ modem, (dialogue.run turns).modem? = some modem → modem = path :=
      fun modem hmodem => hserved modem (by rw [run_append]; exact modem?_run hmodem [turn])
    obtain ⟨given, haccounts, hall⟩ := ih hbefore hintime.1
    obtain ⟨more, hmore, hgiven⟩ := accounts_snoc haccounts hbefore hintime.2
    refine ⟨_, hmore, fun hstarted => ?_⟩
    have hstage := started_run (started_of_opened hopened hstarted) turns
    rw [notices, along_snoc, ← hgiven hstage, ← hall hstarted]
    rfl

/-- There are no more notices of an error than the SIM has come to it, given or owed, if each flow
that gives up does so in time. If the session was not opened to start up, they are no more only
then. -/
theorem covered_iff_in_time
    (hserved : ∀ modem, (dialogue.run turns).modem? = some modem → modem = path) :
    (dialogue.InTime path turns →
        ∀ first, first <+: turns → (dialogue.bulletin path first).Covered) ∧
      (startup = false → (∀ first, first <+: turns → (dialogue.bulletin path first).Covered) →
        dialogue.InTime path turns) := by
  have hbegins : ∀ first, first <+: turns →
      ∀ modem, (dialogue.run first).modem? = some modem → modem = path := by
    rintro first ⟨rest, rfl⟩ modem hmodem
    exact hserved modem (by rw [run_append]; exact modem?_run hmodem rest)
  have heven : ∀ first, first <+: turns → dialogue.InTime path first →
      ∃ given, dialogue.Accounts path first given ∧
        (startup = false → dialogue.notices first = given) := fun first hfirst hintime =>
    accounts_run hopened (hbegins first hfirst) hintime
  refine ⟨fun hintime first hfirst => ?_, fun hstarted hcovered => ?_⟩
  · have hbefore : dialogue.InTime path first := fun past turn hpast =>
      hintime past turn (hpast.trans hfirst)
    obtain ⟨given, haccounts, -⟩ := heven first hfirst hbefore
    exact haccounts.covered
  · suffices hall : ∀ first, first <+: turns → dialogue.InTime path first from
      hall turns (List.prefix_refl _)
    intro first
    induction first using List.reverseRecOn with
    | nil => exact fun _ past turn hpast => absurd hpast (by simp)
    | append_singleton first turn ih =>
      intro hfirst
      have hbefore := ih ((List.prefix_append _ _).trans hfirst)
      refine inTime_snoc.2 ⟨hbefore, fun found hgives => ?_⟩
      obtain ⟨given, haccounts, hall⟩ := heven first ((List.prefix_append _ _).trans hfirst) hbefore
      have heven : (dialogue.bulletin path first).Even := by
        obtain rfl := hall hstarted
        exact haccounts.even
      have hgiven := bulletin_of_givesUp (hbegins first ((List.prefix_append _ _).trans hfirst))
        (started_run (started_of_opened hopened hstarted) first) hgives
      by_contra huntimely
      exact heven.not_covered huntimely (hgiven ▸ hcovered _ hfirst)

end Opened

/-- Something befalls the SIM, and the session hears of that. -/
def befalling (event : Simulator → Except Failure Simulator) (turns : List (Turn Simulator)) :
    List (Turn Simulator) :=
  match event (lastChance.run turns).service.daemon with
  | .ok sim => turns ++ [.daemon sim] ++ (lastChance.run (turns ++ [.daemon sim])).settling
  | .error _ => turns

/-- While the user is asked for the PIN, the SIM comes to wait for a PUK that allows no attempts. The
PIN that is entered is malformed, and so the session looks at the SIM at once. -/
def untilBarred : List (Turn Simulator) :=
  befalling (fun sim => do (← sim.setPinRequired ⟨"/m"⟩ "puk").setRetries ⟨"/m"⟩ [("puk", 0)])
    untilAsked ++ [.answer (some "12"), .submit]

theorem covered_iff_in_time_barred : (lastChance.bulletin ⟨"/m"⟩ untilBarred).Covered ∧
    lastChance.notices untilBarred = [.simRejected] := by
  have hopened : (Service.stopped lastAttempt).openSession lastChance.number ⟨none, [], none⟩ false =
      (.ok lastChance.session, lastChance.service) := rfl
  have hserved : (lastChance.run untilBarred).modem? = some ⟨"/m"⟩ := by decide +kernel
  have hintime : lastChance.InTime ⟨"/m"⟩ untilBarred := by decide +kernel
  refine ⟨?_, by decide +kernel⟩
  exact (covered_iff_in_time hopened fun modem hmodem =>
    Option.some.inj (hmodem.symm.trans hserved)).1 hintime untilBarred (List.prefix_refl _)

/-- The session hears of the PUK first, and only then that it allows no attempts. -/
def untilBarredTwice : List (Turn Simulator) :=
  befalling (·.setRetries ⟨"/m"⟩ [("puk", 0)])
    (befalling (·.setPinRequired ⟨"/m"⟩ "puk") untilAsked) ++
      [.answer (some "12"), .submit, .next, .next, .flush, .settled]

/-- The session gives a notice as it looks at the SIM, and another one because of a query that it has
heard before. -/
theorem not_always_covered :
    ¬ ∀ (dialogue : Dialogue Simulator) (daemon : Simulator) (options : CodeOptions)
        (startup : Bool) (turns : List (Turn Simulator)) (path : ModemPath) (status : Status)
        (notice : Notice), dialogue.Opened daemon options startup →
      (∀ modem, (dialogue.run turns).modem? = some modem → modem = path) →
      status.notice? = some notice →
      (dialogue.notices turns).count notice ≤
        entries status .unknown (dialogue.bulletin path turns).told := by
  intro halways
  have hserved : (lastChance.run untilBarredTwice).modem? = some ⟨"/m"⟩ := by decide +kernel
  have hcount := halways lastChance lastAttempt ⟨none, [], none⟩ false untilBarredTwice ⟨"/m"⟩
    .rejected .simRejected rfl (fun modem hmodem => Option.some.inj (hmodem.symm.trans hserved)) rfl
  exact absurd hcount (by decide +kernel)

end Dialogue

end Telephony
