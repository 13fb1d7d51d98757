import Telephony.Proofs.Codes.Spending
import Telephony.Proofs.Sessions.Reopening

/-!
# Flows of dialogs

A flow begins when the session looks whether the SIM waits for a code, or is to change the PIN. It
goes on each time that what it waits for comes: an answer, the word of the SIM, news after a refusal,
or the end of the user's command. As long as it does, the flow ends. It cannot ask for more dialogs
than are answered, and one, and the PIN that it has kept it spends at most once, so that in at most
one round no dialog is shown.
-/

namespace Telephony

open CodeSession (Dialog Phase Attempt Message Cause Question)

variable {δ : Type}

namespace CodeSession

def Phase.submits : Phase → Bool
  | .submitting _ => true
  | _ => false

def Phase.runs : Phase → Bool
  | .runningCommand _ _ => true
  | _ => false

/-- How much a flow may still go through, if the user enters so many codes more. A code that is
entered outweighs the attempt made with it, and so does the PIN that is kept. -/
def rank (session : CodeSession) (left : Nat) : Nat :=
  let stock := 5 * left + 3 * session.cachedCode.isSome.toNat
  match session.phase with
  | .idle | .settlingQuery _ => 0
  | .runningCommand _ _ => 1
  | .asking _ _ _ => stock + 2
  | .settlingRefusal _ _ => stock + 3
  | .submitting _ => stock + 4

/-- How a session goes on when it has looked at the SIM: it returns to its notes, asks the user, or
spends the PIN that it has kept. -/
inductive Onward (session after : CodeSession) : Prop where
  | returns (hphase : after.phase = .idle)
  | asks {question : Question} {attempts : Option UInt8} {message : Option Message}
      (hphase : after.phase = .asking question attempts message)
      (hkept : after.cachedCode = session.cachedCode)
  | spends {attempt : Attempt} (hphase : after.phase = .submitting attempt)
      (hkept : session.cachedCode.isSome = true) (hspent : after.cachedCode = none)

theorem Onward.of_like {session other after : CodeSession} (honward : other.Onward after)
    (hsame : other.cachedCode = session.cachedCode) : session.Onward after := by
  cases honward with
  | returns hphase => exact .returns hphase
  | asks hphase hkept => exact .asks hphase (hkept.trans hsame)
  | spends hphase hkept hspent => exact .spends hphase (hsame ▸ hkept) hspent

variable (session : CodeSession) (board : Switchboard)

theorem unlock_onward (path : ModemPath) (message : Option Message) (cause : Cause) :
    session.Onward (session.unlock board path message cause).1 := by
  cases hsim : board.sim? path with
  | none =>
    simp only [unlock, hsim]
    exact .returns (finish_idle _ cause)
  | some sim =>
    by_cases hcode : sim.status.needsCode = true
    · rcases unlock_of_waits message cause session hsim hcode with
        ⟨code, attempts, -, hasked⟩ | ⟨pin, hpin, htried⟩
      · rw [hasked]
        exact .asks rfl rfl
      · rw [htried]
        exact .spends rfl (by rw [hpin]; rfl) rfl
    · by_cases hok : sim.status = .ok
      · simp only [unlock, hsim, hok]
        exact .returns (finish_idle _ cause)
      · rw [unlock_of_not_needsCode message cause session hsim (by simpa using hcode) hok]
        exact .returns (finish_idle _ cause)

theorem retry_onward (attempt : Attempt) (failure : Failure) (message : Message) :
    session.Onward (session.retry board attempt failure message).1 := by
  cases attempt with
  | enter path code pin cause => exact unlock_onward session board path _ cause
  | reset path code puk newPin cause => exact unlock_onward session board path _ cause
  | change path current newPin number =>
    simp only [retry]
    split
    · exact unlock_onward session board path none _
    · exact .asks rfl rfl

/-- A code that is entered leads to the next dialog, or to the SIM. -/
theorem entered_onward (question : Question) (code : String) :
    ((∃ next attempts message,
          (session.entered question code).phase = .asking next attempts message) ∨
        ∃ attempt, (session.entered question code).phase = .submitting attempt) ∧
      (session.entered question code).cachedCode = session.cachedCode := by
  cases question with
  | unlock path kind cause =>
    cases kind with
    | pin | pin2 => exact ⟨.inr ⟨_, rfl⟩, rfl⟩
    | puk | puk2 => exact ⟨.inl ⟨_, _, _, rfl⟩, rfl⟩
  | currentPin path number => exact ⟨.inl ⟨_, _, _, rfl⟩, rfl⟩
  | newPin renewal => exact ⟨.inl ⟨_, _, _, rfl⟩, rfl⟩
  | confirmPin renewal first =>
    by_cases hsame : first = code
    · simp only [entered, hsame, if_true]
      cases renewal <;> exact ⟨.inr ⟨_, rfl⟩, rfl⟩
    · simp only [entered, hsame, if_false]
      exact ⟨.inl ⟨_, _, _, rfl⟩, rfl⟩

end CodeSession

namespace Dialogue

variable [Daemon δ] {dialogue : Dialogue δ} {turn : Turn δ} {turns : List (Turn δ)}

/-! ### What is seen of a flow -/

/-- What is seen in the turns of a run, the earliest first. -/
def along {α : Type} (seen : Dialogue δ → Turn δ → List α) : Dialogue δ → List (Turn δ) → List α
  | _, [] => []
  | dialogue, turn :: rest => seen dialogue turn ++ along seen (dialogue.step turn) rest

theorem along_snoc {α : Type} (seen : Dialogue δ → Turn δ → List α) (dialogue : Dialogue δ)
    (turns : List (Turn δ)) (turn : Turn δ) :
    dialogue.along seen (turns ++ [turn]) =
      dialogue.along seen turns ++ seen (dialogue.run turns) turn := by
  induction turns generalizing dialogue with
  | nil => exact List.append_nil _
  | cons first turns ih =>
    rw [List.cons_append, along, along, ih, List.append_assoc]
    rfl

/-- The code that is entered into the dialog that is up. -/
def code? (dialogue : Dialogue δ) (turn : Turn δ) : Option String :=
  match dialogue.session.phase, turn with
  | .asking _ _ _, .answer code => code
  | _, _ => none

def dialogs (dialogue : Dialogue δ) (turns : List (Turn δ)) : List Dialog :=
  dialogue.along (fun dialogue turn => (dialogue.opens turn).toList) turns

def codes (dialogue : Dialogue δ) (turns : List (Turn δ)) : List String :=
  dialogue.along (fun dialogue turn => (dialogue.code? turn).toList) turns

/-- The attempts made in a round in which no dialog was shown. -/
def spendings (dialogue : Dialogue δ) (turns : List (Turn δ)) : List Attempt :=
  dialogue.along (fun dialogue turn => (dialogue.spends? turn).toList) turns

/-! ### Turns of a flow -/

/-- The turn makes the session look whether the SIM waits for a code, or ask for a new PIN. -/
def Calls (dialogue : Dialogue δ) : Turn δ → Prop
  | .settled => dialogue.told = true ∧ ∃ path, dialogue.session.phase = .settlingQuery path
  | .next => dialogue.session.phase = .idle ∧
      ∃ note notes, dialogue.session.notes = note :: notes ∧
        (note = .activated ∨ ∃ number, note = .changeCode number)
  | _ => False

/-- The turn brings what the flow waits for. -/
def Resumes (dialogue : Dialogue δ) (turn : Turn δ) : Prop :=
  match dialogue.session.phase, turn with
  | .asking _ _ _, .answer _ => True
  | .submitting _, .submit => True
  | .settlingRefusal _ _, .settled => dialogue.told = true
  | .runningCommand _ _, .commandEnded => True
  | _, _ => False

/-- What the flow comes to in a turn. -/
inductive Passage (dialogue : Dialogue δ) (turn : Turn δ) : Prop where
  | stands (hresumes : ¬ dialogue.Resumes turn)
      (hphase : (dialogue.step turn).session.phase = dialogue.session.phase)
      (hkept : (dialogue.step turn).session.cachedCode = dialogue.session.cachedCode)
  | returns (hcode : dialogue.code? turn = none)
      (hphase : (dialogue.step turn).session.phase = .idle)
  | enters {code : String} (hturn : turn = .answer (some code))
      {question : Question} {attempts : Option UInt8} {message : Option Message}
      (hasks : dialogue.session.phase = .asking question attempts message)
      (hphase : (∃ question attempts message,
          (dialogue.step turn).session.phase = .asking question attempts message) ∨
        ∃ attempt, (dialogue.step turn).session.phase = .submitting attempt)
      (hkept : (dialogue.step turn).session.cachedCode = dialogue.session.cachedCode)
  | runs (hturn : turn = .submit) {attempt : Attempt} {command : String} {cause : Cause}
      (hsubmits : dialogue.session.phase = .submitting attempt)
      (hphase : (dialogue.step turn).session.phase = .runningCommand command cause)
  | settles (hturn : turn = .submit) {attempt : Attempt} {failure : Failure}
      (hsubmits : dialogue.session.phase = .submitting attempt)
      (hphase : (dialogue.step turn).session.phase = .settlingRefusal attempt failure)
      (hkept : (dialogue.step turn).session.cachedCode = none)
  | refused (hturn : turn = .submit) {attempt : Attempt}
      (hsubmits : dialogue.session.phase = .submitting attempt)
      (honward : dialogue.session.Onward (dialogue.step turn).session)
  | goesOn (hturn : turn = .settled) {attempt : Attempt} {failure : Failure}
      (hsettles : dialogue.session.phase = .settlingRefusal attempt failure)
      (honward : dialogue.session.Onward (dialogue.step turn).session)

/-- What a flow does not wait for leaves it as it is. -/
theorem stands_of_not_resumes (hflow : dialogue.session.phase.inFlow = true)
    (hresumes : ¬ dialogue.Resumes turn) :
    (dialogue.step turn).session.phase = dialogue.session.phase ∧
      (dialogue.step turn).session.cachedCode = dialogue.session.cachedCode := by
  cases turn with
  | next =>
    have hnone : dialogue.session.next dialogue.board = none := by
      unfold CodeSession.next
      split
      · next hphase hnotes =>
        rw [hphase] at hflow
        cases hflow
      · rfl
    simp only [step, hnone, and_self]
  | answer code =>
    have hsame : (dialogue.session.answer code).1 = dialogue.session := by
      unfold CodeSession.answer
      split
      · next hphase => exact absurd (by simp only [Resumes, hphase]) hresumes
      · next hphase => exact absurd (by simp only [Resumes, hphase]) hresumes
      · rfl
    simp only [step, hsame, and_self]
  | submit =>
    cases hphase : dialogue.session.phase with
    | submitting attempt => exact absurd (by simp only [Resumes, hphase]) hresumes
    | _ => simp only [step, hphase, and_self]
  | settled =>
    by_cases htold : dialogue.told = true
    · have hsame : (dialogue.session.settled dialogue.board).1 = dialogue.session := by
        unfold CodeSession.settled
        split
        · next hphase =>
          rw [hphase] at hflow
          cases hflow
        · next hphase => exact absurd (by simp only [Resumes, hphase, htold]) hresumes
        · rfl
      simp only [step, htold, hsame, if_true, and_self]
    · simp only [step, htold, if_false, and_self, Bool.false_eq_true]
  | commandEnded =>
    have hsame : dialogue.session.commandEnded.1 = dialogue.session := by
      unfold CodeSession.commandEnded
      split
      · next hphase => exact absurd (by simp only [Resumes, hphase]) hresumes
      · rfl
    simp only [step, hsame, and_self]
  | setActive on =>
    simp only [step, CodeSession.setActive]
    split <;> exact ⟨rfl, rfl⟩
  | process event | flush | hear | daemon next | changeCode number | checkEmergency digits =>
    exact ⟨rfl, rfl⟩

theorem idle_of_dismissal (hup : dialogue.session.phase.dialog?.isSome = true) :
    (dialogue.step (.answer none)).session.phase = .idle := by
  cases hphase : dialogue.session.phase with
  | asking question attempts message =>
    simp only [step, CodeSession.answer, hphase]
    exact CodeSession.dismissed_idle dialogue.session question
  | _ =>
    rw [hphase] at hup
    cases hup

theorem passage_submit {attempt : Attempt}
    (hphase : dialogue.session.phase = .submitting attempt) : dialogue.Passage .submit := by
  have hcode : dialogue.code? .submit = none := by simp only [code?, hphase]
  have hstep := step_submit hphase
  generalize (dialogue.service.attempt attempt).1 = result at hstep
  cases result with
  | error failure =>
    have hrefused : (dialogue.step .submit).session =
        (dialogue.session.refused dialogue.board attempt failure).1 := by
      rw [hstep]
      simp only [CodeSession.attempted, hphase]
    cases failure with
    | invalidInput field reason =>
      refine .refused rfl hphase ?_
      rw [hrefused]
      exact CodeSession.retry_onward dialogue.session dialogue.board attempt _ _
    | _ => exact .settles rfl hphase (by rw [hrefused]; rfl) (by rw [hrefused]; rfl)
  | ok =>
    have hunlocked : ∀ pin cause,
        (dialogue.step .submit).session = (dialogue.session.unlocked pin cause).1 →
        dialogue.Passage .submit := by
      intro pin cause hsession
      obtain ⟨-, -, hidle | ⟨command, cause', hruns⟩⟩ := dialogue.session.unlocked_codes pin cause
      · exact .returns hcode (hsession ▸ hidle)
      · exact .runs rfl hphase (hsession ▸ hruns)
    cases attempt with
    | enter path code pin cause =>
      exact hunlocked pin cause (by rw [hstep]; simp only [CodeSession.attempted, hphase])
    | reset path code puk newPin cause =>
      exact hunlocked newPin cause (by rw [hstep]; simp only [CodeSession.attempted, hphase])
    | change path current newPin number =>
      refine .returns hcode ?_
      rw [hstep]
      simp only [CodeSession.attempted, hphase]
      rfl

theorem passage (hflow : dialogue.session.phase.inFlow = true) (turn : Turn δ) :
    dialogue.Passage turn := by
  by_cases hresumes : dialogue.Resumes turn
  · unfold Resumes at hresumes
    split at hresumes
    · next question attempts message answered hphase =>
      cases answered with
      | none =>
        refine .returns (by simp only [code?, hphase]) (idle_of_dismissal ?_)
        rw [hphase]
        rfl
      | some code =>
        obtain ⟨hmade, hkept⟩ := dialogue.session.entered_onward question code
        have hstep : (dialogue.step (.answer (some code))).session =
            dialogue.session.entered question code := by
          simp only [step, CodeSession.answer, hphase]
        exact .enters rfl hphase (hstep ▸ hmade) (hstep ▸ hkept)
    · next attempt hphase => exact passage_submit hphase
    · next attempt failure hphase =>
      refine .goesOn rfl hphase ?_
      simp only [step, hresumes, if_true, CodeSession.settled, hphase]
      exact CodeSession.retry_onward dialogue.session dialogue.board attempt failure _
    · next command cause hphase =>
      refine .returns (by simp only [code?, hphase]) ?_
      simp only [step, CodeSession.commandEnded, hphase]
      exact CodeSession.finish_idle _ cause
    · exact hresumes.elim
  · obtain ⟨hphase, hkept⟩ := stands_of_not_resumes hflow hresumes
    exact .stands hresumes hphase hkept

/-! ### What a turn adds -/

theorem opens_le (dialogue : Dialogue δ) (turn : Turn δ) :
    (dialogue.opens turn).toList.length ≤
      (dialogue.step turn).session.phase.dialog?.isSome.toNat := by
  unfold opens
  split
  · exact Nat.zero_le _
  · cases (dialogue.step turn).session.phase.dialog? <;> exact Nat.le_refl _

theorem trial_le (dialogue : Dialogue δ) (turn : Turn δ) :
    (dialogue.trial? turn).toList.length ≤ dialogue.session.phase.submits.toNat := by
  unfold trial?
  split
  · split
    · next hphase => rw [hphase]; exact Nat.le_refl _
    · exact Nat.zero_le _
  · exact Nat.zero_le _

theorem spends_of_rest (hrest : (dialogue.step turn).session.phase.submits = false) :
    dialogue.spends? turn = none := by
  unfold spends?
  split
  · next hphase =>
    rw [hphase] at hrest
    cases hrest
  · rfl

theorem spends_of_answers (hanswers : turn.answers = true) : dialogue.spends? turn = none := by
  unfold spends?
  split
  · rw [if_pos (.inl hanswers)]
  · rfl

omit [Daemon δ] in
theorem code_of_no_dialog (hnone : dialogue.session.phase.dialog? = none) (turn : Turn δ) :
    dialogue.code? turn = none := by
  unfold code?
  split
  · next hasks =>
    rw [hasks] at hnone
    cases hnone
  · rfl

theorem opens_of_no_dialog (hnone : dialogue.session.phase.dialog? = none) (turn : Turn δ) :
    (dialogue.opens turn).toList.length =
      (dialogue.step turn).session.phase.dialog?.isSome.toNat := by
  rw [opens, if_neg fun hup => by simp [hnone] at hup]
  cases (dialogue.step turn).session.phase.dialog? <;> rfl

/-- An attempt that follows no answer, and is not the one that was waited for before, is made in a
round without a dialog. -/
theorem spends_of_unanswered (hanswers : turn.answers = false)
    (hnew : dialogue.trial? turn = none → dialogue.session.phase.submits = false) :
    (dialogue.spends? turn).toList.length =
      (dialogue.step turn).session.phase.submits.toNat := by
  unfold spends?
  cases hphase : (dialogue.step turn).session.phase with
  | submitting attempt =>
    have hspent : ¬ (turn.answers = true ∨
        dialogue.trial? turn = none ∧ dialogue.session.phase = .submitting attempt) := by
      rintro (hanswered | ⟨htrial, hsame⟩)
      · rw [hanswers] at hanswered
        cases hanswered
      · have hrest := hnew htrial
        rw [hsame] at hrest
        cases hrest
    simp only [if_neg hspent]
    rfl
  | _ => rfl

/-- While a flow stands nothing is seen of it. -/
theorem silent_of_stands (hresumes : ¬ dialogue.Resumes turn)
    (hsame : (dialogue.step turn).session.phase = dialogue.session.phase) :
    dialogue.opens turn = none ∧ dialogue.code? turn = none ∧ dialogue.trial? turn = none ∧
      dialogue.spends? turn = none := by
  have hcode : dialogue.code? turn = none := by
    unfold code?
    split
    · next hphase => exact absurd (by simp only [Resumes, hphase]) hresumes
    · rfl
  have htrial : dialogue.trial? turn = none := by
    unfold trial?
    split
    · split
      · next hphase => exact absurd (by simp only [Resumes, hphase]) hresumes
      · rfl
    · rfl
  have hopens : dialogue.opens turn = none := by
    cases hanswers : turn.answers with
    | false => exact opens_of_phase hanswers hsame
    | true =>
      have hdialog : dialogue.session.phase.dialog? = none := by
        cases turn with
        | answer code =>
          cases hphase : dialogue.session.phase with
          | asking question attempts message =>
            exact absurd (by simp only [Resumes, hphase]) hresumes
          | _ => rfl
        | _ => cases hanswers
      unfold opens
      rw [hsame, hdialog]
      split <;> rfl
  refine ⟨hopens, hcode, htrial, ?_⟩
  unfold spends?
  split
  · next hphase => rw [if_pos (.inr ⟨htrial, hsame ▸ hphase⟩)]
  · rfl

/-! ### The tally of a flow -/

/-- What so much seen of a flow leaves where the session stands. All dialogs were answered but the
one that is up or ended the flow, each attempt was made with a code that was entered or with the PIN
that was kept, and that PIN is spent once at most. -/
def Tally (dialogs codes trials spendings : Nat) (session : CodeSession) : Prop :=
  match session.phase with
  | .asking _ _ _ => dialogs ≤ codes + 1 ∧ trials ≤ codes + spendings ∧
      spendings + session.cachedCode.isSome.toNat ≤ 1
  | .submitting _ => dialogs ≤ codes ∧ trials < codes + spendings ∧
      spendings + session.cachedCode.isSome.toNat ≤ 1
  | .settlingRefusal _ _ => dialogs ≤ codes ∧ trials ≤ codes + spendings ∧
      spendings + session.cachedCode.isSome.toNat ≤ 1
  | .runningCommand _ _ => dialogs ≤ codes ∧ trials ≤ codes + spendings ∧ spendings ≤ 1
  | .idle | .settlingQuery _ => dialogs ≤ codes + 1 ∧ trials ≤ codes + spendings ∧ spendings ≤ 1

section Tally

variable {dialogs codes trials spendings : Nat} {session after : CodeSession}

theorem tally_of_phase (htally : Tally dialogs codes trials spendings session)
    (hphase : after.phase = session.phase) (hkept : after.cachedCode = session.cachedCode) :
    Tally dialogs codes trials spendings after := by
  unfold Tally at htally ⊢
  rw [hphase, hkept]
  exact htally

theorem tally_bounds (htally : Tally dialogs codes trials spendings session) :
    dialogs ≤ codes + 1 ∧ trials + session.phase.submits.toNat ≤ codes + spendings ∧
      spendings ≤ 1 := by
  unfold Tally at htally
  cases hphase : session.phase <;> simp only [hphase] at htally <;>
    simp only [CodeSession.Phase.submits, Bool.toNat_false, Bool.toNat_true] <;> omega

theorem tally_onward (honward : session.Onward after) (hdialogs : dialogs ≤ codes)
    (htrials : trials ≤ codes + spendings)
    (hspendings : spendings + session.cachedCode.isSome.toNat ≤ 1) :
    Tally (dialogs + after.phase.dialog?.isSome.toNat) codes trials
      (spendings + after.phase.submits.toNat) after := by
  cases honward with
  | returns hphase =>
    simp only [Tally, hphase]
    exact ⟨Nat.le_succ_of_le hdialogs, htrials, (Nat.le_add_right _ _).trans hspendings⟩
  | asks hphase hkept =>
    simp only [Tally, hphase, hkept]
    exact ⟨Nat.succ_le_succ hdialogs, htrials, hspendings⟩
  | spends hphase hkept hspent =>
    simp only [Tally, hphase, hspent]
    rw [hkept] at hspendings
    exact ⟨hdialogs, Nat.lt_succ_of_le htrials, hspendings⟩

/-- A turn of a flow adds to the tally what is seen in it. -/
theorem tally_passage (htally : Tally dialogs codes trials spendings dialogue.session)
    (hflow : dialogue.session.phase.inFlow = true) (turn : Turn δ) :
    Tally (dialogs + (dialogue.opens turn).toList.length)
      (codes + (dialogue.code? turn).toList.length)
      (trials + (dialogue.trial? turn).toList.length)
      (spendings + (dialogue.spends? turn).toList.length) (dialogue.step turn).session := by
  have hopens := dialogue.opens_le turn
  have htrial := dialogue.trial_le turn
  cases passage hflow turn with
  | stands hresumes hphase hkept =>
    obtain ⟨hopens, hcode, htrial, hspends⟩ := silent_of_stands hresumes hphase
    rw [hopens, hcode, htrial, hspends]
    exact tally_of_phase htally hphase hkept
  | returns hcode hphase =>
    obtain ⟨hdialogs, htrials, hspendings⟩ := tally_bounds htally
    rw [hcode, spends_of_rest (by rw [hphase]; rfl)]
    simp only [Tally, hphase] at hopens ⊢
    exact ⟨(Nat.add_le_add_left hopens _).trans hdialogs,
      (Nat.add_le_add_left htrial _).trans htrials, hspendings⟩
  | @enters code hturn question left said hasks hphase hkept =>
    subst hturn
    have hcode : dialogue.code? (.answer (some code)) = some code := by simp only [code?, hasks]
    rw [hcode, spends_of_answers rfl]
    simp only [Tally, hasks] at htally
    obtain ⟨hdialogs, htrials, hspendings⟩ := htally
    rcases hphase with ⟨next, left, said, hphase⟩ | ⟨attempt, hphase⟩
    · simp only [Tally, hphase, hkept] at hopens ⊢
      exact ⟨Nat.add_le_add hdialogs hopens,
        (Nat.le_succ_of_le htrials).trans_eq (Nat.succ_add _ _).symm, hspendings⟩
    · simp only [Tally, hphase, hkept] at hopens ⊢
      exact ⟨(Nat.add_le_add_left hopens _).trans hdialogs,
        (Nat.lt_succ_of_le htrials).trans_eq (Nat.succ_add _ _).symm, hspendings⟩
  | runs hturn hsubmits hphase =>
    subst hturn
    have hnone : dialogue.session.phase.dialog? = none := by rw [hsubmits]; rfl
    rw [code_of_no_dialog hnone, spends_of_rest (by rw [hphase]; rfl)]
    simp only [Tally, hsubmits] at htally
    obtain ⟨hdialogs, htrials, hspendings⟩ := htally
    simp only [Tally, hphase, hsubmits] at hopens htrial ⊢
    exact ⟨Nat.add_le_add hdialogs hopens, (Nat.add_le_add_left htrial _).trans htrials,
      (Nat.le_add_right _ _).trans hspendings⟩
  | settles hturn hsubmits hphase hkept =>
    subst hturn
    have hnone : dialogue.session.phase.dialog? = none := by rw [hsubmits]; rfl
    rw [code_of_no_dialog hnone, spends_of_rest (by rw [hphase]; rfl)]
    simp only [Tally, hsubmits] at htally
    obtain ⟨hdialogs, htrials, hspendings⟩ := htally
    simp only [Tally, hphase, hsubmits, hkept] at hopens htrial ⊢
    exact ⟨Nat.add_le_add hdialogs hopens, (Nat.add_le_add_left htrial _).trans htrials,
      (Nat.le_add_right _ _).trans hspendings⟩
  | refused hturn hsubmits honward =>
    subst hturn
    have hnone : dialogue.session.phase.dialog? = none := by rw [hsubmits]; rfl
    simp only [Tally, hsubmits] at htally
    obtain ⟨hdialogs, htrials, hspendings⟩ := htally
    rw [hsubmits] at htrial
    rw [code_of_no_dialog hnone, opens_of_no_dialog hnone, spends_of_unanswered rfl]
    · exact tally_onward honward hdialogs ((Nat.add_le_add_left htrial _).trans htrials) hspendings
    · simp [trial?, hsubmits]
  | goesOn hturn hsettles honward =>
    subst hturn
    have hnone : dialogue.session.phase.dialog? = none := by rw [hsettles]; rfl
    simp only [Tally, hsettles] at htally
    obtain ⟨hdialogs, htrials, hspendings⟩ := htally
    rw [code_of_no_dialog hnone, opens_of_no_dialog hnone, spends_of_unanswered rfl]
    · exact tally_onward honward hdialogs htrials hspendings
    · intro _
      rw [hsettles]
      rfl

/-- A flow begins with the session looking at the SIM, or asking for the PIN. -/
theorem onward_of_calls (hcalls : dialogue.Calls turn) :
    dialogue.session.phase.inFlow = false ∧ dialogue.trial? turn = none ∧ turn.answers = false ∧
      dialogue.session.Onward (dialogue.step turn).session := by
  cases turn with
  | next =>
    obtain ⟨hidle, note, notes, hnotes, hnote⟩ := hcalls
    refine ⟨by rw [hidle]; rfl, rfl, rfl, ?_⟩
    rw [step_next hidle hnotes]
    have honward : ({ dialogue.session with notes } : CodeSession).Onward
        ({ dialogue.session with notes }.take dialogue.board note).1 := by
      rcases hnote with rfl | ⟨number, rfl⟩
      · simp only [CodeSession.take]
        split
        · split
          · exact CodeSession.unlock_onward _ dialogue.board _ none .query
          · exact .returns hidle
        · exact .returns hidle
      · simp only [CodeSession.take]
        split
        · exact .asks rfl rfl
        · exact .returns hidle
    exact honward.of_like rfl
  | settled =>
    obtain ⟨htold, path, hphase⟩ := hcalls
    refine ⟨by rw [hphase]; rfl, rfl, rfl, ?_⟩
    simp only [step, htold, if_true, CodeSession.settled, hphase]
    exact CodeSession.unlock_onward _ dialogue.board path none .query
  | _ => exact hcalls.elim

omit [Daemon δ] in
theorem dialog_of_rest (hrest : dialogue.session.phase.inFlow = false) :
    dialogue.session.phase.dialog? = none ∧ dialogue.session.phase.submits = false := by
  cases hphase : dialogue.session.phase <;> rw [hphase] at hrest <;>
    first | exact ⟨rfl, rfl⟩ | cases hrest

theorem tally_of_calls (hcalls : dialogue.Calls turn) :
    Tally (dialogue.opens turn).toList.length (dialogue.code? turn).toList.length
      (dialogue.trial? turn).toList.length (dialogue.spends? turn).toList.length
      (dialogue.step turn).session := by
  obtain ⟨hrest, htrial, hanswers, honward⟩ := onward_of_calls hcalls
  have hphase := dialog_of_rest hrest
  rw [code_of_no_dialog hphase.1, htrial, opens_of_no_dialog hphase.1,
    spends_of_unanswered hanswers fun _ => hphase.2]
  have htally := tally_onward honward (Nat.le_refl 0) (Nat.zero_le (0 + 0))
    (by rw [Nat.zero_add]; exact Bool.toNat_le _)
  rw [Nat.zero_add, Nat.zero_add] at htally
  exact htally

end Tally

theorem idle_of_onward {session after : CodeSession} (honward : session.Onward after)
    (hrest : after.phase.inFlow = false) : after.phase = .idle := by
  cases honward with
  | returns hphase => exact hphase
  | asks hphase _ | spends hphase _ _ =>
    rw [hphase] at hrest
    cases hrest

/-- A flow that ends, ends without another code. -/
theorem idle_of_rest (hflow : dialogue.session.phase.inFlow = true)
    (hrest : (dialogue.step turn).session.phase.inFlow = false) :
    dialogue.code? turn = none ∧ (dialogue.step turn).session.phase = .idle := by
  cases passage hflow turn with
  | returns hcode hphase => exact ⟨hcode, hphase⟩
  | refused hturn hsubmits honward =>
    exact ⟨code_of_no_dialog (by rw [hsubmits]; rfl) turn, idle_of_onward honward hrest⟩
  | goesOn hturn hsettles honward =>
    exact ⟨code_of_no_dialog (by rw [hsettles]; rfl) turn, idle_of_onward honward hrest⟩
  | stands hresumes hphase hkept =>
    rw [hphase, hflow] at hrest
    cases hrest
  | enters hturn hasks hphase hkept =>
    rcases hphase with ⟨next, left, said, hphase⟩ | ⟨attempt, hphase⟩ <;> rw [hphase] at hrest <;>
      cases hrest
  | runs hturn hsubmits hphase | settles hturn hsubmits hphase _ =>
    rw [hphase] at hrest
    cases hrest

/-! ### The measure of a flow -/

theorem rank_onward {session after : CodeSession} (honward : session.Onward after) (left : Nat) :
    after.rank left ≤ 5 * left + 3 * session.cachedCode.isSome.toNat + 2 := by
  cases honward with
  | returns hphase =>
    simp only [CodeSession.rank, hphase]
    exact Nat.zero_le _
  | asks hphase hkept => simp only [CodeSession.rank, hphase, hkept, Nat.le_refl]
  | spends hphase hkept hspent =>
    simp only [CodeSession.rank, hphase, hkept, hspent]
    change 5 * left + 3 * 0 + 4 ≤ 5 * left + 3 * 1 + 2
    omega

/-- A flow gets nearer to its end when what it waits for comes, as long as no more codes are entered
than there are answers. -/
theorem rank_passage (hflow : dialogue.session.phase.inFlow = true) {answers codes : Nat}
    (hleft : (dialogue.step turn).session.phase.inFlow = true →
      codes + (dialogue.code? turn).toList.length ≤ answers) :
    (dialogue.step turn).session.rank (answers - (codes + (dialogue.code? turn).toList.length)) <
        dialogue.session.rank (answers - codes) ∨
      ¬ dialogue.Resumes turn ∧
        (dialogue.step turn).session.rank
            (answers - (codes + (dialogue.code? turn).toList.length)) =
          dialogue.session.rank (answers - codes) := by
  cases passage hflow turn with
  | stands hresumes hphase hkept =>
    obtain ⟨-, hcode, -, -⟩ := silent_of_stands hresumes hphase
    refine .inr ⟨hresumes, ?_⟩
    rw [hcode]
    simp only [CodeSession.rank, hphase, hkept]
    rfl
  | returns hcode hphase =>
    left
    simp only [CodeSession.rank, hphase]
    cases hbefore : dialogue.session.phase with
    | idle | settlingQuery path =>
      rw [hbefore] at hflow
      cases hflow
    | _ => exact Nat.succ_pos _
  | @enters code hturn question attempts said hasks hphase hkept =>
    subst hturn
    have hcode : dialogue.code? (.answer (some code)) = some code := by simp only [code?, hasks]
    simp only [hcode, Option.toList_some, List.length_singleton] at hleft ⊢
    left
    rcases hphase with ⟨next, left, said, hphase⟩ | ⟨attempt, hphase⟩
    · have hleft := hleft (by rw [hphase]; rfl)
      simp only [CodeSession.rank, hphase, hasks, hkept]
      omega
    · have hleft := hleft (by rw [hphase]; rfl)
      simp only [CodeSession.rank, hphase, hasks, hkept]
      omega
  | runs hturn hsubmits hphase =>
    left
    simp only [CodeSession.rank, hphase, hsubmits]
    omega
  | settles hturn hsubmits hphase hkept =>
    subst hturn
    have hnone : dialogue.session.phase.dialog? = none := by rw [hsubmits]; rfl
    left
    rw [code_of_no_dialog hnone]
    simp only [CodeSession.rank, hphase, hsubmits, hkept]
    change 5 * (answers - codes) + 3 * 0 + 3 < _
    omega
  | refused hturn hsubmits honward =>
    subst hturn
    have hnone : dialogue.session.phase.dialog? = none := by rw [hsubmits]; rfl
    left
    rw [code_of_no_dialog hnone]
    refine (rank_onward honward _).trans_lt ?_
    simp only [CodeSession.rank, hsubmits]
    change 5 * (answers - codes) + _ + 2 < _
    omega
  | goesOn hturn hsettles honward =>
    subst hturn
    have hnone : dialogue.session.phase.dialog? = none := by rw [hsettles]; rfl
    left
    rw [code_of_no_dialog hnone]
    refine (rank_onward honward _).trans_lt ?_
    simp only [CodeSession.rank, hsettles]
    change 5 * (answers - codes) + _ + 2 < _
    omega

/-! ### Whole flows -/

/-- The first turns of a behaviour that goes on for ever. -/
def firstTurns (behaviour : Nat → Turn δ) (count : Nat) : List (Turn δ) :=
  (List.range count).map behaviour

/-- A flow that begins with the first turn has not ended by so many turns. -/
def UnderWay (dialogue : Dialogue δ) (behaviour : Nat → Turn δ) (count : Nat) : Prop :=
  ∀ past, 0 < past → past ≤ count →
    (dialogue.run (firstTurns behaviour past)).session.phase.inFlow = true

/-- The flow has ended with the turn `last`, after at most so many dialogs and attempts as there were
answers, and one. -/
structure Returns (dialogue : Dialogue δ) (behaviour : Nat → Turn δ) (answers last : Nat) :
    Prop where
  underWay : dialogue.UnderWay behaviour last
  idle : (dialogue.run (firstTurns behaviour (last + 1))).session.phase = .idle
  dialogs : (dialogue.dialogs (firstTurns behaviour (last + 1))).length ≤ answers + 1
  trials : (dialogue.trials (firstTurns behaviour (last + 1))).length ≤ answers + 1
  spendings : (dialogue.spendings (firstTurns behaviour (last + 1))).length ≤ 1
  dismissed : ∀ count ≤ last, behaviour count = .answer none →
    (dialogue.run (firstTurns behaviour count)).session.phase.dialog?.isSome = true → count = last

section Behaviours

variable {behaviour : Nat → Turn δ} {answers count : Nat}

omit [Daemon δ] in
theorem firstTurns_succ (behaviour : Nat → Turn δ) (count : Nat) :
    firstTurns behaviour (count + 1) = firstTurns behaviour count ++ [behaviour count] := by
  simp [firstTurns, List.range_succ]

theorem run_succ (dialogue : Dialogue δ) (behaviour : Nat → Turn δ) (count : Nat) :
    dialogue.run (firstTurns behaviour (count + 1)) =
      (dialogue.run (firstTurns behaviour count)).step (behaviour count) := by
  rw [firstTurns_succ, run_append]
  rfl

theorem codes_succ (dialogue : Dialogue δ) (behaviour : Nat → Turn δ) (count : Nat) :
    (dialogue.codes (firstTurns behaviour (count + 1))).length =
      (dialogue.codes (firstTurns behaviour count)).length +
        ((dialogue.run (firstTurns behaviour count)).code? (behaviour count)).toList.length := by
  rw [firstTurns_succ, codes, along_snoc, List.length_append]
  rfl

theorem tally_run (hcalls : dialogue.Calls (behaviour 0))
    (hway : dialogue.UnderWay behaviour count) :
    Tally (dialogue.dialogs (firstTurns behaviour (count + 1))).length
      (dialogue.codes (firstTurns behaviour (count + 1))).length
      (dialogue.trials (firstTurns behaviour (count + 1))).length
      (dialogue.spendings (firstTurns behaviour (count + 1))).length
      (dialogue.run (firstTurns behaviour (count + 1))).session := by
  induction count with
  | zero =>
    have hfirst : firstTurns behaviour 1 = [behaviour 0] := rfl
    rw [hfirst]
    simpa [dialogs, codes, trials, spendings, along, run] using tally_of_calls hcalls
  | succ count ih =>
    have htally := tally_passage (ih fun past hpast hle => hway past hpast (Nat.le_succ_of_le hle))
      (hway (count + 1) (Nat.succ_pos _) (Nat.le_refl _)) (behaviour (count + 1))
    rw [run_succ, firstTurns_succ behaviour (count + 1)]
    simpa only [dialogs, codes, spendings, along_snoc, trials_snoc, List.length_append] using htally

/-- How far the flow is from its end. -/
def distance (dialogue : Dialogue δ) (behaviour : Nat → Turn δ) (answers count : Nat) : Nat :=
  (dialogue.run (firstTurns behaviour count)).session.rank
    (answers - (dialogue.codes (firstTurns behaviour count)).length)

section Endless

variable (hanswers : ∀ count, dialogue.UnderWay behaviour count →
    (dialogue.codes (firstTurns behaviour count)).length ≤ answers)
  (hendless : ∀ count, dialogue.UnderWay behaviour count)

include hanswers hendless

theorem distance_succ (hcount : 0 < count) :
    dialogue.distance behaviour answers (count + 1) < dialogue.distance behaviour answers count ∨
      ¬ (dialogue.run (firstTurns behaviour count)).Resumes (behaviour count) ∧
        dialogue.distance behaviour answers (count + 1) =
          dialogue.distance behaviour answers count := by
  have hflow := hendless count count hcount (Nat.le_refl _)
  have hcodes := hanswers (count + 1) (hendless (count + 1))
  unfold distance
  rw [run_succ, codes_succ] at *
  exact rank_passage hflow fun _ => hcodes

theorem distance_le {later : Nat} (hcount : 0 < count) (hlater : count ≤ later) :
    dialogue.distance behaviour answers later ≤ dialogue.distance behaviour answers count := by
  induction later, hlater using Nat.le_induction with
  | base => exact Nat.le_refl _
  | succ later hlater ih =>
    rcases distance_succ hanswers hendless (hcount.trans_le hlater) with hless | ⟨-, hsame⟩
    · exact hless.le.trans ih
    · exact hsame.le.trans ih

/-- What a flow waits for cannot come again and again. -/
theorem not_endless (hreturns : ∀ count, 0 < count → dialogue.UnderWay behaviour count →
      ∃ later ≥ count, (dialogue.run (firstTurns behaviour later)).Resumes (behaviour later)) :
    False := by
  have hnever : ∀ left count, 0 < count → dialogue.distance behaviour answers count < left →
      False := by
    intro left
    induction left with
    | zero => exact fun count _ => Nat.not_lt_zero _
    | succ left ih =>
      intro count hcount hleft
      obtain ⟨later, hlater, hresumes⟩ := hreturns count hcount (hendless count)
      have hnearer := (distance_succ hanswers hendless (hcount.trans_le hlater)).resolve_right
        fun hstands => hstands.1 hresumes
      have hnear := distance_le hanswers hendless hcount hlater
      exact ih (later + 1) (Nat.succ_pos _) (by omega)
  exact hnever _ 1 Nat.one_pos (Nat.lt_succ_self _)

end Endless

theorem underWay_succ : dialogue.UnderWay behaviour (count + 1) ↔
    dialogue.UnderWay behaviour count ∧
      (dialogue.run (firstTurns behaviour (count + 1))).session.phase.inFlow = true := by
  constructor
  · exact fun hway => ⟨fun past hpast hle => hway past hpast (Nat.le_succ_of_le hle),
      hway (count + 1) (Nat.succ_pos _) (Nat.le_refl _)⟩
  · rintro ⟨hway, hflow⟩ past hpast hle
    rcases Nat.lt_or_eq_of_le hle with hless | rfl
    · exact hway past hpast (Nat.le_of_lt_succ hless)
    · exact hflow

/-- With its last turn a flow returns, and no code is entered in that turn. -/
theorem idle_of_underWay (hcalls : dialogue.Calls (behaviour 0))
    (hway : dialogue.UnderWay behaviour count)
    (hended : (dialogue.run (firstTurns behaviour (count + 1))).session.phase.inFlow = false) :
    (dialogue.run (firstTurns behaviour count)).code? (behaviour count) = none ∧
      (dialogue.run (firstTurns behaviour (count + 1))).session.phase = .idle := by
  rw [run_succ] at hended ⊢
  cases count with
  | zero =>
    obtain ⟨hrest, -, -, honward⟩ := onward_of_calls hcalls
    exact ⟨code_of_no_dialog (dialog_of_rest hrest).1 _, idle_of_onward honward hended⟩
  | succ past => exact idle_of_rest (hway (past + 1) (Nat.succ_pos _) (Nat.le_refl _)) hended

/-- A wrong PIN is entered, and the dialog that asks again is dismissed. -/
def wrongPin : Nat → Turn Simulator
  | 0 => .settled
  | 1 => .answer (some "0000")
  | 2 => .submit
  | 3 => .flush
  | 4 => .settled
  | _ => .answer none

end Behaviours

end Dialogue

end Telephony
