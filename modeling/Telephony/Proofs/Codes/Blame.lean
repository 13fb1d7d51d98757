import Telephony.Proofs.Codes.Trials
import Telephony.Proofs.Sessions.Reopening

/-!
# Blame for refusals

A session counts each refusal that is not of a malformed code, and tells the user that the code was
wrong. A refusal does not always mean that: the SIM may have gone while a dialog was up, so that
nothing was asked of the daemon, or the daemon may have failed for a reason of its own. Such strays
are all that keeps the count and the message from being right, until the count itself wraps.
-/

namespace Telephony

variable {δ : Type}

namespace Trial

/-- The session counts the trial. -/
def counts (trial : Trial) : Bool := trial.refusal.any fun failure => !failure.isMalformed

/-- The SIM refused a wrong code, where `wrong` are the failures that mean so. -/
def wrongCode (wrong : Failure → Bool) (trial : Trial) : Bool :=
  trial.reached && trial.refusal.any wrong

/-- The session counts the trial, but no SIM refused a wrong code. -/
def stray (wrong : Failure → Bool) (trial : Trial) : Bool :=
  trial.counts && !trial.wrongCode wrong

section Counting

variable {wrong : Failure → Bool}

theorem counts_of_wrongCode (hwrong : ∀ failure, wrong failure = true → failure.isMalformed = false)
    {trial : Trial} (htrial : trial.wrongCode wrong = true) : trial.counts = true := by
  obtain ⟨-, hrefused⟩ := Bool.and_eq_true_iff.1 htrial
  obtain ⟨failure, hfailure, hmeans⟩ := (Option.any_eq_true _ _).1 hrefused
  rw [counts, hfailure, Option.any_some, hwrong failure hmeans]
  rfl

/-- What a session counts are wrong codes and strays. -/
theorem countP_counts (hwrong : ∀ failure, wrong failure = true → failure.isMalformed = false)
    (past : List Trial) :
    past.countP counts = past.countP (wrongCode wrong) + past.countP (stray wrong) := by
  induction past with
  | nil => rfl
  | cons trial past ih =>
    have hone : (if trial.counts then 1 else 0) =
        (if trial.wrongCode wrong then 1 else 0) + if trial.stray wrong then 1 else 0 := by
      cases htrial : trial.wrongCode wrong with
      | true => simp [stray, htrial, counts_of_wrongCode hwrong htrial]
      | false => simp [stray, htrial]
    rw [List.countP_cons, List.countP_cons, List.countP_cons, ih]
    omega

end Counting

end Trial

namespace CodeSession

/-- The last of the trials is of this kind. -/
def Trailed (past : List Trial) (kind : Trial → Bool) : Prop :=
  ∃ trial, past.getLast? = some trial ∧ kind trial = true

/-- The session has counted its trials, and whenever it blames a code it has just tried one that
counts. -/
structure Tallies (session : CodeSession) (past : List Trial) : Prop where
  retries : session.retries = .ofNat (past.countP Trial.counts)
  settling : ∀ attempt failure, session.phase = .settlingRefusal attempt failure →
    Trailed past Trial.counts
  asking : ∀ question attempts message, session.phase = .asking question attempts (some message) →
    message.blames = true → Trailed past Trial.counts

variable {session after : CodeSession} {past : List Trial} {trial : Trial}

theorem Tallies.of_learns (htallies : session.Tallies past) (hlearns : session.Learns after trial) :
    after.Tallies (past ++ [trial]) := by
  have hone : (past ++ [trial]).countP Trial.counts =
      past.countP Trial.counts + if trial.counts then 1 else 0 := by
    rw [List.countP_append, List.countP_cons, List.countP_nil, Nat.zero_add]
  cases hlearns with
  | accepted haccepted hretries hkept hphase =>
    have hcounts : trial.counts = false := by rw [Trial.counts, haccepted]; rfl
    refine ⟨by rw [hretries, htallies.retries, hone, hcounts]; rfl,
      fun attempt failure hsettling => ?_, fun question attempts message hasking => ?_⟩
    · rcases hphase with hidle | ⟨command, cause, hrunning⟩ <;> simp_all
    · rcases hphase with hidle | ⟨command, cause, hrunning⟩ <;> simp_all
  | malformed hrefused hmalformed hmoves =>
    have hcounts : trial.counts = false := by
      rw [Trial.counts, hrefused, Option.any_some, hmalformed]
      rfl
    refine ⟨by rw [hmoves.retries, htallies.retries, hone, hcounts]; rfl,
      fun attempt failure hsettling => absurd hsettling (hmoves.refusal attempt failure),
      fun question attempts message hasking hblames => ?_⟩
    exact (hmoves.message question attempts message hasking hblames).elim
  | counted hrefused hcounts hretries hforgotten hphase =>
    have hcounted : trial.counts = true := by
      rw [Trial.counts, hrefused, Option.any_some, hcounts]
      rfl
    have htrailed : Trailed (past ++ [trial]) Trial.counts := ⟨trial, by simp, hcounted⟩
    refine ⟨?_, fun _ _ _ => htrailed, fun _ _ _ _ _ => htrailed⟩
    rw [hretries, htallies.retries, hone, if_pos hcounted, UInt32.ofNat_add]
    rfl

theorem Tallies.of_continues {answered : Prop} (htallies : session.Tallies past)
    (hcontinues : session.Continues after answered
      (∃ attempt failure, session.phase = .settlingRefusal attempt failure)) :
    after.Tallies past := by
  cases hcontinues with
  | stays hretries hkept hphase =>
    exact ⟨hretries.trans htallies.retries,
      fun attempt failure hsettling => htallies.settling attempt failure (hphase ▸ hsettling),
      fun question attempts message hasking =>
        htallies.asking question attempts message (hphase ▸ hasking)⟩
  | moves hmoves =>
    refine ⟨hmoves.retries.trans htallies.retries,
      fun attempt failure hsettling => absurd hsettling (hmoves.refusal attempt failure),
      fun question attempts message hasking hblames => ?_⟩
    obtain ⟨attempt, failure, hsettling⟩ :=
      hmoves.message question attempts message hasking hblames
    exact htallies.settling attempt failure hsettling

/-- The session has counted the wrong codes and nothing else, and a dialog that says that the last
code was wrong comes after one that was. -/
structure Fair (wrong : Failure → Bool) (session : CodeSession) (past : List Trial) : Prop where
  retries : session.retries.toNat = past.countP (Trial.wrongCode wrong)
  blamed : ∀ dialog message, session.phase.dialog? = some dialog → dialog.message = some message →
    message.blames = true → Trailed past (Trial.wrongCode wrong)

end CodeSession

namespace Dialogue

open CodeSession (Trailed Fair)

variable [Daemon δ] {dialogue : Dialogue δ}

theorem tallies_run {daemon : δ} {options : CodeOptions} {startup : Bool}
    (hopened : dialogue.Opened daemon options startup) (turns : List (Turn δ)) :
    (dialogue.run turns).session.Tallies (dialogue.trials turns) := by
  refine history_run hopened (fun session hzero _ hidle => ⟨hzero, ?_, ?_⟩)
    (fun _ _ _ _ htallies hlearns _ => htallies.of_learns hlearns)
    (fun _ _ _ _ htallies hcontinues => htallies.of_continues hcontinues) turns
  · intro attempt failure hsettling
    rw [hidle] at hsettling
    cases hsettling
  · intro question attempts message hasking
    rw [hidle] at hasking
    cases hasking

/-- What is tried without reaching the daemon counts when the SIM is not there. -/
theorem unavailable_of_unreached {turn : Turn δ} {trial : Trial}
    (htrial : dialogue.trial? turn = some trial) (hreached : trial.reached = false)
    (hcounts : trial.counts = true) :
    trial.refusal = some (.modemNotFound trial.attempt.path) ∨
      trial.refusal = some (.capabilityUnavailable trial.attempt.path .simManager) := by
  obtain ⟨hservice, hrefusal⟩ := trial_spec htrial
  obtain ⟨failure, hrefused, hkind⟩ := Service.handlePin_of_not_reaches (hservice ▸ hreached)
  have hpath : trial.attempt.request.path = trial.attempt.path := by cases trial.attempt <;> rfl
  rw [hrefused] at hrefusal
  rw [hpath] at hkind
  rcases hkind with hmalformed | rfl | rfl
  · rw [Trial.counts, hrefusal] at hcounts
    simp [Recorded.failure?, hmalformed] at hcounts
  · exact .inl hrefusal
  · exact .inr hrefusal

section Counting

variable {daemon : δ} {options : CodeOptions} {startup : Bool} {wrong : Failure → Bool}

theorem retries_run (hopened : dialogue.Opened daemon options startup)
    (hwrong : ∀ failure, wrong failure = true → failure.isMalformed = false)
    (turns : List (Turn δ)) :
    (dialogue.run turns).session.retries =
      .ofNat ((dialogue.trials turns).countP (Trial.wrongCode wrong) +
        (dialogue.trials turns).countP (Trial.stray wrong)) := by
  rw [(tallies_run hopened turns).retries, Trial.countP_counts hwrong]

theorem fair_of_no_stray (hopened : dialogue.Opened daemon options startup)
    (hwrong : ∀ failure, wrong failure = true → failure.isMalformed = false)
    {turns : List (Turn δ)} (hnone : ∀ trial ∈ dialogue.trials turns, trial.stray wrong = false)
    (hroom : (dialogue.trials turns).countP (Trial.wrongCode wrong) < UInt32.size) :
    (dialogue.run turns).session.Fair wrong (dialogue.trials turns) := by
  have htallies := tallies_run hopened turns
  constructor
  · have hzero : (dialogue.trials turns).countP (Trial.stray wrong) = 0 :=
      List.countP_eq_zero.2 fun trial hmem => by simp [hnone trial hmem]
    rw [retries_run hopened hwrong, hzero, Nat.add_zero, UInt32.toNat_ofNat']
    exact Nat.mod_eq_of_lt hroom
  · intro dialog message hdialog hmessage hblames
    cases hphase : (dialogue.run turns).session.phase with
    | asking question attempts said =>
      rw [hphase] at hdialog
      obtain rfl := Option.some.inj hdialog
      change said = some message at hmessage
      subst hmessage
      obtain ⟨trial, hlast, hcounts⟩ := htallies.asking question attempts message hphase hblames
      have hstray := hnone trial (List.mem_of_getLast? hlast)
      exact ⟨trial, hlast, by simpa [Trial.stray, hcounts] using hstray⟩
    | _ =>
      rw [hphase] at hdialog
      cases hdialog

/-- With the first stray the count is one too many, however often it has wrapped before. -/
theorem no_stray_of_fair (hopened : dialogue.Opened daemon options startup)
    (hwrong : ∀ failure, wrong failure = true → failure.isMalformed = false)
    {turns : List (Turn δ)}
    (hfair : ∀ sofar, sofar <+: turns →
      (dialogue.run sofar).session.Fair wrong (dialogue.trials sofar)) :
    ∀ trial ∈ dialogue.trials turns, trial.stray wrong = false := by
  induction turns using List.reverseRecOn with
  | nil => exact fun trial hmem => absurd hmem List.not_mem_nil
  | append_singleton turns turn ih =>
    have hbefore := ih fun sofar hsofar =>
      hfair sofar (hsofar.trans (List.prefix_append turns [turn]))
    have hcount := (hfair (turns ++ [turn]) (List.prefix_refl _)).retries
    rw [retries_run hopened hwrong, UInt32.toNat_ofNat', trials_snoc] at hcount
    intro trial hmem
    rw [trials_snoc] at hmem
    rcases List.mem_append.1 hmem with hearly | hlast
    · exact hbefore trial hearly
    · rw [Option.mem_toList] at hlast
      by_contra hstray
      rw [Bool.not_eq_false] at hstray
      have hzero : (dialogue.trials turns).countP (Trial.stray wrong) = 0 :=
        List.countP_eq_zero.2 fun other hother => by simp [hbefore other hother]
      have hone : [trial].countP (Trial.stray wrong) = 1 := by
        rw [List.countP_singleton, if_pos hstray]
      rw [hlast, Option.toList_some, List.countP_append (p := Trial.stray wrong), hzero, hone]
        at hcount
      omega

/-- The count of a session is that of the wrong codes and the strays, modulo 2 ^ 32. Throughout a
run it is right, and so is what the dialogs say, exactly if there are no strays and too few wrong
codes for the count to wrap. -/
theorem fair_iff_no_stray (hopened : dialogue.Opened daemon options startup)
    (hwrong : ∀ failure, wrong failure = true → failure.isMalformed = false)
    (turns : List (Turn δ)) :
    (dialogue.run turns).session.retries =
        .ofNat ((dialogue.trials turns).countP (Trial.wrongCode wrong) +
          (dialogue.trials turns).countP (Trial.stray wrong)) ∧
      ((∀ sofar, sofar <+: turns →
          (dialogue.run sofar).session.Fair wrong (dialogue.trials sofar)) ↔
        (∀ trial ∈ dialogue.trials turns, trial.stray wrong = false) ∧
          (dialogue.trials turns).countP (Trial.wrongCode wrong) < UInt32.size) := by
  refine ⟨retries_run hopened hwrong turns, fun hfair => ⟨?_, ?_⟩, ?_⟩
  · exact no_stray_of_fair hopened hwrong hfair
  · rw [← (hfair turns (List.prefix_refl turns)).retries]
    exact UInt32.toNat_lt _
  · rintro ⟨hnone, hroom⟩ sofar ⟨rest, rfl⟩
    rw [trials_append] at hnone hroom
    rw [List.countP_append] at hroom
    apply fair_of_no_stray hopened hwrong
    · exact fun trial hmem => hnone trial (List.mem_append_left _ hmem)
    · exact Nat.lt_of_le_of_lt (Nat.le_add_right _ _) hroom

end Counting

/-- The failures by which the simulated bus says that a code was wrong. -/
def saysWrong (failure : Failure) : Bool :=
  ["enter PIN", "reset PIN", "change PIN"].any fun operation =>
    failure = Simulator.wrongCode operation

theorem not_malformed_of_saysWrong (failure : Failure) (hwrong : saysWrong failure = true) :
    failure.isMalformed = false := by
  obtain ⟨operation, -, hfailure⟩ := List.any_eq_true.1 hwrong
  rw [of_decide_eq_true hfailure]
  rfl

/-- The SIM is withdrawn while the user is asked for its PIN. -/
def untilWithdrawn : List (Turn Simulator) :=
  untilAsked ++ [.process (.propertyChanged ⟨"/m"⟩ (.modem (.interfaces .empty))),
    .answer (some "1234"), .submit]

theorem fair_iff_no_stray_refused :
    (∀ sofar, sofar <+: untilRefused →
        (lastChance.run sofar).session.Fair saysWrong (lastChance.trials sofar)) ∧
      ¬ ∀ sofar, sofar <+: untilWithdrawn →
        (lastChance.run sofar).session.Fair saysWrong (lastChance.trials sofar) := by
  have hopened : lastChance.Opened lastAttempt ⟨none, [], none⟩ false := rfl
  refine ⟨(fair_iff_no_stray hopened not_malformed_of_saysWrong untilRefused).2.2
    ⟨by decide +kernel, by decide +kernel⟩, fun hfair => ?_⟩
  have hnone := ((fair_iff_no_stray hopened not_malformed_of_saysWrong untilWithdrawn).2.1 hfair).1
  exact absurd hnone (by decide +kernel)

/-- The daemon was not asked, and the session counts a wrong code. -/
theorem not_always_fair :
    ¬ ∀ (dialogue : Dialogue Simulator) (daemon : Simulator) (options : CodeOptions)
        (startup : Bool) (turns : List (Turn Simulator)), dialogue.Opened daemon options startup →
      (dialogue.run turns).session.Fair saysWrong (dialogue.trials turns) := by
  intro halways
  have hfair := halways lastChance lastAttempt ⟨none, [], none⟩ false untilWithdrawn rfl
  have hretries : (lastChance.run untilWithdrawn).session.retries = 1 := by decide +kernel
  have htrials : lastChance.trials untilWithdrawn =
      [⟨.enter ⟨"/m"⟩ .pin "1234" .query, false,
        some (.capabilityUnavailable ⟨"/m"⟩ .simManager)⟩] := by decide +kernel
  have hcount := hfair.retries
  rw [hretries, htrials] at hcount
  exact absurd hcount (by decide)

end Dialogue

end Telephony
