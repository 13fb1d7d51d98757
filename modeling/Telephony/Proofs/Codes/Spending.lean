import Telephony.Proofs.Codes.Trials
import Telephony.Proofs.Sessions.Reopening

/-!
# PINs that are spent

A session keeps the PIN that was accepted last, and tries it without asking when a SIM waits for its
PIN. Where that PIN comes from decides whether it is known to open the SIM: the session notes neither
the modem nor the kind of code that it was accepted for, and keeps it when the daemon calls a later
one malformed.
-/

namespace Telephony

open CodeSession (Attempt Cause)

variable {δ : Type}

/-- Once the attempt was accepted, its PIN is known to be the one that opens the SIM. -/
def CodeSession.Attempt.provesPin : Attempt → Bool
  | enter _ code _ _ => code = .pin
  | reset _ code _ _ _ => code = .puk
  | change _ _ _ _ => true

namespace Trial

def Accepted (trial : Trial) : Prop := trial.reached = true ∧ trial.refusal = none

/-- The daemon took the code, and so the PIN opens the SIM. -/
def Opens (trial : Trial) (path : ModemPath) (pin : String) : Prop :=
  trial.Accepted ∧ trial.attempt.provesPin = true ∧ trial.attempt.path = path ∧
    trial.attempt.pin = pin

/-- The daemon refused the code. -/
def Refused (trial : Trial) : Prop := trial.reached = true ∧ trial.refusal ≠ none

/-- The code was told to be malformed, by the daemon or before it was asked. -/
def Malformed (trial : Trial) : Prop :=
  ∃ failure, trial.refusal = some failure ∧ failure.isMalformed = true

instance (trial : Trial) : Decidable trial.Accepted := inferInstanceAs (Decidable (_ ∧ _))

instance (trial : Trial) (path : ModemPath) (pin : String) : Decidable (trial.Opens path pin) :=
  inferInstanceAs (Decidable (_ ∧ _))

instance (trial : Trial) : Decidable trial.Refused := inferInstanceAs (Decidable (_ ∧ _))

/-- It has been seen that the PIN opens the SIM, and no code was refused since. -/
def Known (past : List Trial) (path : ModemPath) (pin : String) : Prop :=
  ∃ before trial after, past = before ++ trial :: after ∧ trial.Opens path pin ∧
    ∀ later ∈ after, ¬ later.Refused

section Known

variable {past before after : List Trial} {source trial : Trial} {path : ModemPath} {pin : String}

theorem not_known_nil : ¬ Known [] path pin := by
  rintro ⟨before, trial, after, hpast, -⟩
  cases before <;> cases hpast

theorem known_snoc :
    Known (past ++ [trial]) path pin ↔
      trial.Opens path pin ∨ ¬ trial.Refused ∧ Known past path pin := by
  constructor
  · rintro ⟨before, opener, after, hpast, hopens, hquiet⟩
    rcases List.eq_nil_or_concat after with rfl | ⟨rest, last, rfl⟩
    · obtain ⟨-, hlast⟩ := List.append_inj' hpast rfl
      obtain rfl := (List.cons.inj hlast).1
      exact .inl hopens
    · have hsplit : past ++ [trial] = (before ++ opener :: rest) ++ [last] := by simpa using hpast
      obtain ⟨hrest, hlast⟩ := List.append_inj' hsplit rfl
      obtain rfl := (List.cons.inj hlast).1
      exact .inr ⟨hquiet trial (by simp), before, opener, rest, hrest, hopens,
        fun later hmem => hquiet later (by simp [hmem])⟩
  · rintro (hopens | ⟨hquiet, before, opener, after, rfl, hopens, hrest⟩)
    · exact ⟨past, trial, [], rfl, hopens, fun _ hmem => absurd hmem List.not_mem_nil⟩
    · refine ⟨before, opener, after ++ [trial], by simp, hopens, fun later hmem => ?_⟩
      rcases List.mem_append.1 hmem with hold | hnew
      · exact hrest later hold
      · exact List.mem_singleton.1 hnew ▸ hquiet

/-- What malformed codes leave of what is known depends on whether the daemon was asked. -/
theorem known_append_of_malformed (hmalformed : ∀ later ∈ after, later.Malformed) :
    Known (past ++ after) path pin ↔
      (∀ later ∈ after, later.reached = false) ∧ Known past path pin := by
  induction after using List.reverseRecOn with
  | nil => simp
  | append_singleton after last ih =>
    obtain ⟨failure, hrefused, -⟩ := hmalformed last (by simp)
    have hopens : ¬ last.Opens path pin := by
      rintro ⟨⟨-, haccepted⟩, -⟩
      rw [hrefused] at haccepted
      cases haccepted
    have hreached : ¬ last.Refused ↔ last.reached = false := by simp [Refused, hrefused]
    have hbefore := ih fun later hmem => hmalformed later (by simp [hmem])
    rw [← List.append_assoc, known_snoc, hbefore, hreached]
    constructor
    · rintro (hlast | ⟨hlast, hrest, hknown⟩)
      · exact absurd hlast hopens
      · refine ⟨fun later hmem => ?_, hknown⟩
        rcases List.mem_append.1 hmem with hold | hnew
        · exact hrest later hold
        · exact List.mem_singleton.1 hnew ▸ hlast
    · rintro ⟨hall, hknown⟩
      exact .inr ⟨hall last (by simp), fun later hmem => hall later (by simp [hmem]), hknown⟩

/-- The PIN was accepted in the trial `source`, and no code since has been told to be anything but
malformed. -/
structure Stems (past : List Trial) (pin : String) (before : List Trial) (source : Trial)
    (after : List Trial) : Prop where
  split : past = before ++ source :: after
  accepted : source.Accepted
  pin_eq : source.attempt.pin = pin
  malformed : ∀ later ∈ after, later.Malformed

theorem Stems.snoc (hstems : Stems past pin before source after) (hmalformed : trial.Malformed) :
    Stems (past ++ [trial]) pin before source (after ++ [trial]) := by
  refine ⟨by simp [hstems.split], hstems.accepted, hstems.pin_eq, fun later hmem => ?_⟩
  rcases List.mem_append.1 hmem with hold | hnew
  · exact hstems.malformed later hold
  · exact List.mem_singleton.1 hnew ▸ hmalformed

/-- Whether a PIN that was accepted is known to open a SIM. -/
theorem Stems.known_iff (hstems : Stems past pin before source after) :
    Known past path pin ↔ (∀ later ∈ after, later.reached = false) ∧
      (source.Opens path pin ∨ Known before path pin) := by
  have hrefused : ¬ source.Refused := fun hrefused => hrefused.2 hstems.accepted.2
  have hsplit : past = (before ++ [source]) ++ after := by simpa using hstems.split
  rw [hsplit, known_append_of_malformed hstems.malformed, known_snoc]
  simp only [hrefused, not_false_eq_true, true_and]

end Known

end Trial

open Trial (Known Stems)

namespace CodeSession

/-- The PIN that the session keeps was accepted in one of the trials. -/
def Recalls (session : CodeSession) (past : List Trial) : Prop :=
  ∀ pin, session.cachedCode = some pin → ∃ before source after, Stems past pin before source after

variable {session after : CodeSession} {past : List Trial} {trial : Trial}

theorem Recalls.of_learns (hrecalls : session.Recalls past) (hlearns : session.Learns after trial)
    (hreached : trial.refusal = none → trial.reached = true) : after.Recalls (past ++ [trial]) := by
  intro pin hpin
  cases hlearns with
  | accepted haccepted hretries hkept hphase =>
    have hsame : trial.attempt.pin = pin := Option.some.inj (hkept.symm.trans hpin)
    exact ⟨past, trial, [], rfl, ⟨hreached haccepted, haccepted⟩, hsame,
      fun _ hmem => absurd hmem List.not_mem_nil⟩
  | malformed hrefused hmalformed hmoves =>
    obtain ⟨before, source, rest, hstems⟩ := hrecalls pin (hmoves.kept pin hpin)
    exact ⟨before, source, rest ++ [trial], hstems.snoc ⟨_, hrefused, hmalformed⟩⟩
  | counted hrefused hcounts hretries hforgotten hphase =>
    rw [hforgotten] at hpin
    cases hpin

theorem Recalls.of_continues {answered refused : Prop} (hrecalls : session.Recalls past)
    (hcontinues : session.Continues after answered refused) : after.Recalls past := by
  intro pin hpin
  cases hcontinues with
  | stays hretries hkept hphase => exact hrecalls pin (hkept ▸ hpin)
  | moves hmoves => exact hrecalls pin (hmoves.kept pin hpin)

end CodeSession

namespace Dialogue

variable [Daemon δ] {dialogue : Dialogue δ}

/-- The attempt that the session comes to make in a turn in which nobody answers it. -/
def spends? (dialogue : Dialogue δ) (turn : Turn δ) : Option Attempt :=
  match (dialogue.step turn).session.phase with
  | .submitting attempt =>
    if turn.answers ∨
        dialogue.trial? turn = none ∧ dialogue.session.phase = .submitting attempt then none
    else some attempt
  | _ => none

/-- Without an answer a session spends the PIN that it has kept, at once after a malformed code if
it has just tried one. -/
theorem spends_of_spends? {turn : Turn δ} {attempt : Attempt}
    (hspends : dialogue.spends? turn = some attempt) :
    dialogue.session.Spends attempt ∧
      ∀ trial, dialogue.trial? turn = some trial → trial.Malformed := by
  unfold spends? at hspends
  split at hspends
  · next made hphase =>
    split at hspends
    · cases hspends
    · next hnew =>
      obtain rfl := Option.some.inj hspends
      obtain ⟨hanswers, hfresh⟩ := not_or.1 hnew
      -- a trial that was accepted, or that counts, is not followed by another in the same turn
      rcases dialogue.learns_or_continues turn with ⟨trial, htrial, hlearns⟩ | ⟨hnone, hcontinues⟩
      · cases hlearns with
        | accepted haccepted hretries hkept hended =>
          rw [hphase] at hended
          rcases hended with hidle | ⟨command, cause, hrunning⟩
          · cases hidle
          · cases hrunning
        | malformed hrefused hmalformed hmoves =>
          refine ⟨(hmoves.attempt made hphase).resolve_left id, fun other hother => ?_⟩
          obtain rfl := Option.some.inj (htrial.symm.trans hother)
          exact ⟨_, hrefused, hmalformed⟩
        | counted hrefused hcounts hretries hforgotten hsettling =>
          rw [hphase] at hsettling
          cases hsettling
      · cases hcontinues with
        | stays hretries hkept hsame => exact absurd ⟨hnone, hsame ▸ hphase⟩ hfresh
        | moves hmoves =>
          refine ⟨(hmoves.attempt made hphase).resolve_left hanswers, fun trial htrial => ?_⟩
          rw [hnone] at htrial
          cases htrial
  · cases hspends

theorem recalls_run {daemon : δ} {options : CodeOptions} {startup : Bool}
    (hopened : dialogue.Opened daemon options startup) (turns : List (Turn δ)) :
    (dialogue.run turns).session.Recalls (dialogue.trials turns) := by
  refine history_run hopened (fun session _ hnone _ pin hpin => ?_)
    (fun _ _ _ _ hrecalls hlearns hreached => hrecalls.of_learns hlearns hreached)
    (fun _ _ _ _ hrecalls hcontinues => hrecalls.of_continues hcontinues) turns
  rw [hnone] at hpin
  cases hpin

/-- What a session tries without an answer is a PIN that was accepted in an earlier trial, since
when codes were at most malformed. It is known to open the SIM exactly when none of those has reached
the daemon, and either that trial or what was known before it shows so. -/
theorem spent_pin_known_iff {daemon : δ} {options : CodeOptions} {startup : Bool}
    (hopened : dialogue.Opened daemon options startup) (turns : List (Turn δ)) {turn : Turn δ}
    {attempt : Attempt} (hspends : (dialogue.run turns).spends? turn = some attempt) :
    ∃ path pin cause before source after, attempt = .enter path .pin pin cause ∧
      Stems (dialogue.trials (turns ++ [turn])) pin before source after ∧
      (Known (dialogue.trials (turns ++ [turn])) path pin ↔
        (∀ later ∈ after, later.reached = false) ∧
          (source.Opens path pin ∨ Known before path pin)) := by
  obtain ⟨⟨path, pin, cause, rfl, hpin⟩, hmalformed⟩ := spends_of_spends? hspends
  obtain ⟨before, source, after, hstems⟩ := recalls_run hopened turns pin hpin
  refine ⟨path, pin, cause, before, source, after ++
    ((dialogue.run turns).trial? turn).toList, rfl, ?_⟩
  have hlater : Stems (dialogue.trials (turns ++ [turn])) pin before source
      (after ++ ((dialogue.run turns).trial? turn).toList) := by
    rw [trials_snoc]
    cases htrial : (dialogue.run turns).trial? turn with
    | none => simpa using hstems
    | some trial => exact hstems.snoc (hmalformed trial htrial)
  exact ⟨hlater, hlater.known_iff⟩

/-- The SIM waits for its PIN still after that was accepted, for all that the service knows, and
prompting is switched off and on again. -/
def untilResumed : List (Turn Simulator) :=
  untilAsked ++ [.answer (some "1234"), .submit, .setActive false, .setActive true]

theorem spent_pin_known_iff_resumed :
    (lastChance.run untilResumed).spends? .next = some (.enter ⟨"/m"⟩ .pin "1234" .query) ∧
      Known (lastChance.trials (untilResumed ++ [.next])) ⟨"/m"⟩ "1234" := by
  have hopened : lastChance.Opened lastAttempt ⟨none, [], none⟩ false := rfl
  have hspends : (lastChance.run untilResumed).spends? .next =
      some (.enter ⟨"/m"⟩ .pin "1234" .query) := by decide +kernel
  have htrials : lastChance.trials (untilResumed ++ [.next]) =
      [⟨.enter ⟨"/m"⟩ .pin "1234" .query, true, none⟩] := by decide +kernel
  refine ⟨hspends, ?_⟩
  obtain ⟨path, pin, cause, before, source, after, hattempt, hstems, hknown⟩ :=
    spent_pin_known_iff hopened untilResumed hspends
  obtain ⟨rfl, -, rfl, -⟩ := Attempt.enter.inj hattempt
  refine hknown.2 ?_
  have hsplit := hstems.split
  rw [htrials] at hsplit
  cases before with
  | nil =>
    obtain ⟨rfl, rfl⟩ := List.cons.inj hsplit
    exact ⟨fun _ hmem => absurd hmem List.not_mem_nil, .inl (by decide)⟩
  | cons first rest =>
    have hrest := (List.cons.inj hsplit).2
    simp at hrest

/-! ### A PIN of another SIM -/

/-- Two SIMs, of which the second waits for its PIN. -/
def twoSims : Simulator :=
  let sims := (Simulator.empty.addModem ⟨"/m"⟩ [.simManager]).addModem ⟨"/other"⟩ [.simManager]
  match sims.lockSim ⟨"/other"⟩ "9999" 3 with
  | .ok sims => sims
  | .error _ => sims

/-- A session that is opened on a bus with no modem. -/
def unserved : Dialogue Simulator :=
  let (result, service) := (Service.stopped Simulator.empty).openSession 0 ⟨none, [], none⟩ false
  match result with
  | .ok session => ⟨service, session, 0, false⟩
  | .error _ => ⟨service, .new service.board ⟨none, [], none⟩ false [], 0, false⟩

/-- The user is asked for the PIN of a modem whose SIM is not attached yet. Meanwhile the session
hears of another SIM, which it will serve, and only then is the first SIM attached and its PIN
changed. -/
def untilServed : List (Turn Simulator) :=
  [.daemon (Simulator.empty.addModem ⟨"/m"⟩ []), .process (.modemAdded ⟨"/m"⟩ []), .changeCode 0,
    .next, .daemon twoSims, .process (.modemAdded ⟨"/other"⟩ []), .flush, .hear,
    .process (.propertyChanged ⟨"/m"⟩ (.modem (.interfaces (.ofList [.simManager])))), .flush, .hear,
    .answer (some "1234"), .answer (some "5678"), .answer (some "5678"), .submit, .next, .next,
    .flush]

/-- The session tries the PIN of the one SIM on the other. -/
theorem not_always_known :
    ¬ ∀ (dialogue : Dialogue Simulator) (daemon : Simulator) (options : CodeOptions)
        (startup : Bool) (turns : List (Turn Simulator)) (turn : Turn Simulator) (path : ModemPath)
        (pin : String) (cause : Cause), dialogue.Opened daemon options startup →
      (dialogue.run turns).spends? turn = some (.enter path .pin pin cause) →
      Known (dialogue.trials (turns ++ [turn])) path pin := by
  intro halways
  have hspends : (unserved.run untilServed).spends? .settled =
      some (.enter ⟨"/other"⟩ .pin "5678" .query) := by decide +kernel
  have htrials : unserved.trials (untilServed ++ [.settled]) =
      [⟨.change ⟨"/m"⟩ "1234" "5678" 0, true, none⟩] := by decide +kernel
  have hknown := halways unserved .empty ⟨none, [], none⟩ false untilServed .settled _ _ _ rfl
    hspends
  rw [htrials, ← List.nil_append [_]] at hknown
  rcases Trial.known_snoc.1 hknown with hopens | ⟨-, hbefore⟩
  · exact absurd hopens (by decide)
  · exact Trial.not_known_nil hbefore

end Dialogue

end Telephony
