import Telephony.Proofs.Codes.Interviews

/-!
# Confirmed codes

Only proper codes reach the daemon, whoever passes them and whatever happens meanwhile. A new PIN that
the session submits has been given twice, in the two dialogs that came last.
-/

namespace Telephony

open CodeSession (Dialog Question Attempt)

variable {δ : Type} [Daemon δ]

namespace Interview

open Happening (dialogs Confirms)

/-! ### What has been answered -/

/-- What a phase rests on: the dialogs that came last, and their answers. -/
def Heard (past : List Happening) : CodeSession.Phase → Prop
  | .asking (.newPin _) _ _ =>
    ∃ earlier first, first.kind = .newPin ∧ dialogs past = earlier ++ [.shown first]
  | .asking (.confirmPin _ code) _ _ =>
    ∃ earlier first second, first.kind = .newPin ∧ second.kind = .confirmPin ∧
      dialogs past = earlier ++ [.shown first, .answered (some code), .shown second]
  | .submitting attempt => ∀ newPin, attempt.request.replacement? = some newPin →
    Confirms newPin past
  | _ => True

theorem heard_of_plain {phase : CodeSession.Phase} (hplain : phase.Plain)
    (past : List Happening) : Heard past phase := by
  cases phase with
  | asking question attempts message =>
    cases question with
    | newPin renewal => exact hplain.elim
    | confirmPin renewal first => exact hplain.elim
    | _ => trivial
  | submitting attempt =>
    intro newPin hnewPin
    cases hplain.symm.trans hnewPin
  | _ => trivial

theorem heard_of_dialogs {before after : List Happening} {phase : CodeSession.Phase}
    (hsame : dialogs after = dialogs before) (hheard : Heard before phase) : Heard after phase := by
  unfold Heard Confirms at *
  split <;> simp_all

/-- A trace in which every new PIN that the session submitted had been confirmed. -/
structure Sound (past : List Happening) : Prop where
  proper : ∀ happening ∈ past, ∀ request ∈ happening.request?, request.Proper
  confirmed : ∀ before request newPin, before ++ [.submitted request] <+: past →
    request.replacement? = some newPin → Confirms newPin before

theorem Sound.concat {past : List Happening} {happening : Happening} (hsound : Sound past)
    (hproper : ∀ request ∈ happening.request?, request.Proper)
    (hconfirmed : ∀ request newPin, happening = .submitted request →
      request.replacement? = some newPin → Confirms newPin past) :
    Sound (past ++ [happening]) where
  proper other hmem := by
    rcases List.mem_append.1 hmem with hold | hnew
    · exact hsound.proper other hold
    · rw [List.mem_singleton.1 hnew]
      exact hproper
  confirmed before request newPin hprefix hnewPin := by
    rcases List.prefix_concat_iff.1 hprefix with hwhole | hearlier
    · obtain ⟨rfl, hlast⟩ := List.append_inj' hwhole rfl
      exact hconfirmed request newPin (List.singleton_inj.1 hlast).symm hnewPin
    · exact hsound.confirmed before request newPin hearlier hnewPin

/-- An answer for a new PIN is asked for again, and one that agrees with the first is confirmed. -/
theorem heard_entered {past : List Happening} {session : CodeSession} {question : Question}
    {attempts : Option UInt8} {message : Option CodeSession.Message}
    (hheard : Heard past (.asking question attempts message)) (code : String) :
    Heard (past ++ [.answered (some code)] ++
        (session.entered question code).phase.dialog?.toList.map .shown)
      (session.entered question code).phase := by
  have hasked : ∀ renewal next,
      Heard (past ++ [.answered (some code)] ++ [.shown ⟨.newPin, none, next⟩])
        (.asking (.newPin renewal) none next) := fun renewal next =>
    ⟨dialogs (past ++ [.answered (some code)]), _, rfl, Happening.dialogs_shown ..⟩
  cases question with
  | unlock path kind cause =>
    cases kind with
    | pin | pin2 => exact fun _ hnewPin => nomatch hnewPin
    | puk | puk2 => exact hasked _ _
  | currentPin path number => exact hasked _ _
  | newPin renewal =>
    obtain ⟨earlier, first, hfirst, hpast⟩ := hheard
    refine ⟨earlier, first, ⟨.confirmPin, none, none⟩, hfirst, rfl, ?_⟩
    change dialogs (past ++ [.answered (some code)] ++ [.shown ⟨.confirmPin, none, none⟩]) = _
    rw [Happening.dialogs_shown, Happening.dialogs_answered, hpast, List.append_assoc,
      List.append_assoc]
    rfl
  | confirmPin renewal first =>
    by_cases hsame : first = code
    · subst hsame
      obtain ⟨earlier, asked, second, hasked, hsecond, hpast⟩ := hheard
      have hconfirms : Confirms first (past ++ [.answered (some first)] ++ []) := by
        refine ⟨earlier, asked, second, hasked, hsecond, ?_⟩
        simp [hpast]
      simp only [CodeSession.entered, if_true]
      cases renewal with
      | unblock path kind puk cause =>
        intro newPin hnewPin
        cases hnewPin
        exact hconfirms
      | replace path current number =>
        intro newPin hnewPin
        cases hnewPin
        exact hconfirms
    · simp only [CodeSession.entered, if_neg hsame]
      exact hasked _ _

theorem Sound.dialog {past : List Happening} (hsound : Sound past) {happening : Happening}
    (hdialog : happening.ofDialog = true) : Sound (past ++ [happening]) := by
  refine hsound.concat (fun request hrequest => ?_) fun request newPin hsubmitted => ?_
  · cases happening with
    | shown dialog | answered code => cases hrequest
    | submitted arrived | requested arrived => cases hdialog
  · subst hsubmitted
    cases hdialog

/-! ### Runs -/

/-- An interview whose trace is sound, and in which the session asks and submits only what rests on
the dialogs that came last. -/
structure Careful (interview : Interview δ) : Prop where
  sound : Sound interview.past
  heard : Heard interview.past interview.dialogue.session.phase

variable {interview : Interview δ}

theorem Careful.request (hcareful : interview.Careful) (request : PinRequest) :
    (interview.step (.request request)).Careful := by
  refine ⟨?_, heard_of_dialogs (Happening.dialogs_append_of_requests _ ?_) hcareful.heard⟩
  · rcases arrivals_handlePin interview.dialogue.service request with hnone | ⟨hproper, hone⟩
    · simpa only [step, hnone, List.map_nil, List.append_nil] using hcareful.sound
    · simp only [step, hone, List.map_cons, List.map_nil]
      refine hcareful.sound.concat (fun other hother => ?_) fun _ _ hsubmitted => by cases hsubmitted
      cases hother
      exact hproper
  · intro happening hmem
    obtain ⟨arrived, -, rfl⟩ := List.mem_map.1 hmem
    rfl

theorem Sound.shown {past : List Happening} (hsound : Sound past) (opened : Option Dialog) :
    Sound (past ++ opened.toList.map .shown) := by
  cases opened with
  | none => simpa using hsound
  | some dialog => exact hsound.dialog rfl

theorem exists_asking {phase : CodeSession.Phase} {dialog : Dialog}
    (hdialog : phase.dialog? = some dialog) :
    ∃ question attempts message, phase = .asking question attempts message := by
  cases phase with
  | asking question attempts message => exact ⟨question, attempts, message, rfl⟩
  | _ => cases hdialog

theorem Careful.answer (hcareful : interview.Careful) (code : Option String) :
    (interview.step (.turn (.answer code))).Careful := by
  have hstep : interview.step (.turn (.answer code)) =
      ⟨interview.dialogue.step (.answer code), interview.past ++
        (interview.dialogue.session.phase.dialog?.map fun _ => code).toList.map .answered ++
        (interview.dialogue.session.answer code).1.phase.dialog?.toList.map .shown⟩ := by
    have hquiet : arrivals interview.dialogue.service.daemon
        interview.dialogue.service.daemon = [] := arrivals_append (List.append_nil _).symm
    simp only [step, recordedTurn, Turn.map, answer?, Dialogue.step, hquiet, Dialogue.opens,
      Turn.answers, List.map_nil, List.append_nil]
    simp
  have hsession : (interview.dialogue.step (.answer code)).session =
      (interview.dialogue.session.answer code).1 := rfl
  rw [hstep]
  cases hdialog : interview.dialogue.session.phase.dialog? with
  | none =>
    have hkept : (interview.dialogue.session.answer code).1 = interview.dialogue.session := by
      unfold CodeSession.answer
      split
      all_goals first | rfl | (next hphase => rw [hphase] at hdialog; cases hdialog)
    refine ⟨?_, ?_⟩
    · simpa [hkept, hdialog] using hcareful.sound
    · simpa [hsession, hkept, hdialog] using hcareful.heard
  | some dialog =>
    obtain ⟨question, attempts, message, hphase⟩ := exists_asking hdialog
    have hanswered : Sound (interview.past ++ [.answered code]) := hcareful.sound.dialog rfl
    refine ⟨hanswered.shown _, ?_⟩
    dsimp only
    rw [hsession]
    cases code with
    | none =>
      have hended : (interview.dialogue.session.answer none).1.phase = .idle := by
        simp only [CodeSession.answer, hphase]
        exact CodeSession.dismissed_idle _ question
      rw [hended]
      trivial
    | some code =>
      have hentered : (interview.dialogue.session.answer (some code)).1 =
          interview.dialogue.session.entered question code := by
        simp only [CodeSession.answer, hphase]
      have hheard := hcareful.heard
      rw [hphase] at hheard
      rw [hentered]
      exact heard_entered hheard code

/-- What a session does without an answer rests on no other, but for what it does already. -/
theorem Careful.turn (hcareful : interview.Careful) {turn : Turn δ}
    (hanswers : turn.answers = false) : (interview.step (.turn turn)).Careful := by
  have hrecorded : (interview.recordedTurn turn).answers = false := by
    cases turn <;> first | rfl | cases hanswers
  have hanswer : interview.answer? turn = none := by
    cases turn <;> first | rfl | cases hanswers
  have hstep : interview.step (.turn turn) =
      ⟨interview.dialogue.step (interview.recordedTurn turn), interview.past ++
        (arrivals interview.dialogue.service.daemon
          (interview.dialogue.step (interview.recordedTurn turn)).service.daemon).map .submitted ++
        (interview.dialogue.opens (interview.recordedTurn turn)).toList.map .shown⟩ := by
    simp only [step, hanswer, Option.toList_none, List.map_nil, List.append_nil]
  have hsubmitted : Sound (interview.past ++
      (arrivals interview.dialogue.service.daemon
        (interview.dialogue.step (interview.recordedTurn turn)).service.daemon).map .submitted) := by
    obtain ⟨more, hmore, hnone | ⟨attempt, hphase, hproper, hone⟩⟩ := interview.record_turn turn
    · simpa only [arrivals_append hmore, hnone, List.map_nil, List.append_nil] using hcareful.sound
    · have hheard := hcareful.heard
      rw [hphase] at hheard
      rw [arrivals_append hmore, hone]
      refine hcareful.sound.concat (fun request hrequest => ?_) fun request newPin hsame => ?_
      · cases hrequest
        exact hproper
      · cases hsame
        exact hheard newPin
  rw [hstep]
  refine ⟨hsubmitted.shown _, ?_⟩
  rcases interview.dialogue.plain_of_not_answers hrecorded with hplain | hsame
  · exact heard_of_plain hplain _
  · dsimp only
    rw [hsame, Dialogue.opens_of_phase hrecorded hsame, Option.toList_none, List.map_nil,
      List.append_nil]
    refine heard_of_dialogs (Happening.dialogs_append_of_requests _ fun happening hmem => ?_)
      hcareful.heard
    obtain ⟨arrived, -, rfl⟩ := List.mem_map.1 hmem
    rfl

theorem Careful.step (hcareful : interview.Careful) (move : Move δ) :
    (interview.step move).Careful := by
  cases move with
  | request request => exact hcareful.request request
  | turn turn =>
    cases hanswers : turn.answers with
    | false => exact hcareful.turn hanswers
    | true =>
      cases turn with
      | answer code => exact hcareful.answer code
      | _ => cases hanswers

/-- The trace tells of every request that has reached the daemon since its record was `start`. -/
def Complete (start : List Asked) (interview : Interview δ) : Prop :=
  ∃ more, interview.dialogue.service.daemon.record = start ++ more ∧
    interview.past.filterMap (·.request?) = more.filterMap (·.demand.pin?)

theorem Complete.step {start : List Asked} (hcomplete : interview.Complete start) (move : Move δ) :
    (interview.step move).Complete start := by
  obtain ⟨more, hmore, htold⟩ := hcomplete
  have hgrown : ∃ new, (interview.step move).dialogue.service.daemon.record =
        interview.dialogue.service.daemon.record ++ new ∧
      (interview.step move).past.filterMap (·.request?) =
        interview.past.filterMap (·.request?) ++ new.filterMap (·.demand.pin?) := by
    cases move with
    | turn turn =>
      obtain ⟨new, hnew, -⟩ := interview.record_turn turn
      refine ⟨new, hnew, ?_⟩
      simp only [Interview.step, arrivals_append hnew, List.filterMap_append, List.filterMap_map]
      simp [Function.comp_def, Happening.request?]
    | request request =>
      obtain ⟨new, hnew⟩ : ∃ new,
          (interview.dialogue.service.handlePin request).2.daemon.record =
            interview.dialogue.service.daemon.record ++ new := by
        rcases interview.dialogue.service.record_handlePin request with hnone | ⟨-, refusal, hasked⟩
        · exact ⟨[], hnone.trans (List.append_nil _).symm⟩
        · exact ⟨_, hasked⟩
      refine ⟨new, hnew, ?_⟩
      simp only [Interview.step, arrivals_append hnew, List.filterMap_append, List.filterMap_map]
      simp [Function.comp_def, Happening.request?]
  obtain ⟨new, hnew, hpast⟩ := hgrown
  refine ⟨more ++ new, ?_, ?_⟩
  · rw [hnew, hmore, List.append_assoc]
  · rw [hpast, htold, List.filterMap_append]

theorem Careful.run (hcareful : interview.Careful) (moves : List (Move δ)) :
    (interview.run moves).Careful := by
  induction moves generalizing interview with
  | nil => exact hcareful
  | cons move rest ih => exact ih (hcareful.step move)

theorem Complete.run {start : List Asked} (hcomplete : interview.Complete start)
    (moves : List (Move δ)) : (interview.run moves).Complete start := by
  induction moves generalizing interview with
  | nil => exact hcomplete
  | cons move rest ih => exact ih (hcomplete.step move)

/-- All requests that have reached the daemon since are in the trace. Their codes are proper, for a
malformed one would have been refused, with the daemon not asked. A new PIN that the session has
submitted is what was answered to the last two dialogs before, which asked for it and once more. -/
structure Secure (start : List Asked) (interview : Interview δ) : Prop where
  complete : interview.Complete start
  proper : ∀ happening ∈ interview.past, ∀ request ∈ happening.request?, request.Proper
  refused : ∀ request : PinRequest, ¬ request.Proper →
    ∃ reason, interview.dialogue.service.handlePin request =
      (.error (.invalidInput "security code" reason), interview.dialogue.service)
  confirmed : ∀ before request newPin, before ++ [.submitted request] <+: interview.past →
    request.replacement? = some newPin → Confirms newPin before

/-- Whatever the daemon and the user do, and whoever else makes requests, only proper and confirmed
codes reach the SIM. -/
theorem run_secure {service : Service (Recorded δ)} {dialogue : Dialogue (Recorded δ)}
    {options : CodeOptions} {startup : Bool}
    (hopened : service.openSession dialogue.number options startup =
      (.ok dialogue.session, dialogue.service)) (moves : List (Move δ)) :
    (run ⟨dialogue, []⟩ moves).Secure dialogue.service.daemon.record := by
  have hempty : Sound [] := ⟨nofun, fun before request newPin hprefix => by simp at hprefix⟩
  have hidle : dialogue.session.phase = .idle := Service.idle_of_opened hopened
  have hheard : Heard [] dialogue.session.phase :=
    heard_of_plain (CodeSession.plain_of_idle hidle) []
  have hstart : Complete dialogue.service.daemon.record ⟨dialogue, []⟩ :=
    ⟨[], (List.append_nil _).symm, rfl⟩
  have hcareful : Careful ⟨dialogue, []⟩ := ⟨hempty, hheard⟩
  exact ⟨hstart.run moves, (hcareful.run moves).sound.proper,
    fun request => Service.handlePin_of_malformed _, (hcareful.run moves).sound.confirmed⟩

/-- A session on a recorded bus with a locked SIM. -/
def recordedChance : Dialogue (Recorded Simulator) :=
  let (result, service) :=
    (Service.stopped ⟨Dialogue.lastAttempt, []⟩).openSession 0 ⟨none, [], none⟩ false
  match result with
  | .ok session => ⟨service, session, 0, false⟩
  | .error _ => ⟨service, .new service.board ⟨none, [], none⟩ false [], 0, false⟩

/-- The PIN is wrong, as is one passed past the session, and with the PUK a new one is given. The
first attempt to confirm it fails. -/
def untilRenewed : List (Move Simulator) :=
  Dialogue.untilRefused.map .turn ++
    [.request (.enter ⟨"/m"⟩ .pin "12"), .turn (.answer (some "87654321")),
      .turn (.answer (some "1111")), .turn (.answer (some "2222")), .turn (.answer (some "3333")),
      .request (.enter ⟨"/m"⟩ .pin "1234"), .turn (.answer (some "3333")), .turn .submit]

theorem run_secure_renewed :
    Confirms "3333" (run ⟨recordedChance, []⟩ untilRenewed).past.dropLast := by
  have hopened : (Service.stopped ⟨Dialogue.lastAttempt, []⟩).openSession recordedChance.number
      ⟨none, [], none⟩ false = (.ok recordedChance.session, recordedChance.service) := rfl
  have hlast : (run ⟨recordedChance, []⟩ untilRenewed).past.dropLast ++
      [.submitted (.reset ⟨"/m"⟩ .puk "87654321" "3333")] <+:
        (run ⟨recordedChance, []⟩ untilRenewed).past := by decide +kernel
  exact (run_secure hopened untilRenewed).confirmed _ _ _ hlast rfl

end Interview

end Telephony
