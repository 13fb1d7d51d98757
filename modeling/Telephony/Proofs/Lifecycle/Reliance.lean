import Telephony.Proofs.Lifecycle.Calls
import Telephony.Proofs.Lifecycle.Enrolment
import Telephony.Proofs.Lifecycle.Stopped
import Telephony.Simulator.Basic

/-!
# What users can rely on

Whatever its users have done, a service stops when it is asked to exactly if it runs and nobody needs
it, and then starts again as a new one; a token that is not open closes nothing; and a start that
fails leaves all but the daemon alone.
-/

namespace Telephony

namespace Usage

variable {δ : Type} {usage : Usage δ}

/-- Nobody needs the service. -/
structure Unused (usage : Usage δ) : Prop where
  registered : usage.registered = []
  outstanding : usage.outstanding = []
  session : usage.session = none

/-- The board agrees with what the users hold, and a service that does not run is blank and
unused. -/
structure Sound (usage : Usage δ) : Prop where
  enrols : usage.service.board.Enrols usage.made usage.closed
  handle : ∀ session, usage.session = some session →
    ∀ subscription ∈ session.subscriptions, ∃ listener, (subscription, listener) ∈ usage.made
  active : usage.service.board.sessionActive = usage.session.isSome
  resting : usage.service.running = false → usage.service.Blank ∧ usage.Unused

theorem sound_opened (daemon : δ) : (opened daemon).Sound where
  enrols := ⟨Observers.holds_empty, fun _ _ hmem => absurd hmem List.not_mem_nil,
    fun _ hmem => absurd hmem List.not_mem_nil⟩
  handle _ hsession := nomatch hsession
  active := rfl
  resting _ := ⟨Service.blank_new daemon, rfl, rfl, rfl⟩

namespace Sound

theorem isIdle_iff (hsound : usage.Sound) (haccounted : usage.Accounted) :
    usage.service.board.isIdle = true ↔ usage.Unused := by
  rw [hsound.enrols.isIdle_iff, hsound.active, ← haccounted.idle_iff, Option.isSome_eq_false_iff,
    Option.isNone_iff_eq_none]
  exact ⟨fun ⟨hregistered, houtstanding, hsession⟩ => ⟨hregistered, houtstanding, hsession⟩,
    fun hunused => ⟨hunused.registered, hunused.outstanding, hunused.session⟩⟩

theorem found_iff (hsound : usage.Sound) (subscription : Subscription) :
    (usage.service.delist subscription).1 = true ↔
      (∃ listener, (subscription, listener) ∈ usage.made) ∧ subscription ∉ usage.closed := by
  refine hsound.enrols.holds.found_iff.trans ?_
  simp only [List.mem_filter, decide_eq_true_eq, exists_and_right]

end Sound

theorem Unused.put (hunused : usage.Unused) (service : Service (Recorded δ)) :
    (usage.put service).Unused where
  registered := hunused.registered
  outstanding := by
    rw [Usage.put, hunused.outstanding]
    rfl
  session := hunused.session

/-! ### Uses -/

namespace Sound

variable {service : Service (Recorded δ)}

/-- Whatever serves on, and stays blank when it does not run. -/
theorem attends (hsound : usage.Sound) (hattends : usage.service.board.Attends service.board)
    (hrunning : service.running = false →
      usage.service.running = false ∧ (usage.service.Blank → service.Blank)) :
    (usage.put service).Sound where
  enrols := hsound.enrols.attends hattends
  handle := hsound.handle
  active := hattends.session.trans hsound.active
  resting hhalted := by
    obtain ⟨hbefore, hkept⟩ := hrunning hhalted
    obtain ⟨hblank, hunused⟩ := hsound.resting hbefore
    exact ⟨hkept hblank, hunused.put service⟩

/-- A running service that serves on. -/
theorem serves (hsound : usage.Sound) (hserves : usage.service.Serves service)
    (hrunning : usage.service.running = true) : (usage.put service).Sound := by
  refine hsound.attends hserves.board fun hhalted => ?_
  rw [hserves.running, hrunning] at hhalted
  cases hhalted

variable [Daemon δ]

theorem start (hsound : usage.Sound) : (usage.put usage.service.start.2).Sound := by
  rcases usage.service.start_cases with ⟨hrunning, hstart⟩ |
    ⟨failure, daemon, hhalted, hconnect, hstart⟩ | ⟨-, -, hrunning, hattends, -, -⟩
  · rw [hstart]
    exact hsound.serves (.refl _) hrunning
  · rw [hstart]
    exact hsound.attends ⟨rfl, rfl⟩ fun _ => ⟨hhalted, fun hblank => hblank.refused hconnect⟩
  · refine hsound.attends hattends fun hhalted => ?_
    cases hrunning.symm.trans hhalted

theorem stop (hsound : usage.Sound) (haccounted : usage.Accounted) :
    (usage.put usage.service.stop.2).Sound := by
  rcases usage.service.stop_cases with ⟨hstop, -⟩ | ⟨hidle, -, -, hblank, hattends⟩
  · rw [hstop]
    exact hsound.attends ⟨rfl, rfl⟩ fun hhalted => ⟨hhalted, id⟩
  · have hunused := (hsound.isIdle_iff haccounted).1 hidle
    exact
      { enrols := hsound.enrols.attends hattends
        handle := hsound.handle
        active := hattends.session.trans hsound.active
        resting := fun _ => ⟨hblank, hunused.put _⟩ }

theorem register (hsound : usage.Sound) (topic : Topic) (listener : Listener) :
    (usage.step (.register topic listener)).Sound := by
  have hstarted := hsound.start
  simp only [Usage.step, Service.subscribe]
  rcases hstart : usage.service.start with ⟨failure | _, started⟩ <;> rw [hstart] at hstarted
  · exact hstarted
  · have hrunning : usage.service.start.2.running = true :=
      Service.running_of_start (congrArg Prod.fst hstart)
    rw [hstart] at hrunning
    exact
      { enrols := hstarted.enrols.subscribe topic listener
        handle := fun session hsession subscription hmem =>
          (hsound.handle session hsession subscription hmem).imp fun _ => List.mem_append_left _
        active := hstarted.active
        resting := fun hhalted => by cases hrunning.symm.trans hhalted }

theorem close (hsound : usage.Sound) (haccounted : usage.Accounted) (subscription : Subscription) :
    (usage.step (.close subscription)).Sound := by
  cases hfound : (usage.service.delist subscription).1 with
  | false =>
    simp only [Usage.step, Service.close_of_unknown hfound]
    exact hsound.attends ⟨rfl, rfl⟩ fun hhalted => ⟨hhalted, id⟩
  | true =>
    obtain ⟨hmade, hopen⟩ := (hsound.found_iff subscription).1 hfound
    let struck : Usage δ :=
      { usage with
        service := (usage.service.delist subscription).2
        closed := usage.closed ++ [subscription] }
    have hstruck : struck.Sound :=
      { enrols := hsound.enrols.unsubscribe hmade
        handle := hsound.handle
        active := hsound.active
        resting := fun hhalted => by
          obtain ⟨listener, hmem⟩ := hmade
          have hnone := (hsound.resting hhalted).2.registered
          have hlisted : (subscription, listener) ∈ usage.registered :=
            List.mem_filter.2 ⟨hmem, decide_eq_true hopen⟩
          rw [hnone] at hlisted
          cases hlisted }
    simp only [Usage.step, Service.close_of_known hfound]
    exact hstruck.stop ⟨haccounted.accounts, haccounted.balanced⟩

omit [Daemon δ] in
/-- The usage after its session has let go of its registrations. -/
theorem released (hsound : usage.Sound) {session : CodeSession}
    (hsession : usage.session = some session) :
    Sound { usage with
      service := usage.service.releaseSession session.subscriptions
      closed := usage.closed ++ session.subscriptions
      session := none } where
  enrols := hsound.enrols.releaseSession (hsound.handle session hsession)
  handle _ hnone := nomatch hnone
  active := by
    obtain ⟨observers, hreleased⟩ :=
      usage.service.board.releaseSession_eq session.subscriptions
    simp only [Service.releaseSession, hreleased]
    rfl
  resting hhalted := by
    have hnone := (hsound.resting hhalted).2.session
    cases hsession.symm.trans hnone

theorem dropSession (hsound : usage.Sound) : (usage.step .dropSession).Sound := by
  simp only [Usage.step, Usage.part]
  cases hsession : usage.session with
  | none => exact hsound
  | some session =>
    have hreleased := hsound.released hsession
    exact
      { enrols := hreleased.enrols
        handle := hreleased.handle
        active := hreleased.active
        resting := fun hhalted => by
          have hnone := (hsound.resting hhalted).2.session
          cases hsession.symm.trans hnone }

theorem closeSession (hsound : usage.Sound) (haccounted : usage.Accounted) :
    (usage.step .closeSession).Sound := by
  simp only [Usage.step, Usage.part]
  cases hsession : usage.session with
  | none => exact hsound
  | some session =>
    have hledger := usage.service.ledger_releaseSession session.subscriptions
    refine (hsound.released hsession).stop ⟨?_, ?_⟩
    · exact hledger.symm ▸ haccounted.accounts
    · exact hledger.symm ▸ haccounted.balanced

theorem openSession (hsound : usage.Sound) (number : Nat) (options : CodeOptions)
    (startup : Bool) : (usage.step (.openSession number options startup)).Sound := by
  simp only [Usage.step]
  rcases usage.service.openSession_cases number options startup with ⟨-, hopen⟩ |
    ⟨failure, daemon, -, hstart, hopen⟩ | ⟨-, hstarted, session, hsubscriptions, hopen⟩
  · rw [hopen]
    exact hsound.attends ⟨rfl, rfl⟩ fun hhalted => ⟨hhalted, id⟩
  · rw [hopen]
    have hrefused := hsound.start
    rw [hstart] at hrefused
    exact hrefused
  · rw [hopen]
    have hrunning := Service.running_of_start hstarted
    have hattends := usage.service.engaged.attends_start
    have hengaged : usage.service.engaged.board.Enrols usage.made usage.closed :=
      ⟨hsound.enrols.holds, hsound.enrols.issued, hsound.enrols.closed⟩
    have henrols := ((hengaged.attends hattends).subscribe .sim (.session number)).subscribe
      .codeQuery (.session number)
    rw [List.append_assoc] at henrols
    refine
      { enrols := ?_
        handle := ?_
        active := hattends.session
        resting := fun hhalted => by cases hrunning.symm.trans hhalted }
    · simp only [hsubscriptions]
      exact henrols
    · rintro other hother subscription hmem
      obtain rfl := Option.some.inj hother
      exact ⟨.session number, List.mem_append_right _
        (List.mem_map.2 ⟨subscription, hmem, rfl⟩)⟩

omit [Daemon δ] in
/-- A blank service refuses requests. -/
theorem accept (hsound : usage.Sound) {result : Except Failure CallId × Service (Recorded δ)}
    (hserves : usage.service.Serves result.2)
    (hrefuses : usage.service.Blank → ∃ failure, result = (.error failure, usage.service)) :
    (usage.accept result).Sound := by
  cases hrunning : usage.service.running with
  | true =>
    have hkept := hsound.serves hserves hrunning
    obtain ⟨failure | id, service⟩ := result
    · exact hkept
    · have hup : service.running = true := hserves.running.trans hrunning
      exact ⟨hkept.enrols, hkept.handle, hkept.active,
        fun hhalted => by cases hup.symm.trans hhalted⟩
  | false =>
    obtain ⟨failure, rfl⟩ := hrefuses (hsound.resting hrunning).1
    exact hsound.attends ⟨rfl, rfl⟩ fun hhalted => ⟨hhalted, id⟩

theorem step (hsound : usage.Sound) (haccounted : usage.Accounted) (use : Use δ) :
    (usage.step use).Sound := by
  cases use with
  | get => exact hsound.start
  | register topic listener => exact hsound.register topic listener
  | close subscription => exact hsound.close haccounted subscription
  | destroy => exact hsound.stop haccounted
  | openSession number options startup => exact hsound.openSession number options startup
  | closeSession => exact hsound.closeSession haccounted
  | dropSession => exact hsound.dropSession
  | submit path code =>
    exact hsound.accept (usage.service.serves_submit path code usage.ticket)
      fun hblank => ⟨_, hblank.submit path code usage.ticket⟩
  | listOperators path scan =>
    exact hsound.accept (usage.service.serves_listOperators path scan usage.ticket)
      fun hblank => ⟨_, hblank.listOperators path scan usage.ticket⟩
  | turn index =>
    have hserves := usage.service.serves_turnAt index
    exact hsound.attends hserves.board fun hhalted =>
      ⟨hserves.running.symm.trans hhalted, fun hblank => hblank.turnAt index⟩
  | process event =>
    simp only [Usage.step]
    split
    · next hrunning => exact hsound.serves (usage.service.serves_process event) hrunning
    · exact hsound
  | flush =>
    simp only [Usage.step]
    split
    · next hrunning => exact hsound.serves usage.service.serves_flush hrunning
    · exact hsound
  | daemon next =>
    refine hsound.attends ⟨rfl, rfl⟩ fun hhalted => ⟨hhalted, fun hblank => ?_⟩
    exact hblank.of_idle rfl rfl (.of_same rfl)

theorem run (hsound : usage.Sound) (haccounted : usage.Accounted) (uses : List (Use δ)) :
    (usage.run uses).Sound := by
  induction uses generalizing usage with
  | nil => exact hsound
  | cons use rest ih => exact ih (hsound.step haccounted use) (haccounted.step use)

end Sound

/-! ### Reliance -/

variable [Daemon δ]

/-- What users can rely on. -/
structure Reliable (usage : Usage δ) : Prop where
  /-- The service stops when it is asked to exactly if it runs and nobody needs it. -/
  stops_iff : usage.service.stop.1 = true ↔ usage.service.running = true ∧ usage.Unused
  stays : usage.service.stop.1 = false → usage.service.stop.2 = usage.service
  afresh : usage.service.stop.1 = true → usage.service.stop.2.LikeNew
  /-- Nothing that is done while the service does not run leaves a trace. -/
  halted : usage.service.running = false → usage.service.LikeNew
  needed : ¬ usage.Unused → usage.service.running = true
  /-- A token that was never made, or has been closed, closes nothing. -/
  unknown : ∀ subscription,
    (∀ listener, (subscription, listener) ∉ usage.made) ∨ subscription ∈ usage.closed →
      usage.service.close subscription = (.error .observerNotFound, usage.service)
  known : ∀ subscription listener, (subscription, listener) ∈ usage.made →
    subscription ∉ usage.closed → (usage.service.close subscription).1 = .ok ()
  /-- What needs the service started fails with it, and leaves all but the daemon as it was. -/
  unstarted : ∀ failure, usage.service.start.1 = .error failure → ∃ daemon,
    usage.service.start.2 = { usage.service with daemon } ∧
      (∀ topic listener, usage.service.subscribe topic listener =
        (.error failure, { usage.service with daemon })) ∧
      ∀ number options startup, usage.service.openSession number options startup =
        (.error failure, { usage.service with daemon })
  /-- Before the ids run out, an id is outstanding as long as a request is unanswered. -/
  answered_iff : usage.ids.length < 2 ^ 32 - 1 → (usage.outstanding = [] ↔
    ∀ number < usage.ids.length, ∃ answer, (⟨number⟩, answer) ∈ usage.service.answered)

theorem Sound.reliable (hsound : usage.Sound) (haccounted : usage.Accounted) : usage.Reliable where
  stops_iff := by
    rw [← hsound.isIdle_iff haccounted, and_comm]
    rcases usage.service.stop_cases with ⟨hstop, hbusy⟩ | ⟨hidle, hrunning, hstops, -, -⟩
    · rw [hstop]
      exact iff_of_false Bool.false_ne_true hbusy
    · exact iff_of_true hstops ⟨hidle, hrunning⟩
  stays hstays := by
    rcases usage.service.stop_cases with ⟨hstop, -⟩ | ⟨-, -, hstops, -, -⟩
    · rw [hstop]
    · cases hstops.symm.trans hstays
  afresh hstops := by
    rcases usage.service.stop_cases with ⟨hstop, -⟩ | ⟨-, -, -, hblank, -⟩
    · rw [hstop] at hstops
      cases hstops
    · exact hblank.likeNew
  halted hhalted := (hsound.resting hhalted).1.likeNew
  needed hneeded := by
    by_contra hhalted
    exact hneeded (hsound.resting (Bool.eq_false_iff.2 hhalted)).2
  unknown subscription hunknown := by
    refine Service.close_of_unknown (Bool.eq_false_iff.2 fun hfound => ?_)
    obtain ⟨⟨listener, hmade⟩, hopen⟩ := (hsound.found_iff subscription).1 hfound
    rcases hunknown with hnever | hclosed
    · exact hnever listener hmade
    · exact hopen hclosed
  known subscription listener hmade hopen := by
    have hfound := (hsound.found_iff subscription).2 ⟨⟨listener, hmade⟩, hopen⟩
    rw [Service.close_of_known hfound]
  unstarted failure hfails := by
    rcases usage.service.start_cases with ⟨-, hstart⟩ | ⟨cause, daemon, hhalted, hconnect, hstart⟩ |
      ⟨-, hok, -, -, -, -⟩
    · rw [hstart] at hfails
      cases hfails
    · obtain rfl : cause = failure := by
        rw [hstart] at hfails
        exact Except.error.inj hfails
      refine ⟨daemon, by rw [hstart], fun topic listener => ?_, fun number options startup => ?_⟩
      · simp only [Service.subscribe, hstart]
      -- no session is open on a service that does not run, so that is not what refuses a new one
      · have hinactive : usage.service.board.sessionActive = false := by
          rw [hsound.active, (hsound.resting hhalted).2.session]
          rfl
        have hrefused : usage.service.engaged.start.1 = .error cause :=
          congrArg Prod.fst (Service.start_of_refused (show usage.service.engaged.running = false
            from hhalted) hconnect)
        rcases usage.service.openSession_cases number options startup with ⟨hactive, -⟩ |
          ⟨_, _, -, hagain, hopen⟩ | ⟨-, hok, -⟩
        · cases hinactive.symm.trans hactive
        · cases hstart.symm.trans hagain
          exact hopen
        · cases hrefused.symm.trans hok
    · cases hok.symm.trans hfails
  answered_iff := haccounted.answered_iff

/-- Whatever the users of a service do, they can rely on it. -/
theorem reliable_run (daemon : δ) (uses : List (Use δ)) : ((opened daemon).run uses).Reliable :=
  ((sound_opened daemon).run (accounted_opened daemon) uses).reliable
    ((accounted_opened daemon).run uses)

-- a registration keeps the service from being stopped, and closing it stops the service
example :
    let usage := (opened Simulator.empty).run [.get, .register .sim (.caller "a"), .destroy]
    usage.service.running = true ∧
      (usage.step (.close ⟨.sim, ⟨1⟩⟩)).service.running = false := by
  decide +kernel

end Usage

end Telephony
